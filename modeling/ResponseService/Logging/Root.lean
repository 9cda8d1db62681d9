import ResponseService.Logging.Entry
import ResponseService.Text.Blank

/-!
# Where records go

Records go to the handlers of one root, in their order, if their level is not
below the root's.  Without any handler, what is at least a warning is shown as
its bare message.

Setting up the service's handler removes the ones it had set up before, adds a
new one at the end and then sets the level.  Handlers of other names are left
where they are, and a level that cannot be set leaves the old one in force.

Two handlers may be alike and still not be the same one, so each has a number,
given to it when it is made.
-/

namespace ResponseService.Logging

/-- How a handler writes records. -/
inductive Layout where
  /-- As lines of JSON. -/
  | json
  /-- As lines of plain text. -/
  | text
  /-- Not at all: the handler is not one of the service's. -/
  | foreign
  deriving DecidableEq, Repr

/-- What a handler is like. -/
structure HandlerKind where
  name : Option Text
  layout : Layout
  deriving DecidableEq, Repr

/-- Something that receives records. -/
structure Handler extends HandlerKind where
  /-- The number that tells it from other handlers of its kind. -/
  number : Nat
  deriving DecidableEq, Repr

/-- The level and the handlers in force. -/
structure Root where
  level : Int
  handlers : List Handler
  /-- How many handlers have been made, which is the number of the next one. -/
  made : Nat
  /-- The next handler is none of those in force. -/
  number_lt : ∀ handler ∈ handlers, handler.number < made

namespace Handler

/-- The name of the handler of this service. -/
def serviceName : Text := "cruise_response"

/-- What a handler writes: the line of a record, or nothing if it has none. -/
def write (timestamp time : Text) (handler : Handler) (record : Record) : Text :=
  let line :=
    match handler.layout with
    | .json => (record.jsonLine timestamp).toOption
    | .text => (record.textLine time).toOption
    | .foreign => none
  match line with
  | none => []
  | some line => line ++ "\n"

end Handler

/-- The kind of this service's handler for a format. -/
def HandlerKind.ofFormat (format : Text) : HandlerKind :=
  ⟨some Handler.serviceName,
    if format = Text.ofString "json" then .json else .text⟩

namespace Root

/-- Nothing has been set up. -/
def bare : Root := ⟨Level.warning, [], 0, List.forall_mem_nil _⟩

/-- The level of a service that names none. -/
def defaultLevelName : Text := "INFO"

/-- The format of a service that names none. -/
def defaultFormat : Text := "json"

/-- The handler that is made next. -/
def next (root : Root) (kind : HandlerKind) : Handler := ⟨kind, root.made⟩

/-- Make a handler and add it at the end. -/
def addHandler (root : Root) (kind : HandlerKind) : Root where
  level := root.level
  handlers := root.handlers ++ [root.next kind]
  made := root.made + 1
  number_lt := by
    intro handler member
    rcases List.mem_append.mp member with older | newest
    · exact Nat.lt_succ_of_lt (root.number_lt handler older)
    · rw [List.mem_singleton.mp newest]
      exact Nat.lt_succ_self root.made

@[simp]
theorem handlers_addHandler (root : Root) (kind : HandlerKind) :
    (root.addHandler kind).handlers = root.handlers ++ [root.next kind] := rfl

/-- Take a handler out. -/
def removeHandler (root : Root) (handler : Handler) : Root where
  level := root.level
  handlers := root.handlers.erase handler
  made := root.made
  number_lt other member := root.number_lt other (List.mem_of_mem_erase member)

/-- Take a handler out if it has this name. -/
def dismiss (name : Option Text) (root : Root) (handler : Handler) : Root :=
  if handler.name = name then root.removeHandler handler else root

/-- Take the handlers of a name out, one after the other. -/
def removeNamed (root : Root) (name : Option Text) : Root :=
  root.handlers.foldl (dismiss name) root

/-- Put a new handler of this service in the place of those it has. -/
def equip (root : Root) (format : Text) : Root :=
  (root.removeNamed (some Handler.serviceName)).addHandler (.ofFormat format)

/-- Set up the service's handler and the level; the problem, if the level
cannot be set. -/
def setUp (root : Root) (levelName format : Text) :
    Root × Option LevelProblem :=
  match Level.ofName levelName with
  | .ok level => ({ root.equip format with level := level }, none)
  | .error problem => (root.equip format, some problem)

/-- Records of this level are not dropped. -/
def accepts (root : Root) (level : Int) : Bool :=
  decide (0 < level) && decide (root.level ≤ level)

/-- The text that a record adds to the output. -/
def output (root : Root) (timestamp time : Text) (record : Record) : Text :=
  if !root.accepts record.level then []
  else if root.handlers.isEmpty then
    if Level.warning ≤ record.level then record.message ++ "\n" else []
  else root.handlers.flatMap fun handler =>
    handler.write timestamp time record

/-- The lines that a record adds to the output. -/
def lines (root : Root) (timestamp time : Text) (record : Record) : List Text :=
  (root.output timestamp time record).lines

/-- The lines that an entry adds to the output, or why it is refused.  An entry
whose message cannot be made adds none. -/
def file (root : Root) (timestamp time : Text) (entry : Entry) :
    Except Condition (List Text) :=
  if !root.accepts entry.level then .ok []
  else
    match entry.clash?, entry.record with
    | some name, _ => .error (Entry.clashFault name)
    | none, .ok record => .ok (root.lines timestamp time record)
    | none, .error _ => .ok []

end Root

end ResponseService.Logging
