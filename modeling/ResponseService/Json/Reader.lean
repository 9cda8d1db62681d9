import ResponseService.Json.Token
import ResponseService.Ordered

/-!
# Reading documents

Reading is a run of a machine over the tokens of a text.  The state of the
machine is what may come next together with the containers that are still
open; `step` takes one token and `finish` says what the end of the tokens
means.  A run is a fold of `step` (`run`), so what is wrong with a text is
decided by the tokens before the place of the error and by nothing behind it.

A container that would stand inside too many others is refused when it is
opened.  A member whose name has been set before keeps the first place and
takes the new value.
-/

namespace ResponseService.Json

/-- A container that is open, with the place of one value left out. -/
inductive Frame where
  /-- The next item of an array; the items before it, last one first. -/
  | item (before : List Json)
  /-- The value of a member; the members before it. -/
  | member (before : List (Text × Json)) (name : Text)

/-- What may come next. -/
inductive State where
  /-- A value. -/
  | value (outer : List Frame)
  /-- The first item of an array, or its end. -/
  | firstItem (outer : List Frame)
  /-- A comma, or the end of an array. -/
  | afterItem (items : List Json) (outer : List Frame)
  /-- The first name of an object, or its end. -/
  | firstName (outer : List Frame)
  /-- A further name. -/
  | name (members : List (Text × Json)) (outer : List Frame)
  /-- The colon behind a name. -/
  | colon (members : List (Text × Json)) (name : Text) (outer : List Frame)
  /-- A comma, or the end of an object. -/
  | afterMember (members : List (Text × Json)) (outer : List Frame)
  /-- Nothing: the document is complete. -/
  | complete (document : Json)

/-- The brackets of a container. -/
inductive Bracket where
  | array
  | object
  deriving DecidableEq, Repr

/-- Why no document was read. -/
inductive ReadError where
  /-- The text is no JSON. -/
  | malformed (problem : Problem) (position : Nat)
  /-- A container stands inside too many others. -/
  | tooDeep (bracket : Bracket)
  /-- An integer has too many digits. -/
  | oversized (digits : Nat)
  deriving DecidableEq, Repr

/-- How many containers may be open at the same time. -/
def depthLimit : Nat := 990

/-- Put a complete value into its place. -/
def deliver (value : Json) : List Frame → State
  | [] => .complete value
  | .item before :: outer => .afterItem (value :: before) outer
  | .member before name :: outer =>
      .afterMember (Ordered.set before name value) outer

/-- Open a container unless `limit` are open already. -/
def enter (limit : Nat) (bracket : Bracket) (outer : List Frame) :
    Except ReadError State :=
  if outer.length < limit then
    match bracket with
    | .array => .ok (.firstItem outer)
    | .object => .ok (.firstName outer)
  else .error (.tooDeep bracket)

/-- Take a token where a value is due. -/
def stepValue (limit : Nat) (outer : List Frame) (placed : Placed) :
    Except ReadError State :=
  match placed.token with
  | .openArray => enter limit .array outer
  | .openObject => enter limit .object outer
  | .text value => .ok (deliver (.text value) outer)
  | .scalar value => .ok (deliver value outer)
  | _ => .error (.malformed .missingValue placed.position)

/-- Take one token. -/
def step (limit : Nat) (state : State) (placed : Placed) :
    Except ReadError State :=
  match state with
  | .value outer => stepValue limit outer placed
  | .firstItem outer =>
      match placed.token with
      | .closeArray => .ok (deliver (.array []) outer)
      | _ => stepValue limit (.item [] :: outer) placed
  | .afterItem items outer =>
      match placed.token with
      | .comma => .ok (.value (.item items :: outer))
      | .closeArray => .ok (deliver (.array items.reverse) outer)
      | _ => .error (.malformed .missingComma placed.position)
  | .firstName outer =>
      match placed.token with
      | .closeObject => .ok (deliver (.object []) outer)
      | .text name => .ok (.colon [] name outer)
      | _ => .error (.malformed .missingName placed.position)
  | .name members outer =>
      match placed.token with
      | .text name => .ok (.colon members name outer)
      | _ => .error (.malformed .missingName placed.position)
  | .colon members name outer =>
      match placed.token with
      | .colon => .ok (.value (.member members name :: outer))
      | _ => .error (.malformed .missingColon placed.position)
  | .afterMember members outer =>
      match placed.token with
      | .comma => .ok (.name members outer)
      | .closeObject => .ok (deliver (.object members) outer)
      | _ => .error (.malformed .missingComma placed.position)
  | .complete _ => .error (.malformed .extraData placed.position)

/-- The problem of a state at a place that holds nothing it can take. -/
def State.problem : State → Problem
  | .value _ | .firstItem _ => .missingValue
  | .firstName _ | .name _ _ => .missingName
  | .colon _ _ _ => .missingColon
  | .afterItem _ _ | .afterMember _ _ => .missingComma
  | .complete _ => .extraData

/-- An integer may come next. -/
def State.takesNumber : State → Bool
  | .value _ | .firstItem _ => true
  | _ => false

/-- A quoted text may come next. -/
def State.takesText : State → Bool
  | .value _ | .firstItem _ | .firstName _ | .name _ _ => true
  | _ => false

/-- Where the tokens end, a document must be complete and the text at its end;
an obstacle counts only if what it begins could have come next. -/
def finish (state : State) (ending : Ending) : Except ReadError Json :=
  match ending.obstacle with
  | none =>
      match state with
      | .complete document => .ok document
      | _ => .error (.malformed state.problem ending.position)
  | some (.brokenText problem position) =>
      if state.takesText then .error (.malformed problem position)
      else .error (.malformed state.problem ending.position)
  | some (.oversized digits) =>
      if state.takesNumber then .error (.oversized digits)
      else .error (.malformed state.problem ending.position)
  | some .unknown => .error (.malformed state.problem ending.position)

/-- Take tokens one after the other. -/
def run (limit : Nat) (state : State) (tokens : List Placed) :
    Except ReadError State :=
  tokens.foldlM (step limit) state

/-- The document of a text, with at most `limit` containers open at a time. -/
def readWithin (limit : Nat) (text : Text) : Except ReadError Json :=
  if text.head?.any (·.value = 0xFEFF) then
    .error (.malformed .byteOrderMark 0)
  else
    match run limit (.value []) (tokens text).1 with
    | .ok state => finish state (tokens text).2
    | .error error => .error error

/-- The document of a text. -/
def read (text : Text) : Except ReadError Json := readWithin depthLimit text

end ResponseService.Json
