import ResponseService.Fault.Condition

/-!
# Faults and their traces

A fault is a condition together with the faults that led to it: one that it
was deliberately raised from (its cause) and one that was being handled when
it arose (its context).  The chain of a fault goes from it to its cause, or,
if it has none, to its context unless that is hidden.  A fault may also be a
group and stand for several faults at once, its parts.

The trace of a fault tells the chain from its far end to the fault itself, and
says between each two neighbours how they are linked.  A fault that was raised
is told with the places on its way, in the words that are given with it.  The
parts of a group follow behind a margin, each with a trace of its own.

There is no trace if something cannot be put into words.  Before anything is
told, the faults of the chain and the parts of its groups are taken down.  What
stands off the chain is never looked at.
-/

namespace ResponseService

/-- A condition, how it came about and what led to it. -/
structure Fault where
  condition : Condition
  /-- The places that a raised fault came through, as a trace tells them. -/
  way : Option Text
  /-- Remarks that were added to the fault. -/
  notes : List Text
  /-- Whether the fault counts as nothing.  A trace then looks neither for what
  led to it nor for its parts. -/
  hollow : Bool
  cause : Option Fault
  context : Option Fault
  contextHidden : Bool
  /-- The faults that a group stands for. -/
  parts : List Fault

/-- How a fault is linked to the one before it. -/
inductive Link where
  /-- It was raised from that one. -/
  | cause
  /-- It arose while that one was being handled. -/
  | context
  deriving DecidableEq, Repr

namespace Link

/-- The sentence between the traces of two linked faults. -/
def sentence : Link → Text
  | .cause =>
      "\nThe above exception was the direct cause " ++
        "of the following exception:\n\n"
  | .context =>
      "\nDuring handling of the above exception, " ++
        "another exception occurred:\n\n"

end Link

namespace Fault

/-- A fault that nothing led to and that was not raised. -/
def bare (condition : Condition) : Fault :=
  ⟨condition, none, [], false, none, none, false, []⟩

/-- A fault that was raised and that nothing led to; its way is not told. -/
def ofCondition (condition : Condition) : Fault :=
  { bare condition with way := some [] }

/-- A fault that was raised from another one. -/
def causedBy (condition : Condition) (cause : Fault) : Fault :=
  { ofCondition condition with
    cause := some cause
    context := some cause
    contextHidden := true }

@[simp]
theorem ofCondition_inj {left right : Condition} :
    ofCondition left = ofCondition right ↔ left = right :=
  ⟨congrArg Fault.condition, congrArg ofCondition⟩

@[simp]
theorem causedBy_ne_ofCondition (condition other : Condition) (cause : Fault) :
    causedBy condition cause ≠ ofCondition other :=
  fun same => nomatch congrArg Fault.cause same

/-- A fault that was raised while another one was being handled. -/
def amid (fault handled : Fault) : Fault :=
  { fault with context := some handled }

/-- A mishap as a fault. -/
def ofMishap (mishap : Mishap) : Fault := ofCondition (.ofMishap mishap)

/-- A number of things of a name, which takes an `s` unless there is one. -/
def counted (count : Nat) (name : Text) : Text :=
  let ending : Text := if count = 1 then [] else "s"
  Decimal.ofNat count ++ " " ++ name ++ ending

/-- Several faults as one, which has a message and says how many they are. -/
def group (faultClass : FaultClass) (message : Text) (parts : List Fault) :
    Fault :=
  let words := message ++ " (" ++ counted parts.length "sub-exception" ++ ")"
  { bare (.system ⟨{ faultClass with wording := .own (.ok words) }, []⟩) with
    parts := parts }

/-- The same fault, raised. -/
def raise (fault : Fault) : Fault :=
  { fault with way := some (fault.way.getD []) }

/-- A fault of which it is told through which places it came, and likewise for
the faults of its chain. -/
def along (way : Condition → Text) : Fault → Fault
  | ⟨condition, given, notes, hollow, cause, context, hidden, parts⟩ =>
      ⟨condition, given.map fun _ => way condition, notes, hollow,
        match cause with
        | none => none
        | some cause => some (along way cause),
        match context with
        | none => none
        | some context => some (along way context),
        hidden, parts⟩

/-- The name of the fault's class. -/
def name (fault : Fault) : Text := fault.condition.name

/-- The fault in words. -/
def message (fault : Fault) : Except Mishap Text := fault.condition.message

/-- The next fault of the chain, and how it is linked to this one. -/
def next? (fault : Fault) : Option (Link × Fault) :=
  match fault.hollow, fault.cause, fault.context, fault.contextHidden with
  | false, some cause, _, _ => some (.cause, cause)
  | false, none, some context, false => some (.context, context)
  | _, _, _, _ => none

/-- The parts that a trace tells. -/
def shownParts (fault : Fault) : List Fault :=
  if fault.hollow then [] else fault.parts

/-! ## Taking down -/

mutual

/-- What keeps the chain of a fault behind it, and its parts, from being taken
down.  The next fault comes first and then the parts, and then what led to the
last part, to the other parts and to the next fault. -/
def earlierHindrance? : Fault → Option Mishap
  | ⟨_, _, _, hollow, cause, context, hidden, parts⟩ =>
      let next : Option Mishap × Option Mishap :=
        match hollow, cause, context, hidden with
        | false, some cause, _, _ =>
            (cause.condition.hindrance?, earlierHindrance? cause)
        | false, none, some context, false =>
            (context.condition.hindrance?, earlierHindrance? context)
        | _, _, _, _ => (none, none)
      let ofParts : Option Mishap × Option Mishap :=
        if hollow then (none, none)
        else
          (parts.findSome? fun part => part.condition.hindrance?,
            partsHindrance? parts)
      ((next.1.or ofParts.1).or ofParts.2).or next.2

/-- What keeps those that led to several faults from being taken down, the last
fault first. -/
def partsHindrance? : List Fault → Option Mishap
  | [] => none
  | part :: rest => (partsHindrance? rest).or (earlierHindrance? part)

end

/-- What keeps a fault and its chain from being taken down. -/
def hindrance? (fault : Fault) : Option Mishap :=
  fault.condition.hindrance?.or fault.earlierHindrance?

/-! ## Telling -/

/-- How deep groups may stand in one another to be told. -/
def groupDepth : Nat := 10

/-- How many parts of a group are told. -/
def groupWidth : Nat := 15

/-- Spaces before what stands in groups. -/
def indentation (depth : Nat) : Text :=
  List.replicate (2 * depth) (' ' : CodePoint)

/-- The margin of what stands in groups. -/
def margin (depth : Nat) : Text :=
  if depth = 0 then [] else indentation depth ++ "| "

/-- A text behind the margin. -/
def behind (depth : Nat) (text : Text) : Text :=
  Text.indented (margin depth) text

/-- The line above the way of a fault that was raised. -/
def heading (depth : Nat) (way : Option Text) : Text :=
  match way with
  | none => []
  | some way =>
      behind depth "Traceback (most recent call last):\n" ++ behind depth way

/-- The line above the way of a group that was raised; where a group stands in
no other one, a plus sign begins the margin of its parts. -/
def groupHeading (depth : Nat) (way : Option Text) : Text :=
  let title : Text := "Exception Group Traceback (most recent call last):\n"
  match way with
  | none => []
  | some way =>
      (if depth = 0 then indentation 1 ++ "+ " ++ title
       else behind depth title) ++ behind (max depth 1) way

/-- The own lines of a fault: its account and its notes. -/
def ownLines (depth : Nat) (account : Text) (notes : List Text) : Text :=
  behind depth (account ++ "\n") ++
    notes.flatMap fun note => behind depth (note ++ "\n")

/-- The line above a part of a group. -/
def partTitle (depth number : Nat) (title : Text) : Text :=
  indentation depth ++ (if number = 0 then Text.ofString "+-" else "  ") ++
    "+---------------- " ++ title ++ " ----------------\n"

/-- The line below the last part of a group. -/
def groupEnd (depth : Nat) : Text :=
  indentation (depth + 1) ++ "+------------------------------------\n"

/-- How many parts of a group are not told. -/
def omittedText (count : Nat) : Text :=
  "and " ++ counted count "more exception" ++ "\n"

/-- What is told of a group that stands too deep in others. -/
def omittedGroup : Text := "... (max_group_depth is 10)\n"

/-- Some fault of the chain is a group. -/
def leadsToGroup : Fault → Bool
  | ⟨_, _, _, hollow, cause, context, hidden, parts⟩ =>
      (!hollow && !parts.isEmpty) ||
        match hollow, cause, context, hidden with
        | false, some cause, _, _ => leadsToGroup cause
        | false, none, some context, false => leadsToGroup context
        | _, _, _, _ => false

/-- The lines below the last part of a group: the end, unless a group that is
told in this part has ended it already. -/
def partEnd (depth : Nat) (part : Fault) : Text :=
  if depth < groupDepth && part.leadsToGroup then [] else groupEnd depth

mutual

/-- The lines that tell of a fault and its chain, behind the margin of the
groups that they stand in. -/
def toldAt (depth : Nat) : Fault → Except Mishap Text
  | ⟨condition, way, notes, hollow, cause, context, hidden, parts⟩ => do
      let before : Except Mishap Text :=
        match hollow, cause, context, hidden with
        | false, some cause, _, _ =>
            (toldAt depth cause).map
              (· ++ behind depth Link.cause.sentence)
        | false, none, some context, false =>
            (toldAt depth context).map
              (· ++ behind depth Link.context.sentence)
        | _, _, _, _ => .ok []
      let own : Except Mishap Text :=
        match hollow, parts with
        | false, part :: rest =>
            if groupDepth < depth then .ok (behind depth omittedGroup)
            else do
              let account ← condition.account
              let told ← partsAt (max depth 1) 0 (part :: rest)
              return groupHeading depth way ++
                ownLines (max depth 1) account notes ++ told
        | _, _ =>
            condition.account.map fun account =>
              heading depth way ++ ownLines depth account notes
      return (← before) ++ (← own)

/-- The lines that tell of the parts of a group behind the first `number`. -/
def partsAt (depth number : Nat) : List Fault → Except Mishap Text
  | [] => .ok []
  | part :: rest =>
      if number < groupWidth then do
        let own ← toldAt (depth + 1) part
        let others ← partsAt depth (number + 1) rest
        return partTitle depth number (Decimal.ofNat (number + 1)) ++ own ++
          (if rest.isEmpty then partEnd depth part else []) ++ others
      else
        .ok (partTitle depth number "..." ++
          behind (depth + 1) (omittedText (rest.length + 1)) ++ groupEnd depth)

end

/-- The lines that tell of a fault and its chain. -/
def trace (fault : Fault) : Except Mishap Text :=
  match fault.hindrance? with
  | some mishap => .error mishap
  | none => fault.toldAt 0

/-- The trace of a fault that may be absent. -/
def traceOf : Option Fault → Except Mishap Text
  | none => .ok []
  | some fault => fault.trace

end Fault

end ResponseService
