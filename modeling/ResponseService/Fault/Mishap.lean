import ResponseService.Json.Display
import ResponseService.Json.Token

/-!
# What cannot be put into words

Putting something into words can fail in its turn.  A mishap is the failure of
the attempt: it has the name of a class and a message.  It is taken to be a
plain failure: no order to end, and none that has an answer of its own.

A value cannot be shown if it holds an integer of too many digits, or if its
containers stand too deep in one another; `Json.hindrance?` is the first thing
on the way through the value that keeps it from being shown.
-/

namespace ResponseService

/-- What goes wrong while something is put into words. -/
structure Mishap where
  /-- The name of the class. -/
  name : Text
  /-- Where a class that is not built in is found. -/
  origin : Text
  message : Text
  deriving DecidableEq, Repr

namespace Mishap

/-- A mishap of a class that is built in. -/
def builtIn (name message : Text) : Mishap := ⟨name, [], message⟩

/-- A value is of a kind that does not fit. -/
def ofKind (message : Text) : Mishap := builtIn "TypeError" message

/-- An integer has too many digits to be shown. -/
def longInteger : Mishap :=
  builtIn "ValueError"
    ("Exceeds the limit (4300 digits) for integer string conversion; " ++
      "use sys.set_int_max_str_digits() to increase the limit")

/-- Containers stand too deep in one another to be shown. -/
def deepValue : Mishap :=
  builtIn "RecursionError"
    ("maximum recursion depth exceeded " ++
      "while getting the repr of an object")

/-- One element of a text is asked for that stands before its beginning.  Where
the fault of the given class is kept is not told. -/
def outside (name : Text) : Mishap :=
  builtIn "SystemError"
    ("<built-in method __format__ of " ++ name ++
      " object> returned a result with an exception set")

end Mishap

namespace Json

/-- How many containers of a value that is shown may stand in one another. -/
def displayLimit : Nat := 900

mutual

/-- What keeps a value from being shown, if at most `limit` containers may
stand in one another. -/
def hindranceWithin (limit : Nat) : Json → Option Mishap
  | .integer value =>
      if digitLimit < Decimal.digitCount value.natAbs then
        some .longInteger
      else none
  | .array items =>
      match limit with
      | 0 => some .deepValue
      | below + 1 => hindranceOfItems below items
  | .object members =>
      match limit with
      | 0 => some .deepValue
      | below + 1 => hindranceOfMembers below members
  | _ => none

/-- What keeps the items of an array from being shown. -/
def hindranceOfItems (limit : Nat) : List Json → Option Mishap
  | [] => none
  | item :: rest =>
      (hindranceWithin limit item).or (hindranceOfItems limit rest)

/-- What keeps the members of an object from being shown. -/
def hindranceOfMembers (limit : Nat) : List (Text × Json) → Option Mishap
  | [] => none
  | (_, value) :: rest =>
      (hindranceWithin limit value).or (hindranceOfMembers limit rest)

end

/-- What keeps a value from being shown. -/
def hindrance? (value : Json) : Option Mishap :=
  hindranceWithin displayLimit value

end Json

/-- A text, unless something keeps it from being given. -/
def unlessHindered (hindrance : Option Mishap) (text : Text) :
    Except Mishap Text :=
  match hindrance with
  | some mishap => .error mishap
  | none => .ok text

namespace Json

/-- A value as it stands alone in a message, if it can be shown. -/
def told (value : Json) : Except Mishap Text :=
  unlessHindered value.hindrance? value.shown

end Json

end ResponseService
