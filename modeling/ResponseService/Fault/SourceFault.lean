import ResponseService.Fault.Mishap
import ResponseService.Number.Word
import ResponseService.Text.Blank

/-!
# Faults in source texts

A fault in a source text is reported with the problem and, if they are known,
the file, the lines and the columns of its place and the text of the line.  As
a message it is the problem and its place on one line (`message`).  In a trace
the place comes first, then the line with carets below the part of it that is
at fault, and the problem last (`account`).

Nothing keeps the details of a place from being of kinds that do not fit: a
line that is no text, or columns that cannot be reckoned with.  There is no
account of such a fault.  The numbers of the lines are shown as soon as the
fault is taken down for a trace, before anything is told of it (`hindrance?`).
-/

namespace ResponseService

/-- A problem of a source text and its place; null stands for what is not
known. -/
structure SourceFault where
  problem : Json
  file : Json
  line : Json
  /-- The column where the fault begins, counted from one. -/
  column : Json
  /-- The text of the line. -/
  excerpt : Json
  /-- The line where the fault ends. -/
  endLine : Json
  /-- The column behind the fault. -/
  endColumn : Json

namespace SourceFault

/-- The elements of a value that has some. -/
def elements? : Json → Option (List Json)
  | .array items => some items
  | .object members => some (members.map fun member => .text member.1)
  | .text text => some (text.map fun point => .text [point])
  | _ => none

/-- A fault without a place. -/
def placeless (problem : Json) : SourceFault :=
  ⟨problem, .null, .null, .null, .null, .null, .null⟩

/-- The fault of a report: a problem, and possibly the details of its place. -/
def ofReport : List Json → SourceFault
  | [] => placeless .null
  | [problem, details] =>
      match elements? details with
      | some (file :: line :: column :: excerpt :: further) =>
          ⟨problem, file, line, column, excerpt, further[0]?.getD .null,
            further[1]?.getD .null⟩
      | _ => placeless problem
  | problem :: _ => placeless problem

/-! ## The message -/

/-- The name of a file without the folders before it. -/
def baseName (file : Text) : Text :=
  (file.reverse.takeWhile (·.value ≠ 0x2F)).reverse

/-- The number of a line in a message; one that no word holds is shown as minus
one. -/
def lineNumber (line : Int) : Int :=
  if Word.holds line then line else -1

/-- The place in brackets. -/
def bracketed (fault : SourceFault) : Text :=
  match fault.file, fault.line with
  | .text file, .integer line =>
      " (" ++ baseName file ++ ", line " ++ Decimal.ofInt (lineNumber line) ++
        ")"
  | .text file, _ => " (" ++ baseName file ++ ")"
  | _, .integer line =>
      " (line " ++ Decimal.ofInt (lineNumber line) ++ ")"
  | _, _ => []

/-- The problem, and its place in brackets. -/
def message (fault : SourceFault) : Except Mishap Text :=
  fault.problem.told.map (· ++ fault.bracketed)

/-! ## The account -/

/-- What keeps a fault from being taken down. -/
def hindrance? (fault : SourceFault) : Option Mishap :=
  fault.line.hindrance?.or fault.endLine.hindrance?

/-- What stands before each line of an excerpt. -/
def indentation : Text := "    "

/-- The line of a source text without what surrounds it, and how many code
points before it were left out. -/
def trimmedLine (text : Text) : Text × Nat :=
  let whole := (text.reverse.dropWhile (·.value = 0x0A)).reverse
  let line :=
    whole.dropWhile fun point =>
      decide (point.value = 0x20) || decide (point.value = 0x0A) ||
        decide (point.value = 0x0C)
  (line, whole.length - line.length)

/-- The name of a value's kind. -/
def kindName (value : Json) : Text := value.kindName nofun

/-- A number cannot be added to a value, or taken from it. -/
def unreckonable (sign : Text) (value : Json) : Mishap :=
  .ofKind
    ("unsupported operand type(s) for " ++ sign ++ ": '" ++ kindName value ++
      "' and 'int'")

/-- A value is no column to go on from. -/
def unextendable : Json → Mishap
  | .object members => unreckonable "+" (.object members)
  | value =>
      .ofKind
        ("can only concatenate " ++ kindName value ++ " (not \"int\") to " ++
          kindName value)

/-- Where a fault ends. -/
inductive Ending where
  /-- Before this column. -/
  | before (column : Int)
  /-- Before a column that is no integer. -/
  | fractional
  /-- Before a column that is a text. -/
  | text
  deriving DecidableEq, Repr

namespace Ending

/-- The ending of a fault that is one column wide. -/
def ofStart (column : Json) : Except Mishap Ending :=
  match column.count?, column with
  | some number, _ => .ok (.before (number + 1))
  | none, .float _ => .ok .fractional
  | none, value => .error (unextendable value)

/-- A value is a number that equals an integer. -/
def equals (value : Json) (number : Int) : Bool :=
  match value with
  | .float double => decide (double.toInt? = some number)
  | value => decide (value.count? = some number)

/-- A column is given twice. -/
def isSame (column given : Json) : Bool :=
  match column, given with
  | .text start, .text behind => decide (start = behind)
  | column, given => column.count?.any (equals given)

/-- The ending of a fault that begins at a column: it is one column wide if no
other ending is given. -/
def ofColumns (column given : Json) : Except Mishap Ending :=
  match given with
  | .null => ofStart column
  | .array _ | .object _ =>
      .error (.ofKind ("unhashable type: '" ++ kindName given ++ "'"))
  | given =>
      if equals given 0 || isSame column given || equals given (-1) then
        ofStart column
      else
        match given.count?, given with
        | some number, _ => .ok (.before number)
        | none, .float _ => .ok .fractional
        | none, _ => .ok .text

end Ending

/-- Carets below a stretch of a line that begins behind `before` code points;
what is blank before them stays as it is, so that they stand where they
should. -/
def carets (line : Text) (before width : Nat) : Text :=
  indentation ++
    ((line.take before).map fun point =>
      if point.isBlank then point else (' ' : CodePoint)) ++
    List.replicate width ('^' : CodePoint) ++ "\n"

/-- The carets of a fault that begins at an integral column of a line, of which
`skipped` code points were left out.  There are none if it begins in these. -/
def caretsFrom (line : Text) (skipped : Nat) (column : Int) :
    Ending → Except Mishap Text
  | .text => .error (unreckonable "-" (.text []))
  | .before past =>
      if column - 1 - skipped < 0 then .ok []
      else if Word.holds (past - column) then
        .ok (carets line (column - 1 - skipped).toNat (past - column).toNat)
      else
        .error
          (.builtIn "OverflowError"
            "cannot fit 'int' into an index-sized integer")
  | .fractional =>
      if column - 1 - skipped < 0 then .ok []
      else if (column - 1 - skipped).toNat < Double.beyondFinite then
        .error (.ofKind "can't multiply sequence by non-int of type 'float'")
      else
        .error (.builtIn "OverflowError" "int too large to convert to float")

/-- The carets of a fault that begins at a column. -/
def caretText (line : Text) (skipped : Nat) (column : Json)
    (ending : Ending) : Except Mishap Text :=
  match column.count?, column with
  | some number, _ => caretsFrom line skipped number ending
  | none, .float number =>
      if ending = .text then .error (unreckonable "-" (.text []))
      else if number.reaches (skipped + 1) then
        .error
          (.ofKind
            ("slice indices must be integers or None " ++
              "or have an __index__ method"))
      else .ok []
  | none, value => .error (unreckonable "-" value)

/-- The line at fault and its carets. -/
def excerptText (fault : SourceFault) : Except Mishap Text :=
  match fault.excerpt, fault.column with
  | .null, _ => .ok []
  | .text text, .null => .ok (indentation ++ (trimmedLine text).1 ++ "\n")
  | .text text, column => do
      let (line, skipped) := trimmedLine text
      let ending ← Ending.ofColumns column fault.endColumn
      let carets ← caretText line skipped column ending
      return indentation ++ line ++ "\n" ++ carets
  | value, _ =>
      .error
        (.builtIn "AttributeError"
          ("'" ++ kindName value ++ "' object has no attribute 'rstrip'"))

/-- The line that tells of the place, if a line is known. -/
def placeText (fault : SourceFault) : Except Mishap Text :=
  match fault.line with
  | .null => .ok []
  | line => do
      let file ←
        if fault.file.isVoid then .ok (Text.ofString "<string>")
        else fault.file.told
      return "  File \"" ++ file ++ "\", line " ++ line.shown ++ "\n"

/-- The file, if it is all that is known of the place. -/
def suffix (fault : SourceFault) : Except Mishap Text :=
  match fault.line, fault.file with
  | .null, .null => .ok []
  | .null, file => file.told.map fun name => " (" ++ name ++ ")"
  | _, _ => .ok []

/-- The problem, or that there is none. -/
def problemText (fault : SourceFault) : Except Mishap Text :=
  if fault.problem.isVoid then .ok "<no detail available>"
  else fault.problem.told

/-- What a trace tells of a fault of a class. -/
def account (className : Text) (fault : SourceFault) : Except Mishap Text := do
  let place ← fault.placeText
  let suffix ← fault.suffix
  let excerpt ← fault.excerptText
  let problem ← fault.problemText
  return place ++ excerpt ++ className ++ ": " ++ problem ++ suffix

end SourceFault

end ResponseService
