import ResponseService.Fault.Coding
import ResponseService.Fault.FaultClass
import ResponseService.Fault.SourceFault

/-!
# Faults of the system

Faults that are none of the service's own arrive as a class and the values
reported with it.  The class decides how the report is put into words, and the
number in a report on the operating system may narrow a general class down to
a particular one.

There are no words of a fault if something that was reported cannot be shown.
-/

namespace ResponseService

/-- A fault known by its class and by what was reported with it. -/
structure SystemFault where
  faultClass : FaultClass
  /-- The values that were reported. -/
  report : List Json

namespace SystemFault

open FaultClass

/-- A fault of a built-in class. -/
def builtIn (name : Text) (report : List Json) : SystemFault :=
  ⟨.builtIn name, report⟩

/-- The name of a fault's class. -/
def name (fault : SystemFault) : Text := fault.faultClass.name

/-- The particular class of an error number of the operating system. -/
def classOfNumber? (number : Int) : Option Text :=
  if number = 1 ∨ number = 13 then some "PermissionError"
  else if number = 2 then some "FileNotFoundError"
  else if number = 3 then some "ProcessLookupError"
  else if number = 4 then some "InterruptedError"
  else if number = 10 then some "ChildProcessError"
  else if number = 11 ∨ number = 114 ∨ number = 115 then
    some "BlockingIOError"
  else if number = 17 then some "FileExistsError"
  else if number = 20 then some "NotADirectoryError"
  else if number = 21 then some "IsADirectoryError"
  else if number = 32 ∨ number = 108 then some "BrokenPipeError"
  else if number = 103 then some "ConnectionAbortedError"
  else if number = 104 then some "ConnectionResetError"
  else if number = 110 then some "TimeoutError"
  else if number = 111 then some "ConnectionRefusedError"
  else none

/-- A report on the operating system has two to five values. -/
def isNumbered (report : List Json) : Bool :=
  decide (2 ≤ report.length ∧ report.length ≤ 5)

/-- The class that a report belongs to, given the one it was filed under. -/
def classify (name : Text) (report : List Json) : Text :=
  let general :=
    if operatingSystemAliases.contains name then operatingSystemError else name
  if general = operatingSystemError ∧ isNumbered report then
    ((report.head?.bind Value.count?).bind classOfNumber?).getD general
  else general

/-- Several values of a report, in brackets. -/
def listed (report : List Json) : Except Mishap Text :=
  unlessHindered (Json.hindrance? (.array report))
    ("(" ++ Json.quotedItems report ++ ")")

/-- A report without regard to the class it belongs to. -/
def plainMessage : List Json → Except Mishap Text
  | [] => .ok []
  | [value] => value.told
  | report => listed report

/-- A value of a report in quotation marks. -/
def quotedValue (value : Json) : Except Mishap Text :=
  unlessHindered value.hindrance? value.quoted

/-- A file named in a report; null names none. -/
def fileText? : Option Json → Except Mishap (Option Text)
  | none | some .null => .ok none
  | some file => (quotedValue file).map some

/-- A number, its explanation and the files concerned. -/
def numberedMessage (number explanation : Json) (files : List Json) :
    Except Mishap Text := do
  let number ← number.told
  let explanation ← explanation.told
  let file ← fileText? files[0]?
  let target ← if file.isSome then fileText? files[2]? else .ok none
  return "[Errno " ++ number ++ "] " ++ explanation ++
    match file, target with
    | none, _ => ([] : Text)
    | some file, none => ": " ++ file
    | some file, some target => ": " ++ file ++ " -> " ++ target

/-- The files of a report.  Where work would block, a number in the place of
the first file is the size of what was done already, and there are no files. -/
def filesOf (name : Text) (further : List Json) : List Json :=
  if name = blockingError && further.head?.any (·.count?.isSome) then []
  else further

/-- What is said of a stretch of a text.  If it is one element that stands before
the beginning, it cannot be looked up and nothing is said. -/
def unlessOutside (name : Text) (start past : Option Int)
    (words : Int → Int → Text) : Except Mishap Text :=
  let start := start.getD 0
  let past := past.getD 0
  unlessHindered
    (if start < 0 ∧ past = start + 1 then some (.outside name) else none)
    (words start past)

/-- A fault in words. -/
def message (fault : SystemFault) : Except Mishap Text :=
  match fault.faultClass.wording, fault.report with
  | .quotedKey, [key] => quotedValue key
  | .operatingSystem, number :: explanation :: further =>
      if isNumbered fault.report then
        numberedMessage number explanation (filesOf fault.name further)
      else plainMessage fault.report
  | .source, report => (SourceFault.ofReport report).message
  | .encoding, [.text codec, .text text, start, past, .text reason] =>
      unlessOutside fault.name start.count? past.count? fun start past =>
        Coding.unencodable codec text start past reason
  | .mapping, [.text text, start, past, .text reason] =>
      unlessOutside fault.name start.count? past.count? fun start past =>
        Coding.unmappable text start past reason
  | .own words, _ => words
  | .ownPlace words _ _, _ => words
  | _, report => plainMessage report

end SystemFault

end ResponseService
