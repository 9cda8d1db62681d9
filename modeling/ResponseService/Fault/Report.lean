import ResponseService.Fault.SystemFault

/-!
# Reports of system faults

A fault of the system is filed under a built-in class with a report.  Some classes
demand that the report has a certain form.  A report that does not meet the
demands of its class makes no fault of that class: the attempt to file it is
itself a fault, and `SystemFault.ofReport` gives that one instead.
-/

namespace ResponseService.SystemFault

open FaultClass

/-- A value of a kind that does not fit. -/
def typeFault (message : Text) : SystemFault :=
  builtIn "TypeError" [.text message]

/-- A value that does not fit, though its kind does. -/
def valueFault (message : Text) : SystemFault :=
  builtIn "ValueError" [.text message]

/-- The name of a value's kind. -/
def kindName (value : Json) : Text := value.kindName nofun

/-- What a class demands of one value of a report. -/
inductive Demand where
  | text
  /-- An integer that a word holds. -/
  | index
  | anything
  deriving DecidableEq, Repr

/-- Why a value is no text, where it should be one. -/
def wrongText (name : Text) (place : Nat) (value : Json) : SystemFault :=
  let kind : Text :=
    match value with
    | .null => "None"
    | value => kindName value
  typeFault
    (name ++ "argument " ++ Decimal.ofNat place ++ " must be str, not " ++ kind)

/-- Why a value is no integer, where it should be one. -/
def wrongInteger (value : Json) : SystemFault :=
  typeFault
    ("'" ++ kindName value ++ "' object cannot be interpreted as an integer")

/-- What is wrong with the value at a place. -/
def unmet? (place : Nat) (demand : Demand) (value : Json) :
    Option SystemFault :=
  match demand with
  | .anything => none
  | .text =>
      match value with
      | .text _ => none
      | value => some (wrongText [] place value)
  | .index =>
      match value.count? with
      | none => some (wrongInteger value)
      | some number =>
          if Word.holds number then none
          else
            some (builtIn "OverflowError"
              [.text "Python int too large to convert to C ssize_t"])

/-- What is wrong with the first value that does not meet its demand; the first
place is `place`. -/
def firstUnmet? (place : Nat) : List Demand → List Json → Option SystemFault
  | demand :: demands, value :: values =>
      (unmet? place demand value).or (firstUnmet? (place + 1) demands values)
  | _, _ => none

/-- What is wrong with a report that has to hold these values. -/
def unmetDemands? (demands : List Demand) (report : List Json) :
    Option SystemFault :=
  if report.length = demands.length then firstUnmet? 1 demands report
  else
    some (typeFault
      ("function takes exactly " ++ Decimal.ofNat demands.length ++
        " arguments (" ++ Decimal.ofNat report.length ++ " given)"))

/-- The class of faults of a codec for which octets have no text. -/
def decodingError : Text := "UnicodeDecodeError"

/-- The classes of several faults in one. -/
def groupClasses : List Text := ["BaseExceptionGroup", "ExceptionGroup"]

/-- What is wrong with the details of a place in a source text. -/
def wrongDetails? (details : Json) : Option SystemFault :=
  match SourceFault.elements? details with
  | none =>
      some (typeFault ("'" ++ kindName details ++ "' object is not iterable"))
  | some elements =>
      let given := " (" ++ Decimal.ofNat elements.length ++ " given)"
      if elements.length < 4 then
        some (typeFault ("function takes at least 4 arguments" ++ given))
      else if 6 < elements.length then
        some (typeFault ("function takes at most 6 arguments" ++ given))
      else if elements.length = 5 then
        some (typeFault
          "end_offset must be provided when end_lineno is provided")
      else none

/-- What is wrong with a report on a fault in a source text. -/
def wrongSource? : List Json → Option SystemFault
  | [_, details] => wrongDetails? details
  | _ => none

/-- What is wrong with a report on octets without a text: documents hold no
octets. -/
def wrongDecoding? (report : List Json) : Option SystemFault :=
  (unmetDemands? [.text, .anything, .index, .index, .text] report).or
    (report[1]?.map fun object =>
      typeFault
        ("a bytes-like object is required, not '" ++ kindName object ++ "'"))

/-- What is wrong with the number of octets that were written already. -/
def wrongCount? : Json → Option SystemFault
  | .float number => some (wrongInteger (.float number))
  | value =>
      match value.count? with
      | none => none
      | some number =>
          if Word.holds number then none
          else some (valueFault "cannot fit 'int' into an index-sized integer")

/-- What is wrong with a report on work that would have to wait. -/
def wrongBlocking? (report : List Json) : Option SystemFault :=
  if isNumbered report then report[2]?.bind wrongCount? else none

/-- What is wrong with a report on several faults: documents hold no faults. -/
def wrongGroup (report : List Json) : SystemFault :=
  let maker : Text := "BaseExceptionGroup.__new__() "
  let notFault : SystemFault :=
    valueFault "Item 0 of second argument (exceptions) is not an exception"
  let empty : SystemFault :=
    valueFault "second argument (exceptions) must be a non-empty sequence"
  match report with
  | [.text _, .array []] | [.text _, .text []] => empty
  | [.text _, .array (_ :: _)] | [.text _, .text (_ :: _)] => notFault
  | [.text _, _] =>
      typeFault "second argument (exceptions) must be a sequence"
  | [message, _] => wrongText maker 1 message
  | report =>
      typeFault
        (maker ++ "takes exactly 2 arguments (" ++
          Decimal.ofNat report.length ++ " given)")

/-- What is wrong with a report to a class. -/
def refusal? (name : Text) (report : List Json) : Option SystemFault :=
  if name = encodingError then
    unmetDemands? [.text, .text, .index, .index, .text] report
  else if name = mappingError then
    unmetDemands? [.text, .index, .index, .text] report
  else if name = decodingError then wrongDecoding? report
  else if name = blockingError then wrongBlocking? report
  else if sourceClasses.contains name then wrongSource? report
  else if groupClasses.contains name then some (wrongGroup report)
  else none

/-- The fault filed under a built-in class with a report, or the fault of the
attempt. -/
def ofReport (name : Text) (report : List Json) :
    Except SystemFault SystemFault :=
  let particular := classify name report
  match refusal? particular report with
  | some fault => .error fault
  | none => .ok (builtIn particular report)

end ResponseService.SystemFault
