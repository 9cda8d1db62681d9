import ResponseService.Fault.Mishap

/-!
# Classes of system faults

The class of a fault has a name and a place where it is found, says whether the
fault is a failure at all, and decides how the fault is put into words.  The
built-in classes are listed here (`FaultClass.builtIn`).  Any other class is
given by what it says of itself; its words are then a datum, and so is the
mishap if they cannot be given.
-/

namespace ResponseService

/-- What a fault means for the work that it ends. -/
inductive FaultKind where
  /-- The work has failed. -/
  | failure
  /-- There is nothing more to yield. -/
  | exhaustion
  /-- The program is to end, or the work is to be given up. -/
  | order
  deriving DecidableEq, Repr

/-- How a class of faults puts a report into words. -/
inductive Wording where
  /-- A single value as it is. -/
  | plain
  /-- A single value in quotation marks. -/
  | quotedKey
  /-- A number with its explanation, and the files concerned. -/
  | operatingSystem
  /-- A problem and its place in a source text. -/
  | source
  /-- A codec, a text, a stretch of it and the reason it has no octets. -/
  | encoding
  /-- A text, a stretch of it and the reason it cannot be replaced. -/
  | mapping
  /-- Words of its own. -/
  | own (words : Except Mishap Text)
  /-- A fault in a source text with words of its own, with what keeps it from
  being taken down, and with what a trace tells of it but for the last line
  end. -/
  | ownPlace (words : Except Mishap Text) (hindrance : Option Mishap)
      (account : Except Mishap Text)

/-- A class of faults. -/
structure FaultClass where
  name : Text
  /-- Where a class that is not built in is found. -/
  origin : Text
  kind : FaultKind
  wording : Wording

namespace FaultClass

/-- The class of faults of work that would have to wait. -/
def blockingError : Text := "BlockingIOError"

/-- The class of all faults of the operating system. -/
def operatingSystemError : Text := "OSError"

/-- Further names of that class. -/
def operatingSystemAliases : List Text := ["IOError", "EnvironmentError"]

/-- The particular classes of faults of the operating system. -/
def operatingSystemClasses : List Text :=
  ["BlockingIOError", "BrokenPipeError", "ChildProcessError",
    "ConnectionAbortedError", "ConnectionError", "ConnectionRefusedError",
    "ConnectionResetError", "FileExistsError", "FileNotFoundError",
    "InterruptedError", "IsADirectoryError", "NotADirectoryError",
    "PermissionError", "ProcessLookupError", "TimeoutError"]

/-- The classes of faults in source texts. -/
def sourceClasses : List Text :=
  ["IndentationError", "SyntaxError", "TabError"]

/-- The class of faults of a codec for which a text has no octets. -/
def encodingError : Text := "UnicodeEncodeError"

/-- The class of faults of a text that cannot be replaced. -/
def mappingError : Text := "UnicodeTranslateError"

/-- The built-in classes of events that are no failures of work. -/
def orderClasses : List Text :=
  ["BaseException", "BaseExceptionGroup", "GeneratorExit",
    "KeyboardInterrupt", "SystemExit"]

/-- The built-in class of events that only mean that nothing more is to
come. -/
def exhaustionClass : Text := "StopIteration"

/-- What the faults of a built-in class mean. -/
def builtInKind (name : Text) : FaultKind :=
  if orderClasses.contains name then .order
  else if name = exhaustionClass then .exhaustion
  else .failure

/-- The wording of a built-in class. -/
def builtInWording (name : Text) : Wording :=
  if name = Text.ofString "KeyError" then .quotedKey
  else if name = operatingSystemError ||
      operatingSystemClasses.contains name then
    .operatingSystem
  else if sourceClasses.contains name then .source
  else if name = encodingError then .encoding
  else if name = mappingError then .mapping
  else .plain

/-- The built-in class of a name. -/
def builtIn (name : Text) : FaultClass :=
  ⟨name, [], builtInKind name, builtInWording name⟩

/-- The class of a mishap. -/
def ofMishap (mishap : Mishap) : FaultClass :=
  ⟨mishap.name, mishap.origin, .failure, .own (.ok mishap.message)⟩

/-- The class is one of faults in source texts. -/
def isSource (faultClass : FaultClass) : Bool :=
  match faultClass.wording with
  | .source | .ownPlace _ _ _ => true
  | _ => false

end FaultClass

end ResponseService
