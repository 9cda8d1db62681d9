import ResponseService.Json.Value
import ResponseService.Number.Word
import ResponseService.Text.Case
import ResponseService.Text.Utf8

/-!
# Values of settings

A setting is given a document value, or directly a value of a kind that no
document has.  What is read from a value is the work of the library that checks
settings, and is stated here as that library documents it: truth values are
also read from numbers and words, and texts from texts only.

Of a value of any other kind it is only known what that library reads from it
(`ForeignArgument`).  Octets are such a value: a text is read from them if they
are UTF-8.
-/

namespace ResponseService

/-- Why a setting cannot be read from a value. -/
inductive ReadProblem where
  /-- The value does not say yes or no. -/
  | unclearBoolean
  /-- The value is of a kind that cannot say yes or no. -/
  | notBoolean
  /-- The value is no text. -/
  | notText
  /-- The value is a text that holds surrogates, or octets that are no text. -/
  | brokenText
  deriving DecidableEq, Repr

namespace ReadProblem

/-- The kind of a problem. -/
def kind : ReadProblem → Text
  | .unclearBoolean => "bool_parsing"
  | .notBoolean => "bool_type"
  | .notText => "string_type"
  | .brokenText => "string_unicode"

/-- A problem in words. -/
def message : ReadProblem → Text
  | .unclearBoolean =>
      "Input should be a valid boolean, unable to interpret input"
  | .notBoolean => "Input should be a valid boolean"
  | .notText => "Input should be a valid string"
  | .brokenText =>
      "Input should be a valid string, " ++
        "unable to parse raw data as a unicode string"

end ReadProblem

/-- What can be wrong with a setting. -/
inductive SettingProblem where
  /-- It cannot be read. -/
  | unread (problem : ReadProblem)
  /-- There is no setting of this name. -/
  | unknownName
  /-- Other origins are allowed and none is named. -/
  | originMissing
  deriving DecidableEq, Repr

namespace SettingProblem

/-- The kind of a problem. -/
def kind : SettingProblem → Text
  | .unread problem => problem.kind
  | .unknownName => "extra_forbidden"
  | .originMissing => "value_error"

/-- A problem in words. -/
def message : SettingProblem → Text
  | .unread problem => problem.message
  | .unknownName => "Extra inputs are not permitted"
  | .originMissing =>
      "Value error, cors_origin must be set when cors_enabled is true"

end SettingProblem

/-- A value of a kind that no document has, known by what is read from it. -/
structure ForeignArgument where
  boolean : Except ReadProblem Bool
  text : Except ReadProblem Text

/-- Anything that a setting can be given. -/
abbrev Argument := Value ForeignArgument

namespace Settings

/-- The words for yes. -/
def yesWords : List Text := ["1", "on", "t", "true", "y", "yes"]

/-- The words for no. -/
def noWords : List Text := ["0", "off", "f", "false", "n", "no"]

/-- The truth value of a number. -/
def booleanOfInt (number : Int) : Except ReadProblem Bool :=
  if number = 0 then .ok false
  else if number = 1 then .ok true
  else if Word.holds number then .error .unclearBoolean
  else .error .notBoolean

/-- The truth value of a word. -/
def booleanOfWord (word : Text) : Except ReadProblem Bool :=
  if word.any CodePoint.isSurrogate then .error .brokenText
  else if yesWords.contains word.lower then .ok true
  else if noWords.contains word.lower then .ok false
  else .error .unclearBoolean

/-- The truth value that a setting is given. -/
def readBoolean : Argument → Except ReadProblem Bool
  | .boolean value => .ok value
  | .integer number => booleanOfInt number
  | .float number =>
      match number.toInt? with
      | some number => booleanOfInt number
      | none => .error .notBoolean
  | .text word => booleanOfWord word
  | .foreign value => value.boolean
  | _ => .error .notBoolean

/-- The text that a setting is given. -/
def readText : Argument → Except ReadProblem Text
  | .text text => .ok text
  | .foreign value => value.text
  | _ => .error .notText

end Settings

/-- Octets as the value of a setting. -/
def ForeignArgument.ofOctets (octets : List UInt8) : ForeignArgument :=
  match Utf8.decode octets with
  | .error _ => ⟨.error .unclearBoolean, .error .brokenText⟩
  | .ok text => ⟨Settings.booleanOfWord text, .ok text⟩

end ResponseService
