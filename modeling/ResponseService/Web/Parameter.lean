import ResponseService.Fault.Condition
import ResponseService.Text.Blank
import ResponseService.Web.Query

/-!
# Typed parameters

A parameter of a request is read as a text, an integer or a number.  White
space around a numeral does not count.  An integer may have a plus sign, zeros
in front, single underscores between its digits and a fraction of zeros; a
negative one has no zeros in front.  A number is a decimal numeral with an
optional exponent, or one of the words for infinity and for no number; it may
have single underscores if no white space is around it.
-/

namespace ResponseService.Parameter

/-- What is wrong with a parameter. -/
inductive Problem where
  | missing
  | noInteger
  | integerTooLong
  | noNumber
  deriving DecidableEq, Repr

namespace Problem

/-- A problem in words. -/
def message : Problem → Text
  | .missing => "Field required"
  | .noInteger =>
      "Input should be a valid integer, unable to parse string as an integer"
  | .integerTooLong =>
      "Unable to parse input string as an integer, exceeded maximum size"
  | .noNumber =>
      "Input should be a valid number, unable to parse string as a number"

end Problem

/-- The greatest number of characters of an integer. -/
def lengthLimit : Nat := 4300

/-- A code point is this ASCII character. -/
def isCharacter (character : Char) (point : CodePoint) : Bool :=
  decide (point = CodePoint.ofChar character)

/-- The integer of a plain numeral: digits without zeros in front, behind an
optional minus sign. -/
def plainInteger (text : Text) : Except Problem Int :=
  let (negative, digits) :=
    match text with
    | [] => (false, [])
    | point :: rest =>
        if isCharacter '-' point then (true, rest) else (false, text)
  let lead := digits.head?.any (isCharacter '0')
  if digits.isEmpty || !digits.all CodePoint.isDigit ||
      (lead && decide (1 < digits.length)) then
    .error .noInteger
  else if lengthLimit < text.length then .error .integerTooLong
  else
    let magnitude := Decimal.read digits
    .ok (if negative then -(magnitude : Int) else magnitude)

/-- A text without a plus sign in front, which no minus sign may follow. -/
def withoutPlus (text : Text) : Option Text :=
  match text with
  | [] => some []
  | point :: rest =>
      if isCharacter '+' point then
        if rest.head?.any (isCharacter '-') then none else some rest
      else some text

/-- What follows zeros and underscores behind a first zero; `last` is the one
that was passed over last. -/
def afterZeros (last : CodePoint) : Text → Option Text
  | [] => some [last]
  | point :: rest =>
      if isCharacter '0' point || isCharacter '_' point then
        afterZeros point rest
      else if isCharacter '.' point then some (last :: point :: rest)
      else if point.isDigit then some (point :: rest)
      else none

/-- A numeral without zeros in front. -/
def withoutZeros (text : Text) : Option Text :=
  match text with
  | [] => none
  | point :: rest =>
      if isCharacter '0' point then afterZeros point rest
      else if point.isDigit || isCharacter '-' point then some text
      else none

/-- A numeral without a fraction of one or more zeros. -/
def withoutFraction (text : Text) : Text :=
  match Text.cut? '.' text with
  | some (whole, fraction) =>
      if !fraction.isEmpty && fraction.all (isCharacter '0') then whole else text
  | none => text

/-- Two underscores stand side by side. -/
def hasDoubleUnderscore : Text → Bool
  | first :: second :: rest =>
      (isCharacter '_' first && isCharacter '_' second) ||
        hasDoubleUnderscore (second :: rest)
  | _ => false

/-- A numeral without its underscores, if each stands alone and inside. -/
def withoutUnderscores (text : Text) : Text :=
  if text.head?.any (isCharacter '_') || text.getLast?.any (isCharacter '_') ||
      hasDoubleUnderscore text then
    text
  else text.filter (!isCharacter '_' ·)

/-- The integer of a text. -/
def integer (text : Text) : Except Problem Int :=
  match (withoutPlus (text.trim CodePoint.isWhiteSpace)).bind withoutZeros with
  | none => .error .noInteger
  | some numeral => plainInteger (withoutUnderscores (withoutFraction numeral))

/-- The words for infinity and for no number, in small letters. -/
def numberWords : List Text := ["inf", "infinity", "nan"]

/-- The text is empty or an exponent. -/
def isExponent (text : Text) : Bool :=
  match text with
  | [] => true
  | letter :: rest =>
      let digits :=
        match rest with
        | [] => []
        | sign :: digits =>
            if isCharacter '+' sign || isCharacter '-' sign then digits
            else rest
      (isCharacter 'e' letter || isCharacter 'E' letter) &&
        !digits.isEmpty && digits.all CodePoint.isDigit

/-- The text is a decimal numeral without a sign. -/
def isNumeral (text : Text) : Bool :=
  let whole := text.takeWhile CodePoint.isDigit
  match text.dropWhile CodePoint.isDigit with
  | [] => !whole.isEmpty
  | point :: rest =>
      if isCharacter '.' point then
        let fraction := rest.takeWhile CodePoint.isDigit
        !(whole.isEmpty && fraction.isEmpty) &&
          isExponent (rest.dropWhile CodePoint.isDigit)
      else !whole.isEmpty && isExponent (point :: rest)

/-- The text is a number. -/
def isNumber (text : Text) : Bool :=
  let trimmed := text.trim CodePoint.isWhiteSpace
  let accepts (text : Text) : Bool :=
    let unsigned :=
      match text with
      | [] => []
      | sign :: rest =>
          if isCharacter '+' sign || isCharacter '-' sign then rest else text
    numberWords.contains unsigned.lower || isNumeral unsigned
  accepts trimmed || accepts (withoutUnderscores text)

/-- The issue of a query parameter with a problem. -/
def issue (name : Text) (problem : Problem) : ParameterIssue :=
  ⟨[.text "query", .text name], problem.message⟩

/-- A parameter that must be there. -/
def required (query : List UInt8) (name : Text) : Except Problem Text :=
  match Query.value? query name with
  | some text => .ok text
  | none => .error .missing

/-- An integer that must be there. -/
def requiredInteger (query : List UInt8) (name : Text) :
    Except Problem Int :=
  match Query.value? query name with
  | some text => integer text
  | none => .error .missing

/-- A number that may be left out. -/
def optionalNumber (query : List UInt8) (name : Text) :
    Except Problem Unit :=
  match Query.value? query name with
  | some text => if isNumber text then .ok () else .error .noNumber
  | none => .ok ()

end ResponseService.Parameter
