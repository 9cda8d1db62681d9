import ResponseService.Json.SyntaxError
import ResponseService.Json.Value

/-!
# The tokens of a JSON text

A text is cut into tokens without regard to where they stand: punctuation,
words, numbers and quoted texts, with blanks between them.  Cutting stops
where no token begins, where quoted text is broken, or at an integer with too
many digits; whether that place is ever reached, and what is then wrong with
it, is for the reader of the tokens to say.

Between quotes a surrogate may be given by an escape.  The escapes of a high
and a low surrogate in a row give one character; every other surrogate, and
every surrogate that stands in the text itself, is kept (`joinUnits`).
-/

namespace ResponseService.Json

/-- One element of a JSON text. -/
inductive Token where
  | openObject
  | closeObject
  | openArray
  | closeArray
  | colon
  | comma
  /-- A quoted text. -/
  | text (value : Text)
  /-- A number or a word: a value with no parts. -/
  | scalar (value : Json)

/-- A token and the number of code points before it. -/
structure Placed where
  position : Nat
  token : Token

/-- Why no more tokens were cut. -/
inductive Obstacle where
  /-- No token begins here. -/
  | unknown
  /-- Quotes open here, and the text in them is broken. -/
  | brokenText (problem : Problem) (position : Nat)
  /-- An integer begins here that has too many digits. -/
  | oversized (digits : Nat)
  deriving DecidableEq, Repr

/-- Where the tokens end: at the end of the text or before an obstacle. -/
structure Ending where
  position : Nat
  obstacle : Option Obstacle

/-! ## Quoted texts -/

/-- One code point of a quoted text, as it is or by its escape. -/
inductive TextUnit where
  | plain (point : CodePoint)
  | escaped (point : CodePoint)
  deriving DecidableEq, Repr

namespace TextUnit

/-- The code point that the unit stands for. -/
def point : TextUnit → CodePoint
  | .plain point => point
  | .escaped point => point

end TextUnit

/-- Two escapes that make up a pair of surrogates give one character. -/
def joinUnits : List TextUnit → Text
  | [] => []
  | .escaped high :: .escaped low :: rest =>
      if high.isHighSurrogate && low.isLowSurrogate then
        CodePoint.joined high low :: joinUnits rest
      else high :: joinUnits (.escaped low :: rest)
  | unit :: rest => unit.point :: joinUnits rest

/-- The code point that a letter behind a backslash stands for. -/
def shorthand? (letter : CodePoint) : Option CodePoint :=
  let number := letter.value
  if number = 0x22 ∨ number = 0x5C ∨ number = 0x2F then some letter
  else if number = 0x62 then some (CodePoint.ofNat 0x08)
  else if number = 0x66 then some (CodePoint.ofNat 0x0C)
  else if number = 0x6E then some (CodePoint.ofNat 0x0A)
  else if number = 0x72 then some (CodePoint.ofNat 0x0D)
  else if number = 0x74 then some (CodePoint.ofNat 0x09)
  else none

/-- The number of four hexadecimal digits. -/
def fourDigits? (first second third fourth : CodePoint) : Option Nat := do
  let first ← first.hexValue?
  let second ← second.hexValue?
  let third ← third.hexValue?
  let fourth ← fourth.hexValue?
  return ((first * 16 + second) * 16 + third) * 16 + fourth

/-- The outcome of reading between quotes: the units, the position behind the
closing quote and the text there. -/
abbrev Scanned := Except (Problem × Nat) (List TextUnit × Nat × Text)

/-- Put a unit before those that were read behind it. -/
def Scanned.cons (unit : TextUnit) (scanned : Scanned) : Scanned :=
  match scanned with
  | .ok (units, position, rest) => .ok (unit :: units, position, rest)
  | .error problem => .error problem

/-- Read what follows an opening quote at `opening` up to the closing one. -/
def scanText (opening position : Nat) : Text → Scanned
  | [] => .error (.unterminatedText, opening)
  | point :: rest =>
      if point.value = 0x22 then .ok ([], position + 1, rest)
      else if point.value = 0x5C then
        match rest with
        | [] => .error (.unterminatedText, opening)
        | letter :: after =>
            if letter.value = 0x75 then
              match after with
              | first :: second :: third :: fourth :: next :: tail =>
                  match fourDigits? first second third fourth with
                  | some number =>
                      (scanText opening (position + 6) (next :: tail)).cons
                        (.escaped (CodePoint.ofNat number))
                  | none => .error (.brokenUnicodeEscape, position + 1)
              | _ => .error (.brokenUnicodeEscape, position + 1)
            else
              match shorthand? letter with
              | some value =>
                  (scanText opening (position + 2) after).cons (.escaped value)
              | none => .error (.unknownEscape, position)
      else if point.value < 0x20 then .error (.controlCharacter, position)
      else (scanText opening (position + 1) rest).cons (.plain point)

/-! ## Numbers -/

/-- An exponent as it is written. -/
structure ExponentSpelling where
  /-- The letter that begins it. -/
  mark : CodePoint
  /-- Its sign, if it has one. -/
  sign : Option CodePoint
  digits : Text
  deriving DecidableEq, Repr

/-- A number as it is written. -/
structure NumberSpelling where
  negative : Bool
  whole : Text
  /-- The digits behind the point. -/
  fraction : Option Text
  exponent : Option ExponentSpelling
  deriving DecidableEq, Repr

namespace ExponentSpelling

/-- The text of the exponent. -/
def text (exponent : ExponentSpelling) : Text :=
  exponent.mark :: (exponent.sign.toList ++ exponent.digits)

/-- The power of ten. -/
def value (exponent : ExponentSpelling) : Int :=
  let magnitude : Int := Decimal.read exponent.digits
  if exponent.sign = some '-' then -magnitude else magnitude

end ExponentSpelling

/-- How many digits an integer may have. -/
def digitLimit : Nat := 4300

namespace NumberSpelling

/-- The text of the number. -/
def text (number : NumberSpelling) : Text :=
  (if number.negative then Text.ofString "-" else []) ++ number.whole ++
    (match number.fraction with
     | some digits => '.' :: digits
     | none => []) ++
    (match number.exponent with
     | some exponent => exponent.text
     | none => [])

/-- A number without fraction and exponent is an integer, and one with too
many digits is refused; any other is the nearest double. -/
def value (number : NumberSpelling) : Except Obstacle Json :=
  match number.fraction, number.exponent with
  | none, none =>
      if digitLimit < number.whole.length then
        .error (.oversized number.whole.length)
      else
        let magnitude : Int := Decimal.read number.whole
        .ok (.integer (if number.negative then -magnitude else magnitude))
  | fraction, exponent =>
      let digits := fraction.getD []
      let power : Int := (exponent.map ExponentSpelling.value).getD 0
      .ok (.float (Double.ofScaled number.negative
        (Decimal.read (number.whole ++ digits)) (power - digits.length)))

end NumberSpelling

/-- The digits at the front of a text, if it begins with one. -/
def digitsOf? (text : Text) : Option (Text × Text) :=
  match text.span CodePoint.isDigit with
  | ([], _) => none
  | (digits, rest) => some (digits, rest)

/-- The part of a number before the point: no zero stands before a digit. -/
def wholeOf? : Text → Option (Text × Text)
  | [] => none
  | point :: rest =>
      if point.value = 0x30 then some ([point], rest)
      else digitsOf? (point :: rest)

/-- A point with a digit behind it begins a fraction. -/
def fractionOf (text : Text) : Option Text × Text :=
  match text with
  | point :: rest =>
      if point.value = 0x2E then
        match digitsOf? rest with
        | some (digits, after) => (some digits, after)
        | none => (none, text)
      else (none, text)
  | [] => (none, text)

/-- A sign at the front of a text. -/
def signOf (text : Text) : Option CodePoint × Text :=
  match text with
  | point :: rest =>
      if point.value = 0x2B ∨ point.value = 0x2D then (some point, rest)
      else (none, text)
  | [] => (none, text)

/-- The letter `e` with a digit behind it, or a sign and a digit, begins an
exponent. -/
def exponentOf (text : Text) : Option ExponentSpelling × Text :=
  match text with
  | point :: rest =>
      if point.value = 0x65 ∨ point.value = 0x45 then
        let (sign, unsigned) := signOf rest
        match digitsOf? unsigned with
        | some (digits, after) => (some ⟨point, sign, digits⟩, after)
        | none => (none, text)
      else (none, text)
  | [] => (none, text)

/-- The longest number at the front of a text. -/
def numberOf? (text : Text) : Option (NumberSpelling × Text) := do
  let (negative, unsigned) :=
    match text with
    | point :: rest => if point.value = 0x2D then (true, rest) else (false, text)
    | [] => (false, text)
  let (whole, rest) ← wholeOf? unsigned
  let (fraction, rest) := fractionOf rest
  let (exponent, rest) := exponentOf rest
  return (⟨negative, whole, fraction, exponent⟩, rest)

/-! ## Words and punctuation -/

/-- The words that are values. -/
def words : List (Text × Json) :=
  [("null", .null), ("true", .boolean true), ("false", .boolean false),
    ("NaN", .float .notANumber), ("Infinity", .float (.infinite false)),
    ("-Infinity", .float (.infinite true))]

/-- The rest of a text behind a word. -/
def dropWord? (word text : Text) : Option Text :=
  match word, text with
  | [], rest => some rest
  | _ :: _, [] => none
  | letter :: word, point :: rest =>
      if letter = point then dropWord? word rest else none

/-- The value and the length of the word at the front of a text, and what is
behind it. -/
def wordOf? (text : Text) : Option (Json × Nat × Text) :=
  words.findSome? fun (word, value) =>
    (dropWord? word text).map fun rest => (value, word.length, rest)

/-- The token of a punctuation mark. -/
def punctuation? (point : CodePoint) : Option Token :=
  let number := point.value
  if number = 0x7B then some .openObject
  else if number = 0x7D then some .closeObject
  else if number = 0x5B then some .openArray
  else if number = 0x5D then some .closeArray
  else if number = 0x3A then some .colon
  else if number = 0x2C then some .comma
  else none

/-- The four code points that may stand between tokens. -/
def isBlank (point : CodePoint) : Bool :=
  decide (point.value = 0x20) || decide (point.value = 0x09) ||
    decide (point.value = 0x0A) || decide (point.value = 0x0D)

/-! ## Cutting a text into tokens -/

/-- What stands at the front of a text: a token, its length and the text
behind it, or an obstacle. -/
inductive Front where
  | token (token : Token) (length : Nat) (rest : Text)
  | obstacle (obstacle : Obstacle)

/-- Look at the front of a text whose first code point is no blank. -/
def front (position : Nat) (point : CodePoint) (rest : Text) : Front :=
  match punctuation? point with
  | some mark => .token mark 1 rest
  | none =>
      if point.value = 0x22 then
        match scanText position (position + 1) rest with
        | .ok (units, next, after) =>
            .token (.text (joinUnits units)) (next - position) after
        | .error (problem, place) => .obstacle (.brokenText problem place)
      else
        match wordOf? (point :: rest) with
        | some (value, length, after) => .token (.scalar value) length after
        | none =>
            match numberOf? (point :: rest) with
            | some (number, after) =>
                match number.value with
                | .ok value => .token (.scalar value) number.text.length after
                | .error obstacle => .obstacle obstacle
            | none => .obstacle .unknown

/-- Cut a text into at most `fuel` tokens and blanks. -/
def tokensWithin (fuel position : Nat) (text : Text) : List Placed × Ending :=
  match fuel, text with
  | _, [] => ([], ⟨position, none⟩)
  | 0, _ :: _ => ([], ⟨position, some .unknown⟩)
  | fuel + 1, point :: rest =>
      if isBlank point then tokensWithin fuel (position + 1) rest
      else
        match front position point rest with
        | .token token length after =>
            let (tokens, ending) := tokensWithin fuel (position + length) after
            (⟨position, token⟩ :: tokens, ending)
        | .obstacle obstacle => ([], ⟨position, some obstacle⟩)

/-- The tokens of a text, and where they end.  Every token and blank takes at
least one code point, so the length of the text bounds their number. -/
def tokens (text : Text) : List Placed × Ending :=
  tokensWithin text.length 0 text

end ResponseService.Json
