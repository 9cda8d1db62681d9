import ResponseService.Fault.Mishap
import ResponseService.Number.Rounded
import ResponseService.Ordered
import ResponseService.Text.Case

/-!
# Message templates

A template is literal text with directives in it: a percent sign, possibly a
name in brackets, flags, a width and a precision, and a letter that says how
an argument is written.  Two percent signs side by side stand for one.

`pieces` reads a template and `fill` puts arguments in the places of its
directives, from left to right, so that the first thing that goes wrong decides
the error.  A directive that the end of the template cuts off is an error only
once all of it that is there has been heeded.
-/

namespace ResponseService.Logging

/-- The marks that may stand behind the percent sign. -/
structure Flags where
  leftAligned : Bool
  signed : Bool
  blankSigned : Bool
  alternate : Bool
  zeroPadded : Bool

/-- A measure that is written out or taken from the arguments. -/
inductive Measure where
  | absent
  | given (number : Nat)
  | argument
  deriving DecidableEq

/-- What a measure limits. -/
inductive Extent where
  /-- The least number of characters. -/
  | width
  /-- The number of places, or the greatest number of characters. -/
  | precision
  deriving DecidableEq

namespace Extent

/-- The first number that is too large: a width has 64 bits and a precision 32,
the sign among them. -/
def bound : Extent → Nat
  | .width => 0x8000000000000000
  | .precision => 0x80000000

/-- The name of an extent. -/
def name : Extent → Text
  | .width => "width"
  | .precision => "precision"

/-- The name of the numbers that an extent can be. -/
def numberName : Extent → Text
  | .width => "ssize_t"
  | .precision => "int"

end Extent

/-- The name of an argument. -/
inductive Key where
  | absent
  | given (name : Text)
  /-- Its closing bracket is lacking. -/
  | unfinished
  deriving DecidableEq

/-- The place of an argument in a template. -/
structure Directive where
  key : Key
  flags : Flags
  width : Measure
  precision : Measure
  /-- There is no letter if the template ends before it. -/
  letter : Option CodePoint
  /-- The number of code points before the letter. -/
  index : Nat

/-- What is wrong with a template or its arguments. -/
inductive TemplateError where
  | incomplete
  | incompleteKey
  | mappingRequired
  | missingKey (key : Text)
  | tooFewArguments
  | tooManyArguments
  | measureNotInteger
  | measureTooLarge (extent : Extent)
  | argumentTooLarge (extent : Extent)
  | realRequired (letter : CodePoint) (kind : Text)
  | integerRequired (letter : CodePoint) (kind : Text)
  | numberRequired (kind : Text)
  | realTooLarge
  | characterRequired
  | characterTooLarge
  | infinite
  | notANumber
  | unsupported (letter : CodePoint) (index : Nat)
  /-- An argument cannot be shown. -/
  | unshown (mishap : Mishap)
  deriving DecidableEq

namespace TemplateError

/-- The class of an error. -/
def name : TemplateError → Text
  | .incomplete | .incompleteKey | .notANumber | .unsupported _ _
  | .measureTooLarge _ =>
      "ValueError"
  | .missingKey _ => "KeyError"
  | .characterTooLarge | .infinite | .argumentTooLarge _ | .realTooLarge =>
      "OverflowError"
  | .unshown mishap => mishap.name
  | _ => "TypeError"

/-- A number in hexadecimal without leading zeros. -/
def shortHexadecimal (number : Nat) : Text :=
  (Text.hexadecimal 6 number).dropWhile (·.value = 0x30)

/-- An error in words. -/
def message : TemplateError → Text
  | .incomplete => "incomplete format"
  | .incompleteKey => "incomplete format key"
  | .mappingRequired => "format requires a mapping"
  | .missingKey key => key.quoted
  | .tooFewArguments => "not enough arguments for format string"
  | .tooManyArguments => "not all arguments converted during string formatting"
  | .measureNotInteger => "* wants int"
  | .measureTooLarge extent => extent.name ++ " too big"
  | .argumentTooLarge extent =>
      "Python int too large to convert to C " ++ extent.numberName
  | .realRequired letter kind =>
      "%" ++ [letter] ++ " format: a real number is required, not " ++ kind
  | .integerRequired letter kind =>
      "%" ++ [letter] ++ " format: an integer is required, not " ++ kind
  | .numberRequired kind => "must be real number, not " ++ kind
  | .realTooLarge => "int too large to convert to float"
  | .characterRequired => "%c requires int or char"
  | .characterTooLarge => "%c arg not in range(0x110000)"
  | .infinite => "cannot convert float infinity to integer"
  | .notANumber => "cannot convert float NaN to integer"
  | .unsupported letter index =>
      let shown : CodePoint :=
        if 0x20 ≤ letter.value ∧ letter.value < 0x7F then letter else '?'
      "unsupported format character '" ++ [shown] ++ "' (0x" ++
        shortHexadecimal letter.value ++ ") at index " ++ Decimal.ofNat index
  | .unshown mishap => mishap.message

end TemplateError

/-- A part of a template. -/
inductive Piece where
  | literal (point : CodePoint)
  | directive (directive : Directive)

/-- The text of a key and what follows its closing bracket. -/
def readKey (depth : Nat) : Text → Option (Text × Text)
  | [] => none
  | point :: rest =>
      if point.value = 0x29 ∧ depth = 0 then some ([], rest)
      else
        let next :=
          if point.value = 0x28 then depth + 1
          else if point.value = 0x29 then depth - 1
          else depth
        (readKey next rest).map fun (key, after) => (point :: key, after)

/-- A mark that may be repeated. -/
def isFlag (point : CodePoint) : Bool :=
  point.value ∈ [0x2D, 0x2B, 0x20, 0x23, 0x30]

/-- The flags that a run of marks sets. -/
def flagsOf (marks : Text) : Flags where
  leftAligned := marks.any (·.value = 0x2D)
  signed := marks.any (·.value = 0x2B)
  blankSigned := marks.any (·.value = 0x20)
  alternate := marks.any (·.value = 0x23)
  zeroPadded := marks.any (·.value = 0x30)

/-- A number or a star, and what follows it. -/
def readMeasure (text : Text) : Measure × Text :=
  match text with
  | [] => (.absent, [])
  | point :: rest =>
      if point.value = 0x2A then (.argument, rest)
      else if point.isDigit then
        (.given (Decimal.read (text.takeWhile CodePoint.isDigit)),
          text.dropWhile CodePoint.isDigit)
      else (.absent, text)

/-- A precision, which is zero if only its point is there. -/
def readPrecision (text : Text) : Measure × Text :=
  match text with
  | [] => (.absent, [])
  | point :: rest =>
      if point.value = 0x2E then
        match readMeasure rest with
        | (.absent, after) => (.given 0, after)
        | (measure, after) => (measure, after)
      else (.absent, text)

/-- The name at the beginning of a directive, and what follows it. -/
def keyOf (text : Text) : Key × Text :=
  match text with
  | [] => (.absent, [])
  | point :: rest =>
      if point.value = 0x28 then
        match readKey 0 rest with
        | none => (.unfinished, [])
        | some (name, after) => (.given name, after)
      else (.absent, text)

/-- A directive behind its percent sign; `total` is the template's length. -/
def readDirective (total : Nat) (text : Text) : Directive × Text :=
  let (key, afterKey) := keyOf text
  let marks := afterKey.takeWhile isFlag
  let (width, afterWidth) := readMeasure (afterKey.dropWhile isFlag)
  let (precision, afterPrecision) := readPrecision afterWidth
  let unsized :=
    match afterPrecision with
    | [] => []
    | point :: rest =>
        if point.value ∈ [0x68, 0x6C, 0x4C] then rest else afterPrecision
  let after := unsized.drop 1
  (⟨key, flagsOf marks, width, precision, unsized.head?,
    total - after.length - 1⟩, after)

/-- Read at most `fuel` pieces. -/
def piecesWithin (fuel total : Nat) (text : Text) : List Piece :=
  match fuel, text with
  | 0, _ | _, [] => []
  | fuel + 1, point :: rest =>
      if point.value = 0x25 then
        if rest.head?.any (·.value = 0x25) then
          .literal point :: piecesWithin fuel total (rest.drop 1)
        else
          let (directive, after) := readDirective total rest
          .directive directive :: piecesWithin fuel total after
      else .literal point :: piecesWithin fuel total rest

/-- The pieces of a template. -/
def pieces (template : Text) : List Piece :=
  piecesWithin template.length template.length template

/-- What is left of the arguments. -/
structure Supply where
  /-- The arguments that have names. -/
  named : Option (List (Text × Json))
  rest : List Json

namespace Supply

/-- A single object that is not empty gives names to its members. -/
def ofArguments (arguments : List Json) : Supply :=
  match arguments with
  | [.object (member :: members)] =>
      ⟨some (member :: members), [.object (member :: members)]⟩
  | _ => ⟨none, arguments⟩

/-- The next argument. -/
def take (supply : Supply) : Except TemplateError (Json × Supply) :=
  match supply.rest with
  | [] => .error .tooFewArguments
  | value :: rest => .ok (value, { supply with rest := rest })

/-- Make the argument of a name the next one and the last. -/
def select (key : Key) (supply : Supply) : Except TemplateError Supply :=
  match key, supply.named with
  | .absent, _ => .ok supply
  | _, none => .error .mappingRequired
  | .unfinished, _ => .error .incompleteKey
  | .given name, some members =>
      match Ordered.lookup members name with
      | none => .error (.missingKey name)
      | some value => .ok { supply with rest := [value] }

/-- A measure in numbers. -/
def takeMeasure (extent : Extent) (measure : Measure) (supply : Supply) :
    Except TemplateError (Option Int × Supply) :=
  match measure with
  | .absent => .ok (none, supply)
  | .given number =>
      if number < extent.bound then .ok (some number, supply)
      else .error (.measureTooLarge extent)
  | .argument =>
      match supply.take with
      | .error error => .error error
      | .ok (.integer number, supply) =>
          if -(extent.bound : Int) ≤ number ∧ number < extent.bound then
            .ok (some number, supply)
          else .error (.argumentTooLarge extent)
      | .ok (.boolean truth, supply) =>
          .ok (some (if truth then 1 else 0), supply)
      | .ok (_, _) => .error .measureNotInteger

end Supply

/-- An argument in writing: what must stay in front, and the rest. -/
structure Written where
  sign : Text
  base : Text
  body : Text

/-- The digits of a number in a base up to sixteen. -/
def digitsIn (base number : Nat) : Text :=
  if 2 ≤ base ∧ base ≤ number then
    digitsIn base (number / base) ++ [digit (number % base)]
  else [digit number]
termination_by number
decreasing_by exact Nat.div_lt_self (by omega) (by omega)
where
  /-- A single digit. -/
  digit (number : Nat) : CodePoint :=
    CodePoint.ofNat (if number < 10 then 0x30 + number else 0x57 + number)

/-- The sign of a number under the flags. -/
def signText (flags : Flags) (negative : Bool) : Text :=
  if negative then ['-']
  else if flags.signed then ['+']
  else if flags.blankSigned then [' ']
  else []

/-- The letter of a directive, if it is one of ASCII's. -/
def letterOf (point : CodePoint) : Char :=
  if point.isAscii then Char.ofNat point.value else '?'

/-- The kind of an argument. -/
def kindOf (value : Json) : Text := value.kindName nofun

/-- The integer that an argument gives to a letter for integers. -/
def integerOf (letter : CodePoint) (truncating : Bool) (value : Json) :
    Except TemplateError Int :=
  match value with
  | .integer number => .ok number
  | .boolean truth => .ok (if truth then 1 else 0)
  | .float (.finite negative significand exponent) =>
      if truncating then .ok (Double.truncated negative significand exponent)
      else .error (.integerRequired letter (kindOf value))
  | .float (.infinite _) =>
      .error (if truncating then .infinite
        else .integerRequired letter (kindOf value))
  | .float .notANumber =>
      .error (if truncating then .notANumber
        else .integerRequired letter (kindOf value))
  | _ =>
      .error (if truncating then .realRequired letter (kindOf value)
        else .integerRequired letter (kindOf value))

/-- The double that an argument gives to a letter for real numbers. -/
def doubleOf (value : Json) : Except TemplateError Double :=
  match value with
  | .integer number =>
      match Double.ofScaled (number < 0) number.natAbs 0 with
      | .infinite _ => .error .realTooLarge
      | real => .ok real
  | .boolean truth => .ok (Double.ofScaled false (if truth then 1 else 0) 0)
  | .float number => .ok number
  | _ => .error (.numberRequired (kindOf value))

/-- An integer in writing. -/
def writtenInteger
    (flags : Flags) (precision : Option Int) (letter : Char) (number : Int) :
    Written :=
  let base := if letter = 'o' then 8 else if letter = 'x' ∨ letter = 'X' then 16 else 10
  let digits := Double.zeroPadded (precision.getD 0).toNat (digitsIn base number.natAbs)
  let mark : Text :=
    if flags.alternate then
      (if letter = 'o' then Text.ofString "0o"
       else if letter = 'x' then Text.ofString "0x"
       else if letter = 'X' then Text.ofString "0X" else [])
    else []
  ⟨signText flags (number < 0), mark,
    if letter = 'X' then digits.upper else digits⟩

/-- A double in writing. -/
def writtenDouble
    (flags : Flags) (precision : Option Int) (letter : Char) (number : Double) :
    Written :=
  let places := (precision.getD 6).toNat
  let capital := letter.isUpper
  let (negative, body) : Bool × Text :=
    match number with
    | .notANumber => (false, Text.ofString "nan")
    | .infinite negative => (negative, Text.ofString "inf")
    | .finite negative significand exponent =>
        (negative,
          match letter.toLower with
          | 'e' => Double.scientificText flags.alternate places significand exponent
          | 'f' => Double.fixedText flags.alternate places significand exponent
          | _ => Double.generalText flags.alternate (max places 1) significand exponent)
  ⟨signText flags negative, [], if capital then body.upper else body⟩

/-- A text of ASCII: all else is escaped. -/
def asciiOnly (text : Text) : Text :=
  text.flatMap fun point =>
    if point.value < 0x80 then [point] else Text.numberedEscape point.value

/-- An argument in words, if it can be shown. -/
def shownArgument (value : Json) (words : Text) : Except TemplateError Text :=
  (unlessHindered value.hindrance? words).mapError .unshown

/-- The integer that an argument gives to a letter for decimal integers. -/
def decimalOf (letter : CodePoint) (value : Json) :
    Except TemplateError Int := do
  let number ← integerOf letter true value
  match Json.hindrance? (.integer number) with
  | some mishap => .error (.unshown mishap)
  | none => .ok number

/-- A character in writing. -/
def writtenCharacter (value : Json) : Except TemplateError Written :=
  match value with
  | .text [point] => .ok ⟨[], [], [point]⟩
  | .boolean truth =>
      .ok ⟨[], [], [CodePoint.ofNat (if truth then 1 else 0)]⟩
  | .integer number =>
      if 0 ≤ number ∧ number < 0x110000 then
        .ok ⟨[], [], [CodePoint.ofNat number.toNat]⟩
      else .error .characterTooLarge
  | _ => .error .characterRequired

/-- An argument in writing. -/
def written (directive : Directive) (letter : CodePoint)
    (precision : Option Int) (value : Json) : Except TemplateError Written :=
  let cut (text : Text) : Text :=
    match precision with
    | none => text
    | some places => text.take places.toNat
  match letterOf letter with
  | 's' => (shownArgument value value.shown).map (⟨[], [], cut ·⟩)
  | 'r' => (shownArgument value value.quoted).map (⟨[], [], cut ·⟩)
  | 'a' =>
      (shownArgument value (asciiOnly value.quoted)).map (⟨[], [], cut ·⟩)
  | 'c' => writtenCharacter value
  | 'd' | 'i' | 'u' =>
      (decimalOf letter value).map
        (writtenInteger directive.flags precision (letterOf letter))
  | 'o' | 'x' | 'X' =>
      (integerOf letter false value).map
        (writtenInteger directive.flags precision (letterOf letter))
  | 'e' | 'E' | 'f' | 'F' | 'g' | 'G' =>
      (doubleOf value).map
        (writtenDouble directive.flags precision (letterOf letter))
  | _ => .error (.unsupported letter directive.index)

/-- The letters whose arguments may be filled up with zeros. -/
def isNumeric (letter : CodePoint) : Bool :=
  (letterOf letter) ∈
    ['d', 'i', 'u', 'o', 'x', 'X', 'e', 'E', 'f', 'F', 'g', 'G']

/-- An argument in writing, filled up to a width; a negative one aligns to the
left. -/
def aligned (flags : Flags) (letter : CodePoint) (width : Option Int)
    (item : Written) : Text :=
  let size := (width.getD 0).natAbs
  let left := flags.leftAligned || decide (width.getD 0 < 0)
  let missing :=
    size - (item.sign.length + item.base.length + item.body.length)
  let filling (point : Char) : Text := List.replicate missing point
  if left then item.sign ++ item.base ++ item.body ++ filling ' '
  else if flags.zeroPadded && isNumeric letter then
    item.sign ++ item.base ++ filling '0' ++ item.body
  else filling ' ' ++ item.sign ++ item.base ++ item.body

/-- Put an argument in the place of a directive. -/
def fillDirective (directive : Directive) (supply : Supply) :
    Except TemplateError (Text × Supply) := do
  let selected ← supply.select directive.key
  let (width, sized) ← selected.takeMeasure .width directive.width
  let (precision, measured) ← sized.takeMeasure .precision directive.precision
  match directive.letter with
  | none => .error .incomplete
  | some letter =>
      let (value, left) ← measured.take
      let item ← written directive letter precision value
      return (aligned directive.flags letter width item, left)

/-- Put arguments in the places of directives; none that has no name may be
left over. -/
def fill (supply : Supply) : List Piece → Except TemplateError Text
  | [] =>
      if supply.named.isNone && !supply.rest.isEmpty then
        .error .tooManyArguments
      else .ok []
  | .literal point :: rest => (fill supply rest).map (point :: ·)
  | .directive directive :: rest =>
      match fillDirective directive supply with
      | .error error => .error error
      | .ok (text, supply) => (fill supply rest).map (text ++ ·)

/-- A message: its template, filled if there are arguments. -/
def compose (template : Text) (arguments : List Json) :
    Except TemplateError Text :=
  if arguments.isEmpty then .ok template
  else fill (Supply.ofArguments arguments) (pieces template)

end ResponseService.Logging
