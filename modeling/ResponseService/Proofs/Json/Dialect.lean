import Mathlib.Data.Nat.Digits.Defs
import ResponseService.Json.Value
import ResponseService.Proofs.Number.Rounding
import ResponseService.Proofs.Ordered

/-!
# The dialect of JSON that is read

This is the grammar of the texts that have a document, down to their code
points, together with the document that each of them denotes (`Denotes`).  It
is JSON with three more words for numbers that are not finite, and with raw
surrogates between quotes.  No part of the reader is used in it.

Integers are exact and have at most 4300 digits; other numbers denote the
nearest double.  The escapes of a high and a low surrogate in a row denote one
character, every other surrogate denotes itself.  A name that stands twice in
an object has its first place and its last value (`Merges`).
-/

namespace ResponseService.Json.Dialect

/-- A text of one character. -/
def mark (character : Char) : Text := [CodePoint.ofChar character]

/-! ## Blanks -/

/-- Spaces, tabs, line feeds and carriage returns, or nothing. -/
def Blanks (text : Text) : Prop :=
  ∀ point ∈ text, point.value ∈ [0x20, 0x09, 0x0A, 0x0D]

/-! ## Quoted texts -/

/-- The letters that may stand behind a backslash, and what they denote. -/
def shortEscapes : List (CodePoint × CodePoint) :=
  [('"', '"'), ('\\', '\\'), ('/', '/'), ('b', CodePoint.ofNat 0x08),
    ('f', CodePoint.ofNat 0x0C), ('n', CodePoint.ofNat 0x0A),
    ('r', CodePoint.ofNat 0x0D), ('t', CodePoint.ofNat 0x09)]

/-- A hexadecimal digit of either case. -/
def HexDigit (point : CodePoint) (digit : Nat) : Prop :=
  (Text.ofString "0123456789abcdef")[digit]? = some point ∨
    (Text.ofString "0123456789ABCDEF")[digit]? = some point

/-- A backslash, the letter `u` and four hexadecimal digits. -/
inductive Escape : Text → CodePoint → Prop where
  | digits {first second third fourth : CodePoint} {one two three four : Nat}
      (firstDigit : HexDigit first one) (secondDigit : HexDigit second two)
      (thirdDigit : HexDigit third three) (fourthDigit : HexDigit fourth four) :
      Escape (mark '\\' ++ (mark 'u' ++ [first, second, third, fourth]))
        (CodePoint.ofNat (((one * 16 + two) * 16 + three) * 16 + four))

/-- The escape of a low surrogate stands at the front of the text. -/
def BeginsWithLow (text : Text) : Prop :=
  ∃ escape low after, text = escape ++ after ∧ Escape escape low ∧
    low.isLowSurrogate = true

/-- What may stand between quotes, and the text that it denotes. -/
inductive Inside : Text → Text → Prop where
  | nil : Inside [] []
  | plain {point : CodePoint} {rest value : Text}
      (visible : 0x20 ≤ point.value) (noQuote : point ≠ '"')
      (noBackslash : point ≠ '\\') (tail : Inside rest value) :
      Inside (point :: rest) (point :: value)
  | short {letter point : CodePoint} {rest value : Text}
      (known : (letter, point) ∈ shortEscapes) (tail : Inside rest value) :
      Inside (mark '\\' ++ letter :: rest) (point :: value)
  | pair {first second : Text} {high low : CodePoint} {rest value : Text}
      (firstEscape : Escape first high) (secondEscape : Escape second low)
      (isHigh : high.isHighSurrogate = true)
      (isLow : low.isLowSurrogate = true) (tail : Inside rest value) :
      Inside (first ++ (second ++ rest)) (CodePoint.joined high low :: value)
  | single {spelling : Text} {point : CodePoint} {rest value : Text}
      (escape : Escape spelling point)
      (alone : point.isHighSurrogate = true → ¬BeginsWithLow rest)
      (tail : Inside rest value) :
      Inside (spelling ++ rest) (point :: value)

/-- A text between quotes. -/
def quoted (inside : Text) : Text := mark '"' ++ (inside ++ mark '"')

/-! ## Numbers -/

/-- At least one of the ten digits and nothing else. -/
def Digits (text : Text) : Prop :=
  text ≠ [] ∧ ∀ point ∈ text, 0x30 ≤ point.value ∧ point.value ≤ 0x39

/-- The number that is written with these digits. -/
def numberOf (digits : Text) : Nat :=
  Nat.ofDigits 10 (digits.reverse.map fun point => point.value - 0x30)

/-- A minus or nothing. -/
inductive Sign : Text → Bool → Prop where
  | none : Sign [] false
  | minus : Sign (mark '-') true

/-- No zero stands before another digit. -/
def Whole (text : Text) : Prop :=
  Digits text ∧ (text.head? = some (CodePoint.ofChar '0') → text.length = 1)

/-- A point with digits behind it, or nothing, and the digits. -/
inductive Fraction : Text → Text → Prop where
  | none : Fraction [] []
  | digits {digits : Text} (all : Digits digits) :
      Fraction (mark '.' ++ digits) digits

/-- The letter `e` of either case with digits behind it, which may be signed,
or nothing, and the power of ten. -/
inductive Exponent : Text → Int → Prop where
  | none : Exponent [] 0
  | digits {letter : CodePoint} {sign digits : Text} {factor : Int}
      (known : letter = 'e' ∨ letter = 'E')
      (signed : (sign, factor) ∈
        [([], 1), (mark '+', 1), (mark '-', -1)])
      (all : Digits digits) :
      Exponent (letter :: (sign ++ digits)) (factor * numberOf digits)

/-- A number: an integer, or the double nearest to one that has a fraction or
an exponent. -/
inductive Numeral : Text → Json → Prop where
  | integer {sign whole : Text} {negative : Bool}
      (signed : Sign sign negative) (leading : Whole whole)
      (few : whole.length ≤ 4300) :
      Numeral (sign ++ whole)
        (.integer (if negative then -(numberOf whole : Int)
          else numberOf whole))
  | float {sign whole fraction digits exponent : Text} {negative : Bool}
      {power : Int} {double : Double}
      (signed : Sign sign negative) (leading : Whole whole)
      (fractional : Fraction fraction digits)
      (scaled : Exponent exponent power) (notInteger : fraction ++ exponent ≠ [])
      (nearest : Double.RoundsTo negative
        (numberOf (whole ++ digits) * 10 ^ (power - digits.length)) double) :
      Numeral (sign ++ (whole ++ (fraction ++ exponent))) (.float double)

/-! ## Documents -/

/-- The members are what is left of the entries of an object: the names in
their order without repetition, each with its last value. -/
structure Merges (entries members : List (Text × Json)) : Prop where
  names : Ordered.names members =
    (Ordered.names entries).reverse.dedup.reverse
  values : ∀ name,
    Ordered.lookup members name = Ordered.lookup entries.reverse name

mutual

/-- The text is one value, with no blanks before or behind it. -/
inductive Writes : Text → Json → Prop where
  | null : Writes "null" .null
  | yes : Writes "true" (.boolean true)
  | no : Writes "false" (.boolean false)
  | notANumber : Writes "NaN" (.float .notANumber)
  | infinity : Writes "Infinity" (.float (.infinite false))
  | negativeInfinity : Writes "-Infinity" (.float (.infinite true))
  | number {text : Text} {value : Json} (numeral : Numeral text value) :
      Writes text value
  | text {inside value : Text} (between : Inside inside value) :
      Writes (quoted inside) (.text value)
  | array {inside : Text} {items : List Json}
      (listed : WritesItems inside items) :
      Writes (mark '[' ++ (inside ++ mark ']')) (.array items)
  | object {inside : Text} {entries members : List (Text × Json)}
      (listed : WritesEntries inside entries)
      (merged : Merges entries members) :
      Writes (mark '\x7b' ++ (inside ++ mark '\x7d')) (.object members)

/-- What may stand between the brackets of an array. -/
inductive WritesItems : Text → List Json → Prop where
  | none {blanks : Text} (blank : Blanks blanks) : WritesItems blanks []
  | some {before first later : Text} {item : Json} {items : List Json}
      (blank : Blanks before) (head : Writes first item)
      (tail : WritesLaterItems later items) :
      WritesItems (before ++ (first ++ later)) (item :: items)

/-- What may stand behind an item. -/
inductive WritesLaterItems : Text → List Json → Prop where
  | done {blanks : Text} (blank : Blanks blanks) : WritesLaterItems blanks []
  | comma {before after first later : Text} {item : Json} {items : List Json}
      (blank : Blanks before) (blankAfter : Blanks after)
      (head : Writes first item) (tail : WritesLaterItems later items) :
      WritesLaterItems (before ++ (mark ',' ++ (after ++ (first ++ later))))
        (item :: items)

/-- A name, a colon and a value. -/
inductive WritesEntry : Text → Text → Json → Prop where
  | colon {inside before after written name : Text} {value : Json}
      (between : Inside inside name) (blank : Blanks before)
      (blankAfter : Blanks after) (body : Writes written value) :
      WritesEntry (quoted inside ++ (before ++ (mark ':' ++ (after ++ written))))
        name value

/-- What may stand between the braces of an object. -/
inductive WritesEntries : Text → List (Text × Json) → Prop where
  | none {blanks : Text} (blank : Blanks blanks) : WritesEntries blanks []
  | some {before first later name : Text} {value : Json}
      {entries : List (Text × Json)}
      (blank : Blanks before) (head : WritesEntry first name value)
      (tail : WritesLaterEntries later entries) :
      WritesEntries (before ++ (first ++ later)) ((name, value) :: entries)

/-- What may stand behind a member. -/
inductive WritesLaterEntries : Text → List (Text × Json) → Prop where
  | done {blanks : Text} (blank : Blanks blanks) : WritesLaterEntries blanks []
  | comma {before after first later name : Text} {value : Json}
      {entries : List (Text × Json)}
      (blank : Blanks before) (blankAfter : Blanks after)
      (head : WritesEntry first name value)
      (tail : WritesLaterEntries later entries) :
      WritesLaterEntries (before ++ (mark ',' ++ (after ++ (first ++ later))))
        ((name, value) :: entries)

end

/-- The text is one value with blanks around it. -/
def Denotes (text : Text) (document : Json) : Prop :=
  ∃ before written after, text = before ++ (written ++ after) ∧
    Blanks before ∧ Blanks after ∧ Writes written document

/-! ## Members -/

theorem merges_iff {entries members : List (Text × Json)} :
    Merges entries members ↔ Ordered.ofList entries = members := by
  constructor
  · intro merges
    apply Ordered.eq_of_lookup
    · rw [Ordered.names_ofList, merges.names]
    · exact Ordered.nodup_ofList entries
    · intro name _
      rw [Ordered.lookup_ofList, merges.values]
  · rintro rfl
    exact ⟨Ordered.names_ofList entries, Ordered.lookup_ofList entries⟩

end ResponseService.Json.Dialect
