/-!
# Text as a list of code points

A text is any finite list of code points, surrogates included: a file name or
an escape in a document may contribute a surrogate that has no partner, and
such a text still has to be quoted, measured and sent.

Two operations are special to surrogates.  `Text.joinPairs` reads every high
surrogate that is directly followed by a low one as the single character the
pair encodes.  `Text.escapeSurrogates` writes every surrogate as the six ASCII
characters of its escape, after which only scalar values are left
(`escapeSurrogates_scalar`).
-/

namespace ResponseService

/-- A Unicode code point; surrogates are allowed. -/
structure CodePoint where
  /-- The number of the code point. -/
  value : Nat
  /-- Code points end at U+10FFFF. -/
  isLt : value < 0x110000
  deriving DecidableEq, Repr

namespace CodePoint

/-- U+FFFD, which stands for what could not be read. -/
def replacement : CodePoint := ⟨0xFFFD, by decide⟩

/-- The code point of a number; numbers past the last one give U+FFFD. -/
def ofNat (number : Nat) : CodePoint :=
  if bound : number < 0x110000 then ⟨number, bound⟩ else replacement

/-- Every scalar value is a code point. -/
def ofChar (character : Char) : CodePoint := ofNat character.toNat

instance : Coe Char CodePoint := ⟨ofChar⟩

instance : Inhabited CodePoint := ⟨replacement⟩

@[simp]
theorem value_ofNat {number : Nat} (bound : number < 0x110000) :
    (ofNat number).value = number := by
  simp [ofNat, bound]

/-- The first half of a surrogate pair: U+D800 to U+DBFF. -/
def isHighSurrogate (point : CodePoint) : Bool :=
  decide (0xD800 ≤ point.value) && decide (point.value < 0xDC00)

/-- The second half of a surrogate pair: U+DC00 to U+DFFF. -/
def isLowSurrogate (point : CodePoint) : Bool :=
  decide (0xDC00 ≤ point.value) && decide (point.value < 0xE000)

/-- Surrogates encode no character of their own. -/
def isSurrogate (point : CodePoint) : Bool :=
  decide (0xD800 ≤ point.value) && decide (point.value < 0xE000)

/-- The code points of ASCII. -/
def isAscii (point : CodePoint) : Bool := decide (point.value < 0x80)

/-- The code point lies on one of these stretches. -/
def liesOn (stretches : List (Nat × Nat)) (point : CodePoint) : Bool :=
  stretches.any fun stretch =>
    decide (stretch.1 ≤ point.value) && decide (point.value ≤ stretch.2)

/-- An ASCII decimal digit. -/
def isDigit (point : CodePoint) : Bool :=
  decide (0x30 ≤ point.value) && decide (point.value ≤ 0x39)

/-- The number an ASCII decimal digit stands for. -/
def digitValue (point : CodePoint) : Nat := point.value - 0x30

/-- The number a hexadecimal digit of either case stands for. -/
def hexValue? (point : CodePoint) : Option Nat :=
  if 0x30 ≤ point.value ∧ point.value ≤ 0x39 then some (point.value - 0x30)
  else if 0x61 ≤ point.value ∧ point.value ≤ 0x66 then
    some (point.value - 0x61 + 10)
  else if 0x41 ≤ point.value ∧ point.value ≤ 0x46 then
    some (point.value - 0x41 + 10)
  else none

/-- The character that a high and a low surrogate encode together. -/
def joined (high low : CodePoint) : CodePoint :=
  ofNat (0x10000 + (high.value - 0xD800) * 0x400 + (low.value - 0xDC00))

end CodePoint

/-- A finite sequence of code points. -/
abbrev Text := List CodePoint

namespace Text

/-- The code points of a string. -/
def ofString (string : String) : Text := string.toList.map CodePoint.ofChar

instance : Coe String Text := ⟨ofString⟩

/-- The text of one number written with `width` lower-case hexadecimal digits. -/
def hexadecimal : (width : Nat) → Nat → Text
  | 0, _ => []
  | width + 1, number =>
      hexadecimal width (number / 16) ++
        [let digit := number % 16
         CodePoint.ofNat (if digit < 10 then 0x30 + digit else 0x57 + digit)]

/-- A backslash, the letter `u` and four hexadecimal digits. -/
def unicodeEscape (number : Nat) : Text :=
  '\\' :: 'u' :: hexadecimal 4 number

/-- A backslash, a letter for the size of a number, and as many hexadecimal
digits as a number of that size may have. -/
def numberedEscape (number : Nat) : Text :=
  if number < 0x100 then '\\' :: 'x' :: hexadecimal 2 number
  else if number < 0x10000 then unicodeEscape number
  else '\\' :: 'U' :: hexadecimal 8 number

/-- Read each high surrogate with a low one right behind it as one character. -/
def joinPairs : Text → Text
  | [] => []
  | [point] => [point]
  | high :: low :: rest =>
      if high.isHighSurrogate && low.isLowSurrogate then
        CodePoint.joined high low :: joinPairs rest
      else
        high :: joinPairs (low :: rest)

/-- No high surrogate stands directly before a low one. -/
def Unpaired : Text → Prop
  | [] => True
  | [_] => True
  | high :: low :: rest =>
      ¬ (high.isHighSurrogate = true ∧ low.isLowSurrogate = true) ∧
        Unpaired (low :: rest)

/-- A text without adjacent halves of a pair is left as it is. -/
theorem joinPairs_of_unpaired {text : Text} (unpaired : text.Unpaired) :
    text.joinPairs = text := by
  fun_induction joinPairs text with
  | case1 => rfl
  | case2 => rfl
  | case3 high low rest pair =>
      simp only [Bool.and_eq_true] at pair
      exact absurd pair unpaired.1
  | case4 high low rest _ ih => rw [ih unpaired.2]

/-- Write every surrogate as its escape and leave all else as it is. -/
def escapeSurrogates (text : Text) : Text :=
  text.flatMap fun point =>
    if point.isSurrogate then unicodeEscape point.value else [point]

@[simp]
theorem escapeSurrogates_append (left right : Text) :
    escapeSurrogates (left ++ right) =
      escapeSurrogates left ++ escapeSurrogates right := by
  simp [escapeSurrogates]

theorem hexadecimal_ascii (width number : Nat) :
    ∀ point ∈ hexadecimal width number, point.value < 0x80 := by
  induction width generalizing number with
  | zero => simp [hexadecimal]
  | succ width ih =>
      intro point member
      simp only [hexadecimal, List.mem_append, List.mem_singleton] at member
      rcases member with earlier | last
      · exact ih _ point earlier
      · subst last
        have below : number % 16 < 16 := Nat.mod_lt _ (by decide)
        split <;> rw [CodePoint.value_ofNat] <;> omega

/-- No surrogate survives escaping. -/
theorem escapeSurrogates_scalar (text : Text) :
    ∀ point ∈ escapeSurrogates text, point.isSurrogate = false := by
  intro point member
  obtain ⟨source, _, inside⟩ := List.mem_flatMap.mp member
  by_cases surrogate : source.isSurrogate = true
  · simp only [surrogate, if_true, unicodeEscape, List.mem_cons] at inside
    rcases inside with rfl | rfl | digit
    · decide
    · decide
    · have ascii := hexadecimal_ascii 4 source.value point digit
      simp only [CodePoint.isSurrogate, Bool.and_eq_false_iff,
        decide_eq_false_iff_not]
      omega
  · simp only [surrogate, if_false, List.mem_singleton,
      Bool.false_eq_true] at inside
    subst inside
    simpa using surrogate

/-- The parts with a separator between each two neighbours. -/
def intercalate (separator : Text) : List Text → Text
  | [] => []
  | [part] => part
  | part :: next :: rest =>
      part ++ separator ++ intercalate separator (next :: rest)

/-- The pieces between the occurrences of a separating code point. -/
def splitOn (separator : CodePoint) : Text → List Text
  | [] => [[]]
  | point :: rest =>
      if point = separator then [] :: splitOn separator rest
      else
        match splitOn separator rest with
        | [] => [[point]]
        | piece :: pieces => (point :: piece) :: pieces

/-- The text before the first occurrence of a code point, and what follows it. -/
def cut? (separator : CodePoint) (text : Text) : Option (Text × Text) :=
  match text.span (· ≠ separator) with
  | (before, _ :: after) => some (before, after)
  | (_, []) => none

end Text

end ResponseService
