import Mathlib.Data.List.Basic
import Mathlib.Tactic.SplitIfs
import ResponseService.Proofs.Text.Utf8

/-!
# Strict decoding

`decode` accepts encodings and nothing else: if octets are read as a text, the
text has no surrogates and the octets are those that `encode` gives
(`decode_eq_ok_iff`).  So a text has one spelling; longer forms and surrogates
are flaws.

A character that has begun owes octets within bounds.  The bounds are such that
with whatever octets it is completed, all its octets together are the encoding
of a scalar value (`Completes`, `completes_of_opening`).
-/

namespace ResponseService

namespace Utf8

/-- The octets are the encoding of this number, and it is a scalar value. -/
def Encodes (octets : List UInt8) (number : Nat) : Prop :=
  ∃ point : CodePoint, point.value = number ∧ point.isSurrogate = false ∧
    encodeNumber number = octets

/-- With any further octets that are owed, the first one within the bounds, the
octets that have been taken encode a scalar value. -/
def Completes (taken : List UInt8) : (owed low high number : Nat) → Prop
  | 0, low, high, number =>
      ∀ octet : UInt8, low ≤ octet.toNat → octet.toNat ≤ high →
        Encodes (taken ++ [octet]) (number * 0x40 + (octet.toNat - 0x80))
  | owed + 1, low, high, number =>
      ∀ octet : UInt8, low ≤ octet.toNat → octet.toNat ≤ high →
        Completes (taken ++ [octet]) owed 0x80 0xBF
          (number * 0x40 + (octet.toNat - 0x80))

theorem encodes_of_eq {octets : List UInt8} {number : Nat}
    (inside : number < 0x110000) (scalar : number < 0xD800 ∨ 0xE000 ≤ number)
    (encoded : encodeNumber number = octets) : Encodes octets number :=
  ⟨⟨number, inside⟩, rfl, CodePoint.isSurrogate_eq_false_iff.mpr scalar,
    encoded⟩

section Lengths

variable {first second third fourth : UInt8} {number : Nat}

theorem encodeNumber_two
    (begun : 0xC2 ≤ first.toNat ∧ first.toNat < 0xE0)
    (next : 0x80 ≤ second.toNat ∧ second.toNat ≤ 0xBF)
    (whole : number =
      (first.toNat - 0xC0) * 0x40 + (second.toNat - 0x80)) :
    encodeNumber number = [first, second] := by
  have lead : 0xC0 + number / 0x40 = first.toNat := by omega
  have last : 0x80 + number % 0x40 = second.toNat := by omega
  rw [encodeNumber, if_neg (by omega), if_pos (by omega), lead, last,
    UInt8.ofNat_toNat, UInt8.ofNat_toNat]

theorem encodeNumber_three
    (begun : 0xE0 ≤ first.toNat ∧ first.toNat < 0xF0)
    (next : 0x80 ≤ second.toNat ∧ second.toNat ≤ 0xBF)
    (later : 0x80 ≤ third.toNat ∧ third.toNat ≤ 0xBF)
    (whole : number =
      ((first.toNat - 0xE0) * 0x40 + (second.toNat - 0x80)) * 0x40 +
        (third.toNat - 0x80))
    (long : 0x800 ≤ number) :
    encodeNumber number = [first, second, third] := by
  have lead : 0xE0 + number / 0x1000 = first.toNat := by omega
  have middle : 0x80 + number / 0x40 % 0x40 = second.toNat := by omega
  have last : 0x80 + number % 0x40 = third.toNat := by omega
  rw [encodeNumber, if_neg (by omega), if_neg (by omega), if_pos (by omega),
    lead, middle, last, UInt8.ofNat_toNat, UInt8.ofNat_toNat,
    UInt8.ofNat_toNat]

theorem encodeNumber_four
    (begun : 0xF0 ≤ first.toNat)
    (next : 0x80 ≤ second.toNat ∧ second.toNat ≤ 0xBF)
    (later : 0x80 ≤ third.toNat ∧ third.toNat ≤ 0xBF)
    (final : 0x80 ≤ fourth.toNat ∧ fourth.toNat ≤ 0xBF)
    (whole : number =
      (((first.toNat - 0xF0) * 0x40 + (second.toNat - 0x80)) * 0x40 +
        (third.toNat - 0x80)) * 0x40 + (fourth.toNat - 0x80))
    (long : 0x10000 ≤ number) :
    encodeNumber number = [first, second, third, fourth] := by
  have lead : 0xF0 + number / 0x40000 = first.toNat := by omega
  have early : 0x80 + number / 0x1000 % 0x40 = second.toNat := by omega
  have middle : 0x80 + number / 0x40 % 0x40 = third.toNat := by omega
  have last : 0x80 + number % 0x40 = fourth.toNat := by omega
  rw [encodeNumber, if_neg (by omega), if_neg (by omega), if_neg (by omega),
    lead, early, middle, last, UInt8.ofNat_toNat, UInt8.ofNat_toNat,
    UInt8.ofNat_toNat, UInt8.ofNat_toNat]

end Lengths

/-- Two octets are bounded by the first one. -/
theorem completes_two {first : UInt8}
    (begun : 0xC2 ≤ first.toNat ∧ first.toNat < 0xE0) :
    Completes [first] 0 0x80 0xBF (first.toNat - 0xC0) := by
  intro second above below
  apply encodes_of_eq
  · omega
  · omega
  · exact encodeNumber_two begun ⟨above, below⟩ rfl

/-- Bounds of the second octet of three leave out longer forms and
surrogates. -/
theorem completes_three {first : UInt8} {low high number : Nat}
    (begun : 0xE0 ≤ first.toNat ∧ first.toNat < 0xF0)
    (part : number = first.toNat - 0xE0)
    (within : 0x80 ≤ low ∧ high ≤ 0xBF)
    (long : first.toNat = 0xE0 → 0xA0 ≤ low)
    (scalar : first.toNat = 0xED → high ≤ 0x9F) :
    Completes [first] 1 low high number := by
  rw [part]
  simp only [Completes]
  intro second above below third least most
  apply encodes_of_eq
  · omega
  · omega
  · exact encodeNumber_three begun ⟨by omega, by omega⟩ ⟨least, most⟩ rfl
      (by omega)

/-- Bounds of the second octet of four leave out longer forms and what is past
the last code point. -/
theorem completes_four {first : UInt8} {low high number : Nat}
    (begun : 0xF0 ≤ first.toNat ∧ first.toNat ≤ 0xF4)
    (part : number = first.toNat - 0xF0)
    (within : 0x80 ≤ low ∧ high ≤ 0xBF)
    (long : first.toNat = 0xF0 → 0x90 ≤ low)
    (inside : first.toNat = 0xF4 → high ≤ 0x8F) :
    Completes [first] 2 low high number := by
  rw [part]
  simp only [Completes]
  intro second above below third leastThird mostThird fourth least most
  apply encodes_of_eq
  · omega
  · omega
  · exact encodeNumber_four begun.1 ⟨by omega, by omega⟩
      ⟨leastThird, mostThird⟩ ⟨least, most⟩ rfl (by omega)

/-- What a first octet opens is completed to a scalar value. -/
theorem completes_of_opening {octet : UInt8} {character : Pending}
    (opened : opening octet = .pending character) :
    Completes [octet] character.owed character.low character.high
      character.number := by
  simp only [opening] at opened
  -- One case for each row of the table of first octets.
  split_ifs at opened with one short two fewest surrogates three least four most <;>
    cases opened <;> dsimp only
  · exact completes_two ⟨by omega, two⟩
  · apply completes_three <;> omega
  · apply completes_three <;> omega
  · apply completes_three <;> omega
  · apply completes_four <;> omega
  · apply completes_four <;> omega
  · apply completes_four <;> omega

theorem encodes_of_opening {octet : UInt8} {number : Nat}
    (opened : opening octet = .complete number) : Encodes [octet] number := by
  simp only [opening] at opened
  split_ifs at opened with one
  cases opened
  apply encodes_of_eq
  · omega
  · omega
  · rw [encodeNumber, if_pos one, UInt8.ofNat_toNat]

/-! ## What is read without a flaw -/

/-- The octets are the encoding of a text of scalar values. -/
def IsEncodingOf (octets : List UInt8) (text : Text) : Prop :=
  (∀ point ∈ text, point.isSurrogate = false) ∧ encode text = octets

theorem Encodes.cons {octets rest : List UInt8} {number : Nat} {text : Text}
    (head : Encodes octets number) (tail : IsEncodingOf rest text) :
    IsEncodingOf (octets ++ rest) (CodePoint.ofNat number :: text) := by
  obtain ⟨point, rfl, scalar, rfl⟩ := head
  rw [CodePoint.ofNat_value]
  refine ⟨List.forall_mem_cons.mpr ⟨scalar, tail.1⟩, ?_⟩
  rw [← tail.2]
  simp [encode]

theorem error_cons_ne_map_ok {flaw : Flaw × Nat} {later : List Reading}
    {text : Text} : .error flaw :: later ≠ text.map .ok := by
  cases text <;> simp

/-- Readings without a flaw are of an encoding, whether they begin between two
characters or in the middle of one. -/
theorem isEncodingOf_of_decodeFrom (octets : List UInt8) :
    (∀ text, decodeFrom none octets = text.map .ok →
      IsEncodingOf octets text) ∧
    ∀ taken character text,
      Completes taken character.owed character.low character.high
        character.number →
      decodeFrom (some character) octets = text.map .ok →
      IsEncodingOf (taken ++ octets) text := by
  induction octets with
  | nil =>
      constructor
      · intro text read
        have empty := List.map_eq_nil_iff.mp read.symm
        rw [empty]
        exact ⟨nofun, rfl⟩
      · intro taken character text _ read
        exact absurd read error_cons_ne_map_ok
  | cons octet rest ih =>
      constructor
      · intro text read
        cases opened : opening octet with
        | complete number =>
            simp only [decodeFrom, opened] at read
            cases text with
            | nil => cases read
            | cons point later =>
                obtain ⟨same, others⟩ := List.cons.inj read
                rw [← Except.ok.inj same]
                exact (encodes_of_opening opened).cons (ih.1 later others)
        | pending character =>
            rw [decodeFrom_first rest opened] at read
            exact ih.2 [octet] character text (completes_of_opening opened) read
        | malformed =>
            simp only [decodeFrom, opened] at read
            exact absurd read error_cons_ne_map_ok
      · rintro taken ⟨count, owed, low, high, number⟩ text completes read
        by_cases within : low ≤ octet.toNat ∧ octet.toNat ≤ high
        · cases owed with
          | zero =>
              rw [decodeFrom_last rest rfl within.1 within.2 rfl] at read
              cases text with
              | nil => cases read
              | cons point later =>
                  obtain ⟨same, others⟩ := List.cons.inj read
                  have head := completes octet within.1 within.2
                  have all := head.cons (ih.1 later others)
                  rwa [List.append_assoc, Except.ok.inj same] at all
          | succ owed =>
              rw [decodeFrom_middle _ rest rfl within.1 within.2 rfl] at read
              have all := ih.2 (taken ++ [octet]) _ text
                (completes octet within.1 within.2) read
              rwa [List.append_assoc] at all
        · simp only [decodeFrom, if_neg within] at read
          exact absurd read error_cons_ne_map_ok

theorem eq_map_ok_of_textOf {position : Nat} {readings : List Reading}
    {text : Text} (told : textOf position readings = .ok text) :
    readings = text.map .ok := by
  induction readings generalizing position text with
  | nil =>
      cases told
      rfl
  | cons reading rest ih =>
      cases reading with
      | error flaw => cases told
      | ok point =>
          rw [textOf] at told
          cases later : textOf (position + (encodeNumber point.value).length)
              rest with
          | error flaw =>
              rw [later] at told
              cases told
          | ok others =>
              rw [later] at told
              cases told
              rw [ih later, List.map_cons]

/-- Octets are decoded to a text exactly if it has no surrogates and they are
its encoding. -/
theorem decode_eq_ok_iff {octets : List UInt8} {text : Text} :
    decode octets = .ok text ↔
      (∀ point ∈ text, point.isSurrogate = false) ∧ encode text = octets := by
  constructor
  · intro decoded
    rw [decode] at decoded
    cases told : textOf 0 (decodeUnits octets) with
    | error flaw =>
        rw [told] at decoded
        cases decoded
    | ok read =>
        rw [told] at decoded
        cases decoded
        exact (isEncodingOf_of_decodeFrom octets).1 text
          (eq_map_ok_of_textOf told)
  · rintro ⟨scalar, rfl⟩
    exact decode_encode scalar

end Utf8

/-! ## Strings -/

/-- The character of a scalar value. -/
def CodePoint.toChar (point : CodePoint) : Char := Char.ofNat point.value

theorem CodePoint.toNat_toChar {point : CodePoint}
    (scalar : point.isSurrogate = false) :
    point.toChar.toNat = point.value := by
  have outside := isSurrogate_eq_false_iff.mp scalar
  have inside := point.isLt
  have valid : point.value.isValidChar := by
    unfold Nat.isValidChar
    omega
  rw [toChar, Char.ofNat, dif_pos valid]
  rfl

theorem CodePoint.ofChar_toChar {point : CodePoint}
    (scalar : point.isSurrogate = false) : ofChar point.toChar = point := by
  rw [ofChar, toNat_toChar scalar, ofNat_value]

/-- Characters have the octets that the strings of the language have. -/
theorem Utf8.encodeNumber_toNat (character : Char) :
    encodeNumber character.toNat = String.utf8EncodeChar character := by
  have number : character.val.toNat = character.toNat := rfl
  have inside : character.toNat < 0x110000 := by
    rcases character.valid with low | high
    · exact Nat.lt_trans low (by decide)
    · exact high.2
  simp only [String.utf8EncodeChar, encodeNumber, number,
    Nat.le_iff_lt_add_one, Nat.reduceAdd]
  -- Core adds the mark of an octet behind its bits and reduces the first ones.
  split_ifs with one two three
  · rfl
  · have lead : character.toNat / 64 % 32 + 192 =
        0xC0 + character.toNat / 0x40 := by omega
    rw [lead, Nat.add_comm (character.toNat % 64)]
  · have lead : character.toNat / 4096 % 16 + 224 =
        0xE0 + character.toNat / 0x1000 := by omega
    rw [lead, Nat.add_comm (character.toNat / 64 % 64),
      Nat.add_comm (character.toNat % 64)]
  · have lead : character.toNat / 262144 % 8 + 240 =
        0xF0 + character.toNat / 0x40000 := by omega
    rw [lead, Nat.add_comm (character.toNat / 4096 % 64),
      Nat.add_comm (character.toNat / 64 % 64),
      Nat.add_comm (character.toNat % 64)]

/-- A text of scalar values is a string, and its encoding is that of the
string. -/
theorem Utf8.exists_string {text : Text}
    (scalar : ∀ point ∈ text, point.isSurrogate = false) :
    ∃ string : String, Text.ofString string = text ∧
      string.toUTF8.data.toList = encode text := by
  refine ⟨String.ofList (text.map CodePoint.toChar), ?_, ?_⟩
  · rw [Text.ofString, String.toList_ofList, List.map_map]
    calc
      text.map (CodePoint.ofChar ∘ CodePoint.toChar) = text.map id :=
        List.map_congr_left fun point member =>
          CodePoint.ofChar_toChar (scalar point member)
      _ = text := List.map_id text
  · rw [String.toUTF8_eq_toByteArray, String.toByteArray_ofList,
      List.utf8Encode, List.data_toByteArray, List.flatMap_map, encode]
    refine List.flatMap_congr fun point member => ?_
    rw [← encodeNumber_toNat, CodePoint.toNat_toChar (scalar point member)]

end ResponseService
