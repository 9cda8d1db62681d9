import ResponseService.Proofs.Text.Surrogates
import ResponseService.Text.Utf8

/-!
# UTF-8 undoes itself

The octets of a scalar value open one character and complete it, whatever
follows (`decodeFrom_encodeNumber`, one case for each length of the encoding).
A text of scalar values is therefore decoded to itself (`decode_encode`).
-/

namespace ResponseService.Utf8

theorem decodeFrom_one {number : Nat} (rest : List UInt8)
    (above : number < 0x80) :
    decodeFrom none (UInt8.ofNat number :: rest) =
      .ok (CodePoint.ofNat number) :: decodeFrom none rest := by
  have octet : (UInt8.ofNat number).toNat = number := by
    rw [UInt8.toNat_ofNat']
    omega
  simp [decodeFrom, opening, octet, above]

/-- A last octet completes the number of the character that is pending. -/
theorem decodeFrom_last {character : Pending} {octet : UInt8} {number : Nat}
    (rest : List UInt8) (owed : character.owed = 0)
    (low : character.low ≤ octet.toNat) (high : octet.toNat ≤ character.high)
    (whole : character.number * 0x40 + (octet.toNat - 0x80) = number) :
    decodeFrom (some character) (octet :: rest) =
      .ok (CodePoint.ofNat number) :: decodeFrom none rest := by
  subst whole
  simp [decodeFrom, low, high, owed]

theorem decodeFrom_middle {character : Pending} {octet : UInt8}
    {owed : Nat} (number : Nat) (rest : List UInt8)
    (more : character.owed = owed + 1)
    (low : character.low ≤ octet.toNat) (high : octet.toNat ≤ character.high)
    (part : character.number * 0x40 + (octet.toNat - 0x80) = number) :
    decodeFrom (some character) (octet :: rest) =
      decodeFrom (some ⟨character.taken + 1, owed, 0x80, 0xBF, number⟩) rest := by
  subst part
  simp [decodeFrom, low, high, more]

theorem decodeFrom_first {octet : UInt8} {character : Pending}
    (rest : List UInt8) (opened : opening octet = .pending character) :
    decodeFrom none (octet :: rest) = decodeFrom (some character) rest := by
  simp [decodeFrom, opened]

/-- The six lowest bits of a number in an octet of a longer character. -/
theorem toNat_continuation (number : Nat) :
    (UInt8.ofNat (0x80 + number % 0x40)).toNat = 0x80 + number % 0x40 := by
  rw [UInt8.toNat_ofNat']
  omega

theorem opening_two {number : Nat}
    (below : 0x80 ≤ number) (above : number < 0x800) :
    opening (UInt8.ofNat (0xC0 + number / 0x40)) =
      .pending ⟨1, 0, 0x80, 0xBF, number / 0x40⟩ := by
  have first : (UInt8.ofNat (0xC0 + number / 0x40)).toNat =
      0xC0 + number / 0x40 := by
    rw [UInt8.toNat_ofNat']
    omega
  simp only [opening, first]
  rw [if_neg (by omega), if_neg (by omega), if_pos (by omega),
    Nat.add_sub_cancel_left]

theorem decodeFrom_two {number : Nat} (rest : List UInt8)
    (below : 0x80 ≤ number) (above : number < 0x800) :
    decodeFrom none
        (UInt8.ofNat (0xC0 + number / 0x40) ::
          UInt8.ofNat (0x80 + number % 0x40) :: rest) =
      .ok (CodePoint.ofNat number) :: decodeFrom none rest := by
  have second := toNat_continuation number
  rw [decodeFrom_first _ (opening_two below above)]
  apply decodeFrom_last
  · rfl
  all_goals simp only [second]; omega

/-- The first octet of three opens a character that owes one octet after the
next one; the bounds of the next one leave out short forms and surrogates. -/
theorem opening_three {number : Nat}
    (below : 0x800 ≤ number) (above : number < 0x10000)
    (scalar : number < 0xD800 ∨ 0xE000 ≤ number) :
    ∃ character,
      opening (UInt8.ofNat (0xE0 + number / 0x1000)) = .pending character ∧
        character.owed = 1 ∧ character.number = number / 0x1000 ∧
        character.low ≤ 0x80 + number / 0x40 % 0x40 ∧
        0x80 + number / 0x40 % 0x40 ≤ character.high := by
  have first : (UInt8.ofNat (0xE0 + number / 0x1000)).toNat =
      0xE0 + number / 0x1000 := by
    rw [UInt8.toNat_ofNat']
    omega
  simp only [opening, first]
  rw [if_neg (by omega), if_neg (by omega), if_neg (by omega)]
  by_cases least : 0xE0 + number / 0x1000 = 0xE0
  · rw [if_pos least]
    refine ⟨_, rfl, rfl, ?_⟩
    simp only
    omega
  · rw [if_neg least]
    by_cases surrogates : 0xE0 + number / 0x1000 = 0xED
    · rw [if_pos surrogates]
      refine ⟨_, rfl, rfl, ?_⟩
      simp only
      omega
    · rw [if_neg surrogates, if_pos (by omega)]
      refine ⟨_, rfl, rfl, ?_⟩
      simp only
      omega

theorem decodeFrom_three {number : Nat} (rest : List UInt8)
    (below : 0x800 ≤ number) (above : number < 0x10000)
    (scalar : number < 0xD800 ∨ 0xE000 ≤ number) :
    decodeFrom none
        (UInt8.ofNat (0xE0 + number / 0x1000) ::
          UInt8.ofNat (0x80 + number / 0x40 % 0x40) ::
          UInt8.ofNat (0x80 + number % 0x40) :: rest) =
      .ok (CodePoint.ofNat number) :: decodeFrom none rest := by
  rcases opening_three below above scalar with
    ⟨character, opened, owed, begun, low, high⟩
  have second := toNat_continuation (number / 0x40)
  have third := toNat_continuation number
  rw [decodeFrom_first _ opened,
    decodeFrom_middle (number / 0x40) _ owed
      (by rw [second]; exact low) (by rw [second]; exact high)
      (by rw [second, begun]; omega)]
  apply decodeFrom_last
  · rfl
  all_goals simp only [third]; omega

theorem opening_four {number : Nat}
    (below : 0x10000 ≤ number) (above : number < 0x110000) :
    ∃ character,
      opening (UInt8.ofNat (0xF0 + number / 0x40000)) = .pending character ∧
        character.owed = 2 ∧ character.number = number / 0x40000 ∧
        character.low ≤ 0x80 + number / 0x1000 % 0x40 ∧
        0x80 + number / 0x1000 % 0x40 ≤ character.high := by
  have first : (UInt8.ofNat (0xF0 + number / 0x40000)).toNat =
      0xF0 + number / 0x40000 := by
    rw [UInt8.toNat_ofNat']
    omega
  simp only [opening, first]
  rw [if_neg (by omega), if_neg (by omega), if_neg (by omega),
    if_neg (by omega), if_neg (by omega), if_neg (by omega)]
  by_cases least : 0xF0 + number / 0x40000 = 0xF0
  · rw [if_pos least]
    refine ⟨_, rfl, rfl, ?_⟩
    simp only
    omega
  · rw [if_neg least]
    by_cases inner : 0xF0 + number / 0x40000 < 0xF4
    · rw [if_pos inner]
      refine ⟨_, rfl, rfl, ?_⟩
      simp only
      omega
    · rw [if_neg inner, if_pos (by omega)]
      refine ⟨_, rfl, rfl, ?_⟩
      simp only
      omega

theorem decodeFrom_four {number : Nat} (rest : List UInt8)
    (below : 0x10000 ≤ number) (above : number < 0x110000) :
    decodeFrom none
        (UInt8.ofNat (0xF0 + number / 0x40000) ::
          UInt8.ofNat (0x80 + number / 0x1000 % 0x40) ::
          UInt8.ofNat (0x80 + number / 0x40 % 0x40) ::
          UInt8.ofNat (0x80 + number % 0x40) :: rest) =
      .ok (CodePoint.ofNat number) :: decodeFrom none rest := by
  rcases opening_four below above with
    ⟨character, opened, owed, begun, low, high⟩
  have second := toNat_continuation (number / 0x1000)
  have third := toNat_continuation (number / 0x40)
  have fourth := toNat_continuation number
  rw [decodeFrom_first _ opened,
    decodeFrom_middle (number / 0x1000) _ owed
      (by rw [second]; exact low) (by rw [second]; exact high)
      (by rw [second, begun]; omega),
    decodeFrom_middle (number / 0x40) _ rfl
      (by simp only [third]; omega) (by simp only [third]; omega)
      (by simp only [third]; omega)]
  apply decodeFrom_last
  · rfl
  all_goals simp only [fourth]; omega

/-- The octets of a scalar value are read as that value. -/
theorem decodeFrom_encodeNumber {point : CodePoint} (rest : List UInt8)
    (scalar : point.isSurrogate = false) :
    decodeFrom none (encodeNumber point.value ++ rest) =
      .ok point :: decodeFrom none rest := by
  have outside := CodePoint.isSurrogate_eq_false_iff.mp scalar
  have inside := point.isLt
  conv => rhs; rw [← CodePoint.ofNat_value point]
  unfold encodeNumber
  split
  · next one => exact decodeFrom_one rest one
  · next past =>
    split
    · next two => exact decodeFrom_two rest (by omega) two
    · next past =>
      split
      · next three => exact decodeFrom_three rest (by omega) three outside
      · next past => exact decodeFrom_four rest (by omega) inside

theorem decodeUnits_encode {text : Text}
    (scalar : ∀ point ∈ text, point.isSurrogate = false) :
    decodeUnits (encode text) = text.map .ok := by
  induction text with
  | nil => rfl
  | cons point rest ih =>
      have tail := ih fun other member => scalar other (by simp [member])
      have split : encode (point :: rest) =
          encodeNumber point.value ++ encode rest := by
        simp [encode]
      rw [decodeUnits] at tail ⊢
      rw [split, decodeFrom_encodeNumber _ (scalar point (by simp)), tail,
        List.map_cons]

theorem textOf_map_ok (position : Nat) (text : Text) :
    textOf position (text.map .ok) = .ok text := by
  induction text generalizing position with
  | nil => rfl
  | cons point rest ih => simp [textOf, ih, Except.map]

/-- Decoding undoes encoding. -/
theorem decode_encode {text : Text}
    (scalar : ∀ point ∈ text, point.isSurrogate = false) :
    decode (encode text) = .ok text := by
  rw [decode, decodeUnits_encode scalar, textOf_map_ok]
  rfl

/-- What is sent for a text is decoded to the text with its surrogates
escaped. -/
theorem decode_encode_escapeSurrogates (text : Text) :
    decode (encode text.escapeSurrogates) = .ok text.escapeSurrogates :=
  decode_encode text.escapeSurrogates_scalar

end ResponseService.Utf8
