import ResponseService.Text.Basic

/-!
# Joining and escaping surrogates

Joining leaves a text as it is exactly if no high surrogate stands directly
before a low one (`joinPairs_eq_self_iff`), and what it gives is such a text
(`unpaired_joinPairs`).  It can be done one code point at a time from the end
to the front (`joinPairs_cons`), so parts of a text may be joined ahead of the
rest.
-/

namespace ResponseService

namespace CodePoint

theorem eq_of_value_eq {left right : CodePoint}
    (equal : left.value = right.value) : left = right := by
  cases left
  cases right
  cases equal
  rfl

@[simp]
theorem ofNat_value (point : CodePoint) : ofNat point.value = point :=
  eq_of_value_eq (value_ofNat point.isLt)

theorem isHighSurrogate_iff {point : CodePoint} :
    point.isHighSurrogate = true ↔
      0xD800 ≤ point.value ∧ point.value < 0xDC00 := by
  simp [isHighSurrogate]

theorem isLowSurrogate_iff {point : CodePoint} :
    point.isLowSurrogate = true ↔
      0xDC00 ≤ point.value ∧ point.value < 0xE000 := by
  simp [isLowSurrogate]

theorem isSurrogate_iff {point : CodePoint} :
    point.isSurrogate = true ↔
      0xD800 ≤ point.value ∧ point.value < 0xE000 := by
  simp [isSurrogate]

theorem isSurrogate_eq_false_iff {point : CodePoint} :
    point.isSurrogate = false ↔
      point.value < 0xD800 ∨ 0xE000 ≤ point.value := by
  rw [← Bool.not_eq_true, isSurrogate_iff]
  omega

theorem isSurrogate_of_high {point : CodePoint}
    (high : point.isHighSurrogate = true) : point.isSurrogate = true := by
  rw [isHighSurrogate_iff] at high
  rw [isSurrogate_iff]
  omega

theorem isSurrogate_of_low {point : CodePoint}
    (low : point.isLowSurrogate = true) : point.isSurrogate = true := by
  rw [isLowSurrogate_iff] at low
  rw [isSurrogate_iff]
  omega

theorem isHighSurrogate_eq_false {point : CodePoint}
    (scalar : point.isSurrogate = false) : point.isHighSurrogate = false := by
  rw [← Bool.not_eq_true, isHighSurrogate_iff]
  have outside := isSurrogate_eq_false_iff.mp scalar
  omega

theorem isLowSurrogate_eq_false {point : CodePoint}
    (scalar : point.isSurrogate = false) : point.isLowSurrogate = false := by
  rw [← Bool.not_eq_true, isLowSurrogate_iff]
  have outside := isSurrogate_eq_false_iff.mp scalar
  omega

theorem isHighSurrogate_eq_false_of_low {point : CodePoint}
    (low : point.isLowSurrogate = true) : point.isHighSurrogate = false := by
  rw [← Bool.not_eq_true, isHighSurrogate_iff]
  have inside := isLowSurrogate_iff.mp low
  omega

theorem value_joined {high low : CodePoint}
    (highHalf : high.isHighSurrogate = true)
    (lowHalf : low.isLowSurrogate = true) :
    (joined high low).value =
      0x10000 + (high.value - 0xD800) * 0x400 + (low.value - 0xDC00) := by
  have highInside := isHighSurrogate_iff.mp highHalf
  have lowInside := isLowSurrogate_iff.mp lowHalf
  exact value_ofNat (by omega)

theorem isSurrogate_joined {high low : CodePoint}
    (highHalf : high.isHighSurrogate = true)
    (lowHalf : low.isLowSurrogate = true) :
    (joined high low).isSurrogate = false := by
  rw [isSurrogate_eq_false_iff, value_joined highHalf lowHalf]
  omega

end CodePoint

namespace Text

/-! ## Joining -/

theorem joinPairs_cons_of_not_high {point : CodePoint} (rest : Text)
    (single : point.isHighSurrogate = false) :
    joinPairs (point :: rest) = point :: joinPairs rest := by
  cases rest with
  | nil => rfl
  | cons next rest => simp [joinPairs, single]

theorem joinPairs_cons_cons_of_not_low (point : CodePoint) {next : CodePoint}
    (rest : Text) (single : next.isLowSurrogate = false) :
    joinPairs (point :: next :: rest) = point :: joinPairs (next :: rest) := by
  simp [joinPairs, single]

theorem joinPairs_pair {high low : CodePoint} (rest : Text)
    (highHalf : high.isHighSurrogate = true)
    (lowHalf : low.isLowSurrogate = true) :
    joinPairs (high :: low :: rest) =
      CodePoint.joined high low :: joinPairs rest := by
  simp [joinPairs, highHalf, lowHalf]

theorem length_joinPairs_le (text : Text) :
    text.joinPairs.length ≤ text.length := by
  fun_induction joinPairs text with
  | case1 => simp
  | case2 => simp
  | case3 high low rest pair ih =>
      simp only [List.length_cons]
      omega
  | case4 high low rest apart ih =>
      simpa using ih

/-- A text is left as it is only if it has no adjacent halves of a pair. -/
theorem unpaired_of_joinPairs_eq_self {text : Text}
    (same : text.joinPairs = text) : text.Unpaired := by
  fun_induction joinPairs text with
  | case1 => trivial
  | case2 => trivial
  | case3 high low rest pair ih =>
      have shorter := length_joinPairs_le rest
      have equal := congrArg List.length same
      simp only [List.length_cons] at equal
      omega
  | case4 high low rest apart ih =>
      refine ⟨?_, ih (List.cons.inj same).2⟩
      simpa using apart

/-- Joining recovers exactly the texts without adjacent halves of a pair. -/
theorem joinPairs_eq_self_iff {text : Text} :
    text.joinPairs = text ↔ text.Unpaired :=
  ⟨unpaired_of_joinPairs_eq_self, joinPairs_of_unpaired⟩

instance (text : Text) : Decidable text.Unpaired :=
  decidable_of_iff _ joinPairs_eq_self_iff

/-- Put a code point before a text in which all pairs are joined. -/
def attach (point : CodePoint) : Text → Text
  | [] => [point]
  | next :: rest =>
      if point.isHighSurrogate && next.isLowSurrogate then
        CodePoint.joined point next :: rest
      else point :: next :: rest

/-- A joined text begins with what the text begins with, or with a character
that is no surrogate. -/
theorem joinPairs_cons_eq (point : CodePoint) (rest : Text) :
    (∃ others, joinPairs (point :: rest) = point :: others) ∨
      ∃ character others,
        joinPairs (point :: rest) = character :: others ∧
          character.isSurrogate = false := by
  cases rest with
  | nil => exact Or.inl ⟨[], rfl⟩
  | cons next rest =>
      by_cases pair : (point.isHighSurrogate && next.isLowSurrogate) = true
      · have halves := Bool.and_eq_true_iff.mp pair
        exact Or.inr ⟨_, _, joinPairs_pair rest halves.1 halves.2,
          CodePoint.isSurrogate_joined halves.1 halves.2⟩
      · exact Or.inl ⟨joinPairs (next :: rest), by rw [joinPairs, if_neg pair]⟩

/-- Joining goes from the end to the front: what has been joined is not looked
at again. -/
theorem joinPairs_cons (point : CodePoint) (rest : Text) :
    joinPairs (point :: rest) = attach point (joinPairs rest) := by
  cases rest with
  | nil => rfl
  | cons next rest =>
      by_cases highHalf : point.isHighSurrogate = true
      · by_cases lowHalf : next.isLowSurrogate = true
        · have single := CodePoint.isHighSurrogate_eq_false_of_low lowHalf
          rw [joinPairs_pair rest highHalf lowHalf,
            joinPairs_cons_of_not_high rest single]
          simp [attach, highHalf, lowHalf]
        · rw [Bool.not_eq_true] at lowHalf
          rw [joinPairs_cons_cons_of_not_low point rest lowHalf]
          rcases joinPairs_cons_eq next rest with
            ⟨others, same⟩ | ⟨character, others, same, scalar⟩
          · rw [same]
            simp [attach, lowHalf]
          · have noLow := CodePoint.isLowSurrogate_eq_false scalar
            rw [same]
            simp [attach, noLow]
      · rw [Bool.not_eq_true] at highHalf
        rw [joinPairs_cons_of_not_high _ highHalf]
        cases joinPairs (next :: rest) with
        | nil => rfl
        | cons first others => simp [attach, highHalf]

theorem unpaired_attach (point : CodePoint) {rest : Text}
    (unpaired : rest.Unpaired) : (attach point rest).Unpaired := by
  cases rest with
  | nil => trivial
  | cons next rest =>
      by_cases pair : (point.isHighSurrogate && next.isLowSurrogate) = true
      · have halves := Bool.and_eq_true_iff.mp pair
        have scalar := CodePoint.isSurrogate_joined halves.1 halves.2
        rw [attach, if_pos pair]
        cases rest with
        | nil => trivial
        | cons later others =>
            refine ⟨?_, unpaired.2⟩
            simp [CodePoint.isHighSurrogate_eq_false scalar]
      · rw [attach, if_neg pair]
        exact ⟨by simpa using pair, unpaired⟩

/-- A joined text has no adjacent halves of a pair. -/
theorem unpaired_joinPairs (text : Text) : text.joinPairs.Unpaired := by
  induction text with
  | nil => trivial
  | cons point rest ih =>
      rw [joinPairs_cons]
      exact unpaired_attach point ih

/-! ## Escaping -/

@[simp]
theorem escapeSurrogates_nil : escapeSurrogates [] = [] := rfl

theorem escapeSurrogates_cons_of_surrogate {point : CodePoint} (rest : Text)
    (surrogate : point.isSurrogate = true) :
    escapeSurrogates (point :: rest) =
      unicodeEscape point.value ++ escapeSurrogates rest := by
  simp [escapeSurrogates, surrogate]

theorem escapeSurrogates_cons_of_scalar {point : CodePoint} (rest : Text)
    (scalar : point.isSurrogate = false) :
    escapeSurrogates (point :: rest) = point :: escapeSurrogates rest := by
  simp [escapeSurrogates, scalar]

theorem escapeSurrogates_of_scalar {text : Text}
    (scalar : ∀ point ∈ text, point.isSurrogate = false) :
    escapeSurrogates text = text := by
  induction text with
  | nil => rfl
  | cons point rest ih =>
      rw [escapeSurrogates_cons_of_scalar rest (scalar point (by simp)),
        ih fun other member => scalar other (by simp [member])]

end Text

end ResponseService
