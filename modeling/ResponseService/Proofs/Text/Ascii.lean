import ResponseService.Number.Decimal
import ResponseService.Text.Case
import ResponseService.Text.Latin1

/-!
# Texts in ASCII and in Latin-1

Numerals and escapes are visible characters of ASCII, and what is ASCII is
Latin-1.  The letters of ASCII that become small are the 26 capital ones
(`lower_of_isAscii`), whatever stands in the tables for the rest of Unicode.
-/

namespace ResponseService

/-- A visible character of ASCII, or the space. -/
def CodePoint.IsVisible (point : CodePoint) : Prop :=
  0x20 ≤ point.value ∧ point.value ≤ 0x7E

instance (point : CodePoint) : Decidable point.IsVisible :=
  inferInstanceAs (Decidable (0x20 ≤ point.value ∧ point.value ≤ 0x7E))

namespace Text

/-- Every code point is a visible character of ASCII or the space. -/
def IsVisible (text : Text) : Prop := ∀ point ∈ text, point.IsVisible

/-- Every code point is below U+0080. -/
def IsAscii (text : Text) : Prop := ∀ point ∈ text, point.value < 0x80

/-- Every code point is below U+0100. -/
def IsLatin1 (text : Text) : Prop := ∀ point ∈ text, point.value < 0x100

instance (text : Text) : Decidable text.IsVisible :=
  inferInstanceAs (Decidable (∀ point ∈ text, point.IsVisible))

instance (text : Text) : Decidable text.IsAscii :=
  inferInstanceAs (Decidable (∀ point ∈ text, point.value < 0x80))

instance (text : Text) : Decidable text.IsLatin1 :=
  inferInstanceAs (Decidable (∀ point ∈ text, point.value < 0x100))

@[simp]
theorem isVisible_nil : IsVisible [] := by simp [IsVisible]

@[simp]
theorem isVisible_cons (point : CodePoint) (rest : Text) :
    IsVisible (point :: rest) ↔ point.IsVisible ∧ IsVisible rest := by
  simp [IsVisible]

@[simp]
theorem isVisible_append (left right : Text) :
    IsVisible (left ++ right) ↔ IsVisible left ∧ IsVisible right := by
  simp [IsVisible, or_imp, forall_and]

theorem IsVisible.subset {text part : Text} (visible : IsVisible text)
    (within : part ⊆ text) : IsVisible part :=
  fun point member => visible point (within member)

theorem IsVisible.isAscii {text : Text} (visible : text.IsVisible) :
    text.IsAscii :=
  fun point member => Nat.lt_of_le_of_lt (visible point member).2 (by decide)

theorem isAscii_cons (point : CodePoint) (rest : Text) :
    IsAscii (point :: rest) ↔ point.value < 0x80 ∧ IsAscii rest := by
  simp [IsAscii]

theorem IsAscii.isLatin1 {text : Text} (ascii : text.IsAscii) : text.IsLatin1 :=
  fun point member => Nat.lt_trans (ascii point member) (by decide)

theorem encode?_of_isLatin1 {text : Text} (latin1 : text.IsLatin1) :
    Latin1.encode? text = .ok text := by
  rw [Latin1.encode?, (Latin1.unencodable?_eq_none_iff text).mpr latin1]

theorem encode?_of_not_isLatin1 {text : Text} (other : ¬text.IsLatin1) :
    ∃ stretch, Latin1.encode? text = .error stretch := by
  have found := mt (Latin1.unencodable?_eq_none_iff text).mp other
  obtain ⟨stretch, found⟩ := Option.ne_none_iff_exists'.mp found
  exact ⟨stretch, by rw [Latin1.encode?, found]⟩

theorem isVisible_hexadecimal (width number : Nat) :
    IsVisible (hexadecimal width number) := by
  induction width generalizing number with
  | zero => exact isVisible_nil
  | succ width ih =>
      rw [hexadecimal, isVisible_append, isVisible_cons]
      refine ⟨ih _, ?_, isVisible_nil⟩
      have below : number % 16 < 16 := Nat.mod_lt _ (by decide)
      dsimp only [CodePoint.IsVisible]
      split <;> rw [CodePoint.value_ofNat] <;> omega

theorem isVisible_unicodeEscape (number : Nat) :
    IsVisible (unicodeEscape number) := by
  rw [unicodeEscape, isVisible_cons, isVisible_cons]
  exact ⟨by decide, by decide, isVisible_hexadecimal 4 number⟩

end Text

open Text

theorem Decimal.isVisible_ofNat (number : Nat) :
    IsVisible (Decimal.ofNat number) := by
  intro point member
  rcases List.mem_map.mp member with ⟨digit, among, rfl⟩
  have below := Decimal.digits_lt number digit among
  rw [Decimal.digitPoint, CodePoint.IsVisible, CodePoint.value_ofNat] <;> omega

theorem Decimal.isVisible_ofInt (number : Int) :
    IsVisible (Decimal.ofInt number) := by
  cases number with
  | ofNat number => exact Decimal.isVisible_ofNat number
  | negSucc number =>
      exact (isVisible_cons _ _).mpr ⟨by decide, Decimal.isVisible_ofNat _⟩

/-! ## Small letters -/

/-- The small letter of a capital one of ASCII. -/
def CodePoint.smallAscii (point : CodePoint) : CodePoint :=
  if 0x41 ≤ point.value ∧ point.value ≤ 0x5A then ofNat (point.value + 0x20)
  else point

theorem CodePoint.smallAscii_lt {point : CodePoint} (ascii : point.value < 0x80) :
    point.smallAscii.value < 0x80 := by
  rw [smallAscii]
  split
  · rw [value_ofNat] <;> omega
  · exact ascii

theorem Text.isAscii_smallAscii {text : Text} (ascii : text.IsAscii) :
    IsAscii (text.map CodePoint.smallAscii) := by
  intro point member
  obtain ⟨capital, among, rfl⟩ := List.mem_map.mp member
  exact CodePoint.smallAscii_lt (ascii capital among)

/-- Only the first stretch of the table begins in ASCII. -/
theorem CaseStretch.first_of_mem_tail :
    ∀ stretch ∈ toLower.tail, 0x80 ≤ stretch.first := by
  decide +kernel

theorem CodePoint.lower_of_ascii {point : CodePoint} (ascii : point.value < 0x80) :
    point.lower = [point.smallAscii] := by
  have further :
      CaseStretch.toLower.tail.findSome? (·.image? point.value) = none := by
    rw [List.findSome?_eq_none_iff]
    intro stretch member
    have beyond := CaseStretch.first_of_mem_tail stretch member
    rw [CaseStretch.image?, if_neg (by omega)]
  have table : CaseStretch.toLower =
      ⟨0x41, 0x5A, 1, 0x61⟩ :: CaseStretch.toLower.tail := rfl
  rw [lower, if_neg (by omega), table, List.findSome?_cons, smallAscii]
  by_cases capital : 0x41 ≤ point.value ∧ point.value ≤ 0x5A
  · rw [if_pos capital, CaseStretch.image?,
      if_pos ⟨capital.1, capital.2, Nat.mod_one _⟩]
    have image : 0x61 + (point.value - 0x41) = point.value + 0x20 := by omega
    rw [image]
  · have outside : ¬(0x41 ≤ point.value ∧ point.value ≤ 0x5A ∧
        (point.value - 0x41) % 1 = 0) := by omega
    rw [if_neg capital, CaseStretch.image?, if_neg outside, further]

theorem Text.lower_of_isAscii {text : Text} (ascii : text.IsAscii) :
    text.lower = text.map CodePoint.smallAscii := by
  have small (behindCased : Bool) :
      Text.lowerFrom behindCased text = text.map CodePoint.smallAscii := by
    induction text generalizing behindCased with
    | nil => rfl
    | cons point rest ih =>
        obtain ⟨here, later⟩ := (Text.isAscii_cons point rest).mp ascii
        rw [lowerFrom, lowerPoint, if_neg (by omega),
          CodePoint.lower_of_ascii here, ih later]
        rfl
  exact small false

end ResponseService
