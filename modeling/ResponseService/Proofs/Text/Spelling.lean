import Mathlib.Data.List.Forall2
import ResponseService.Proofs.Text.Ascii
import ResponseService.Proofs.Text.Surrogates

/-!
# Words in letters of either case

Which texts become a given word when they are put into small letters is seen
from the table of capital letters.  Outside ASCII there is one code point only
that becomes a letter of ASCII, the sign for kelvin, which becomes the letter k
(`CodePoint.ascii_of_lower`).  So a word of ASCII without that letter is reached
from its spellings in letters of either case, and from no other text
(`Text.lower_eq_iff_spells`).
-/

namespace ResponseService

/-! ## Letters -/

/-- Behind the first stretch the table leads past ASCII, but for the sign for
kelvin. -/
theorem CaseStretch.image_of_mem_tail :
    ∀ stretch ∈ toLower.tail,
      0x80 ≤ stretch.image ∨ stretch = ⟨0x212A, 0x212A, 1, 0x6B⟩ := by
  decide +kernel

namespace CodePoint

/-- A small letter of ASCII that only its own capital becomes. -/
def IsOwnLetter (letter : CodePoint) : Prop :=
  0x61 ≤ letter.value ∧ letter.value ≤ 0x7A ∧ letter.value ≠ 0x6B

instance : DecidablePred IsOwnLetter := fun letter =>
  inferInstanceAs (Decidable
    (0x61 ≤ letter.value ∧ letter.value ≤ 0x7A ∧ letter.value ≠ 0x6B))

/-- The small letter itself, or its capital. -/
def IsCaseOf (letter point : CodePoint) : Prop :=
  point = letter ∨ point.value + 0x20 = letter.value

instance (letter point : CodePoint) : Decidable (letter.IsCaseOf point) :=
  inferInstanceAs
    (Decidable (point = letter ∨ point.value + 0x20 = letter.value))

theorem ofNat_lt {number : Nat} (ascii : (ofNat number).value < 0x80) :
    number < 0x80 := by
  unfold ofNat at ascii
  split at ascii
  · exact ascii
  · exact absurd ascii (by decide)

/-- What becomes a letter of ASCII is one itself, or the sign for kelvin. -/
theorem ascii_of_lower {point image : CodePoint}
    (lowered : point.lower = [image]) (ascii : image.value < 0x80)
    (other : image.value ≠ 0x6B) : point.value < 0x80 := by
  rw [lower] at lowered
  split at lowered
  · cases lowered
  split at lowered
  · next dotless number found =>
      cases lowered
      have small := ofNat_lt ascii
      rw [value_ofNat (Nat.lt_trans small (by decide))] at other
      obtain ⟨stretch, listed, maps⟩ := List.exists_of_findSome?_eq_some found
      rw [CaseStretch.image?] at maps
      split at maps
      · next within =>
          cases maps
          rcases List.mem_cons.mp
              (show stretch ∈ ⟨0x41, 0x5A, 1, 0x61⟩ :: CaseStretch.toLower.tail
                from listed) with rfl | later
          · exact Nat.lt_of_le_of_lt within.2.1 (by decide)
          · rcases CaseStretch.image_of_mem_tail stretch later with
              beyond | rfl
            · omega
            · dsimp only at within other
              omega
      · cases maps
  · cases lowered
    exact ascii

theorem exists_lower {point : CodePoint} (undotted : point.value ≠ 0x130) :
    ∃ image, point.lower = [image] := by
  rw [lower, if_neg undotted]
  split
  · exact ⟨_, rfl⟩
  · exact ⟨_, rfl⟩

theorem IsCaseOf.ascii {letter point : CodePoint} (own : letter.IsOwnLetter)
    (case : letter.IsCaseOf point) : point.value < 0x80 := by
  rcases case with rfl | shifted
  · exact Nat.lt_of_le_of_lt own.2.1 (by decide)
  · have above := own.2.1
    omega

theorem IsCaseOf.smallAscii_eq {letter point : CodePoint}
    (own : letter.IsOwnLetter) (case : letter.IsCaseOf point) :
    point.smallAscii = letter := by
  obtain ⟨least, greatest, _⟩ := own
  rw [smallAscii]
  rcases case with rfl | shifted
  · rw [if_neg (by omega)]
  · rw [if_pos (by omega), shifted]
    apply eq_of_value_eq
    exact value_ofNat letter.isLt

/-- A point of ASCII is one of the two cases of what it becomes. -/
theorem isCaseOf_smallAscii (point : CodePoint) :
    point.smallAscii.IsCaseOf point := by
  rw [smallAscii]
  split
  · next capital =>
      refine Or.inr (value_ofNat ?_).symm
      omega
  · exact Or.inl rfl

end CodePoint

/-! ## Words -/

namespace Text

/-- The text has the letters of the word, each of them in either case. -/
def Spells (word text : Text) : Prop :=
  List.Forall₂ CodePoint.IsCaseOf word text

instance (word text : Text) : Decidable (word.Spells text) :=
  inferInstanceAs (Decidable (List.Forall₂ CodePoint.IsCaseOf word text))

/-- If a point becomes letters of a word, it becomes one, in which it stands in
either case. -/
theorem exists_isCaseOf {behindCased : Bool} {point : CodePoint} {rest : Text}
    (own : ∀ letter ∈ lowerPoint behindCased point rest,
      letter.IsOwnLetter) :
    ∃ letter, lowerPoint behindCased point rest = [letter] ∧
      letter.IsCaseOf point := by
  rw [lowerPoint] at own ⊢
  split at own
  · -- Neither form of the small sigma is in ASCII.
    have none := own _ List.mem_cons_self
    split at none <;> exact absurd none (by decide)
  · next plain =>
      rw [if_neg plain]
      by_cases dotted : point.value = 0x130
      · rw [CodePoint.lower, if_pos dotted] at own
        have none := own _ (List.mem_cons_of_mem _ List.mem_cons_self)
        exact absurd none (by decide)
      · obtain ⟨letter, lowered⟩ := CodePoint.exists_lower dotted
        rw [lowered] at own
        obtain ⟨_, below, other⟩ := own letter List.mem_cons_self
        have ascii := CodePoint.ascii_of_lower lowered
          (Nat.lt_of_le_of_lt below (by decide)) other
        rw [CodePoint.lower_of_ascii ascii] at lowered ⊢
        exact ⟨_, rfl, CodePoint.isCaseOf_smallAscii point⟩

theorem spells_of_lowerFrom {word : Text}
    (own : ∀ letter ∈ word, letter.IsOwnLetter) {behindCased : Bool}
    {text : Text} (lowered : lowerFrom behindCased text = word) :
    word.Spells text := by
  induction text generalizing behindCased word with
  | nil =>
      subst lowered
      exact .nil
  | cons point rest ih =>
      subst lowered
      rw [lowerFrom] at own ⊢
      obtain ⟨here, later⟩ := List.forall_mem_append.mp own
      obtain ⟨letter, single, case⟩ := exists_isCaseOf here
      rw [single]
      exact .cons case (ih later rfl)

theorem lower_of_spells {word text : Text}
    (own : ∀ letter ∈ word, letter.IsOwnLetter) (spells : word.Spells text) :
    text.lower = word := by
  have each : text.IsAscii ∧ text.map CodePoint.smallAscii = word := by
    induction spells with
    | nil => exact ⟨List.forall_mem_nil _, rfl⟩
    | cons case _ ih =>
        obtain ⟨here, later⟩ := List.forall_mem_cons.mp own
        obtain ⟨ascii, same⟩ := ih later
        exact ⟨List.forall_mem_cons.mpr ⟨case.ascii here, ascii⟩,
          congrArg₂ List.cons (case.smallAscii_eq here) same⟩
  rw [lower_of_isAscii each.1, each.2]

/-- A word of letters with one capital each is reached from its spellings in
letters of either case, and from no other text. -/
theorem lower_eq_iff_spells {word : Text}
    (own : ∀ letter ∈ word, letter.IsOwnLetter) (text : Text) :
    text.lower = word ↔ word.Spells text :=
  ⟨spells_of_lowerFrom own, lower_of_spells own⟩

end Text

end ResponseService
