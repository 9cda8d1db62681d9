import Mathlib.Data.List.DropRight
import ResponseService.Text.Blank

/-!
# Blanks at the ends of a text

A text is trimmed if no blank stands at its beginning or at its end.  Stripping
makes a trimmed text of every text (`isTrimmed_strip`) and leaves a trimmed one
as it is (`strip_of_isTrimmed`); nothing is left of a text of blanks only
(`strip_eq_nil_iff`).
-/

namespace ResponseService.Text

/-- No blank stands at either end of the text. -/
structure IsTrimmed (text : Text) : Prop where
  head : ∀ point ∈ text.head?, point.isBlank = false
  last : ∀ point ∈ text.getLast?, point.isBlank = false

theorem strip_eq (text : Text) :
    text.strip =
      (text.dropWhile CodePoint.isBlank).rdropWhile CodePoint.isBlank := rfl

theorem isTrimmed_strip (text : Text) : text.strip.IsTrimmed := by
  rw [strip_eq]
  have rest := List.rdropWhile_prefix CodePoint.isBlank
    (text.dropWhile CodePoint.isBlank)
  constructor
  · intro point first
    obtain ⟨after, split⟩ := rest
    have opening := List.head?_dropWhile_not CodePoint.isBlank text
    rw [← split, List.head?_append, Option.mem_def.mp first] at opening
    exact opening
  · intro point last
    obtain ⟨nonempty, rfl⟩ := List.mem_getLast?_eq_getLast last
    exact Bool.eq_false_iff.mpr (List.rdropWhile_last_not _ _ nonempty)

theorem strip_of_isTrimmed {text : Text} (trimmed : text.IsTrimmed) :
    text.strip = text := by
  have front : text.dropWhile CodePoint.isBlank = text := by
    cases text with
    | nil => rfl
    | cons point rest =>
        rw [List.dropWhile_cons_of_neg]
        simpa using trimmed.head point rfl
  rw [strip_eq, front, List.rdropWhile_eq_self_iff]
  intro nonempty
  have unblank := trimmed.last _ (List.getLast?_eq_some_getLast nonempty)
  exact Bool.eq_false_iff.mp unblank

/-- Stripping leaves nothing of a text of blanks, and only of such a text. -/
theorem strip_eq_nil_iff {text : Text} :
    text.strip = [] ↔ ∀ point ∈ text, point.isBlank = true := by
  rw [strip_eq, List.rdropWhile_eq_nil_iff]
  constructor
  · intro blank
    rw [← List.dropWhile_eq_nil_iff]
    by_contra nonempty
    have opening := List.head_dropWhile_not CodePoint.isBlank nonempty
    rw [blank _ (List.head_mem nonempty)] at opening
    cases opening
  · intro blank point member
    exact blank point ((List.dropWhile_sublist _).mem member)

end ResponseService.Text
