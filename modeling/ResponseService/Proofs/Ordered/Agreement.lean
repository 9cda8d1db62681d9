import Mathlib.Data.List.Forall2
import ResponseService.Proofs.Ordered

/-!
# Entries that agree except under some names

Two lists of entries agree but for some names if the names in both are the
same, one by one, and only entries of those names have different values.  They
still agree after they are set (`AgreeBut.ofList`) or renamed
(`AgreeBut.rename`), and any other name has the same value in both
(`AgreeBut.lookup_eq`).
-/

namespace ResponseService.Ordered

variable {Name Value : Type}

/-- The entries have the same names, one by one, and the same values where the
name is not excepted. -/
def AgreeBut (excepted : Name → Prop) :
    List (Name × Value) → List (Name × Value) → Prop :=
  List.Forall₂ fun first second =>
    first.1 = second.1 ∧ (¬excepted first.1 → first.2 = second.2)

namespace AgreeBut

variable {excepted : Name → Prop} {left right : List (Name × Value)}

theorem rename {Renamed : Type} {change : Name → Renamed}
    {except : Renamed → Prop}
    (agree : AgreeBut (fun name => except (change name)) left right) :
    AgreeBut except (left.map fun entry => (change entry.1, entry.2))
      (right.map fun entry => (change entry.1, entry.2)) := by
  rw [AgreeBut, List.forall₂_map_left_iff, List.forall₂_map_right_iff]
  exact agree.imp fun _ _ here => ⟨congrArg change here.1, here.2⟩

theorem filterMap_eq {Result : Type}
    {choose : Name × Value → Option Result}
    (agree : AgreeBut excepted left right)
    (alike : ∀ name value other, (¬excepted name → value = other) →
      choose (name, value) = choose (name, other)) :
    left.filterMap choose = right.filterMap choose := by
  induction agree with
  | nil => rfl
  | @cons first second _ _ here _ ih =>
      rcases first with ⟨name, value⟩
      rcases second with ⟨_, other⟩
      obtain ⟨rfl, same⟩ := here
      rw [List.filterMap_cons, List.filterMap_cons, ih,
        alike name value other same]

variable [DecidableEq Name]

theorem lookup_eq (agree : AgreeBut excepted left right) {name : Name}
    (outside : ¬excepted name) : lookup left name = lookup right name := by
  induction agree with
  | nil => rfl
  | cons here _ ih =>
      rw [lookup, lookup, ← here.1, ih]
      split
      · next same => rw [here.2 (same ▸ outside)]
      · rfl

theorem set (agree : AgreeBut excepted left right) {name : Name}
    {value other : Value} (same : ¬excepted name → value = other) :
    AgreeBut excepted (Ordered.set left name value)
      (Ordered.set right name other) := by
  induction agree with
  | nil => exact .cons ⟨rfl, same⟩ .nil
  | cons here rest ih =>
      rw [Ordered.set, Ordered.set, ← here.1]
      split
      · exact .cons ⟨rfl, same⟩ rest
      · exact .cons here ih

theorem setAll {leftDone rightDone : List (Name × Value)}
    (done : AgreeBut excepted leftDone rightDone)
    (agree : AgreeBut excepted left right) :
    AgreeBut excepted (Ordered.setAll leftDone left)
      (Ordered.setAll rightDone right) := by
  induction agree generalizing leftDone rightDone with
  | nil => exact done
  | cons here _ ih =>
      rw [setAll_cons, setAll_cons, ← here.1]
      exact ih (done.set here.2)

theorem ofList (agree : AgreeBut excepted left right) :
    AgreeBut excepted (Ordered.ofList left) (Ordered.ofList right) :=
  setAll .nil agree

/-- Entries with distinct names agree if their names stand in the same order
and have the same values. -/
theorem of_lookup (sameNames : names left = names right)
    (distinct : (names left).Nodup)
    (same : ∀ name, ¬excepted name → lookup left name = lookup right name) :
    AgreeBut excepted left right := by
  induction left generalizing right with
  | nil =>
      rw [List.map_eq_nil_iff.mp sameNames.symm]
      exact .nil
  | cons entry rest ih =>
      cases right with
      | nil => cases sameNames
      | cons other more =>
          obtain ⟨sameName, sameRest⟩ := List.cons.inj sameNames
          rw [names, List.map_cons, List.nodup_cons] at distinct
          refine .cons ⟨sameName, fun outside => ?_⟩
            (ih sameRest distinct.2 fun name outside => ?_)
          · have here := same entry.1 outside
            simpa [lookup, ← sameName] using here
          · have later := same name outside
            by_cases listed : entry.1 = name
            · have unset : lookup rest name = none :=
                lookup_eq_none_iff.mpr (listed ▸ distinct.1)
              have unsetToo : lookup more name = none := by
                rw [lookup_eq_none_iff, names, ← sameRest, ← listed]
                exact distinct.1
              rw [unset, unsetToo]
            · rwa [lookup, lookup, if_neg listed,
                if_neg (sameName ▸ listed)] at later

end AgreeBut

end ResponseService.Ordered
