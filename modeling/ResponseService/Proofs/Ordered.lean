import Mathlib.Data.List.Dedup
import Mathlib.Data.List.Induction
import ResponseService.Ordered

/-!
# Setting many entries

`ofList` sets the entries of a list one after the other.  The names that come
out are those that went in, and every entry that comes out went in as it is
(`mem_of_mem_ofList`).  Entries may be renamed and their values changed before
or after they are set, as long as the renaming keeps different names apart
(`ofList_mapEntries`).
-/

namespace ResponseService.Ordered

variable {Name Value : Type} [DecidableEq Name]

/-- Set the entries of a list after those that are set already. -/
def setAll (done entries : List (Name × Value)) : List (Name × Value) :=
  entries.foldl (fun done entry => set done entry.1 entry.2) done

@[simp]
theorem setAll_nil (done : List (Name × Value)) : setAll done [] = done := rfl

@[simp]
theorem setAll_cons (done : List (Name × Value)) (entry : Name × Value)
    (rest : List (Name × Value)) :
    setAll done (entry :: rest) = setAll (set done entry.1 entry.2) rest :=
  rfl

theorem ofList_eq_setAll (entries : List (Name × Value)) :
    ofList entries = setAll [] entries := rfl

/-! ## What is set -/

theorem mem_names_set {entries : List (Name × Value)} {name other : Name}
    {value : Value} :
    other ∈ names (set entries name value) ↔
      other ∈ names entries ∨ other = name := by
  rw [names_set]
  split
  · next present =>
      constructor
      · exact Or.inl
      · rintro (earlier | same)
        · exact earlier
        · exact same ▸ present
  · simp

theorem mem_names_setAll {done entries : List (Name × Value)} {name : Name} :
    name ∈ names (setAll done entries) ↔
      name ∈ names done ∨ name ∈ names entries := by
  induction entries generalizing done with
  | nil => simp [names]
  | cons entry rest ih =>
      rw [setAll_cons, ih, mem_names_set, or_assoc]
      simp [names]

theorem mem_names_ofList {entries : List (Name × Value)} {name : Name} :
    name ∈ names (ofList entries) ↔ name ∈ names entries := by
  rw [ofList_eq_setAll, mem_names_setAll]
  simp [names]

theorem mem_of_mem_set {entries : List (Name × Value)} {name : Name}
    {value : Value} {entry : Name × Value}
    (member : entry ∈ set entries name value) :
    entry ∈ entries ∨ entry = (name, value) := by
  induction entries with
  | nil =>
      simp only [set, List.mem_singleton] at member
      exact Or.inr member
  | cons first rest ih =>
      by_cases same : first.1 = name
      · simp only [set, same, if_true, List.mem_cons] at member
        rcases member with new | later
        · exact Or.inr new
        · exact Or.inl (List.mem_cons_of_mem first later)
      · simp only [set, same, if_false, List.mem_cons] at member
        rcases member with here | later
        · exact Or.inl (here ▸ List.mem_cons_self)
        · rcases ih later with old | new
          · exact Or.inl (List.mem_cons_of_mem first old)
          · exact Or.inr new

theorem mem_of_mem_setAll {done entries : List (Name × Value)}
    {entry : Name × Value} (member : entry ∈ setAll done entries) :
    entry ∈ done ∨ entry ∈ entries := by
  induction entries generalizing done with
  | nil => exact Or.inl member
  | cons first rest ih =>
      rcases ih member with set | later
      · rcases mem_of_mem_set set with old | new
        · exact Or.inl old
        · exact Or.inr (new ▸ List.mem_cons_self)
      · exact Or.inr (List.mem_cons_of_mem first later)

/-- Nothing is set that was not listed. -/
theorem mem_of_mem_ofList {entries : List (Name × Value)}
    {entry : Name × Value} (member : entry ∈ ofList entries) :
    entry ∈ entries := by
  rcases mem_of_mem_setAll member with old | listed
  · simp at old
  · exact listed

theorem set_of_fresh {entries : List (Name × Value)} {name : Name}
    (value : Value) (fresh : name ∉ names entries) :
    set entries name value = entries ++ [(name, value)] := by
  induction entries with
  | nil => rfl
  | cons first rest ih =>
      simp only [names, List.map_cons, List.mem_cons, not_or] at fresh
      rw [set, if_neg (Ne.symm fresh.1), ih fresh.2, List.cons_append]

theorem setAll_of_nodup {done entries : List (Name × Value)}
    (distinct : (names (done ++ entries)).Nodup) :
    setAll done entries = done ++ entries := by
  induction entries generalizing done with
  | nil => simp
  | cons entry rest ih =>
      have fresh : entry.1 ∉ names done := by
        intro present
        simp only [names, List.map_append, List.map_cons] at distinct
        exact (List.nodup_append.mp distinct).2.2 entry.1 present
          entry.1 (by simp) rfl
      rw [setAll_cons, set_of_fresh entry.2 fresh]
      have moved : done ++ entry :: rest = done ++ [entry] ++ rest := by simp
      rw [moved] at distinct ⊢
      exact ih distinct

theorem ofList_of_nodup {entries : List (Name × Value)}
    (distinct : (names entries).Nodup) : ofList entries = entries := by
  have unset : (names ([] ++ entries)).Nodup := distinct
  exact setAll_of_nodup unset

theorem nodup_setAll {done entries : List (Name × Value)}
    (distinct : (names done).Nodup) : (names (setAll done entries)).Nodup := by
  induction entries generalizing done with
  | nil => exact distinct
  | cons entry rest ih => exact ih (nodup_set distinct entry.1 entry.2)

theorem nodup_ofList (entries : List (Name × Value)) :
    (names (ofList entries)).Nodup :=
  nodup_setAll List.nodup_nil

/-! ## Order and values -/

theorem ofList_append_singleton (entries : List (Name × Value))
    (entry : Name × Value) :
    ofList (entries ++ [entry]) = set (ofList entries) entry.1 entry.2 := by
  simp [ofList]

/-- Names stand in the order of their first setting. -/
theorem names_ofList (entries : List (Name × Value)) :
    names (ofList entries) = (names entries).reverse.dedup.reverse := by
  induction entries using List.reverseRecOn with
  | nil => rfl
  | append_singleton entries entry ih =>
      have same : names (entries ++ [entry]) = names entries ++ [entry.1] := by
        simp [names]
      rw [ofList_append_singleton, names_set, same, List.reverse_append,
        List.reverse_singleton, List.singleton_append]
      by_cases present : entry.1 ∈ names entries
      · rw [if_pos (mem_names_ofList.mpr present), ih,
          List.dedup_cons_of_mem (List.mem_reverse.mpr present)]
      · have fresh : entry.1 ∉ (names entries).reverse := by simpa
        rw [if_neg (mem_names_ofList.not.mpr present), ih,
          List.dedup_cons_of_notMem fresh, List.reverse_cons]

/-- A name has the value that was set last. -/
theorem lookup_ofList (entries : List (Name × Value)) (name : Name) :
    lookup (ofList entries) name = lookup entries.reverse name := by
  induction entries using List.reverseRecOn with
  | nil => rfl
  | append_singleton entries entry ih =>
      rw [ofList_append_singleton, List.reverse_append, List.reverse_singleton,
        List.singleton_append, lookup]
      by_cases same : entry.1 = name
      · rw [if_pos same, same, lookup_set_self]
      · rw [if_neg same, lookup_set_of_ne _ _ (Ne.symm same), ih]

theorem lookup_append (left right : List (Name × Value)) (name : Name) :
    lookup (left ++ right) name =
      (lookup left name).or (lookup right name) := by
  induction left with
  | nil => rfl
  | cons entry rest ih =>
      by_cases same : entry.1 = name
      · simp [lookup, same]
      · simp [lookup, same, ih]

theorem lookup_eq_none_iff {entries : List (Name × Value)} {name : Name} :
    lookup entries name = none ↔ name ∉ names entries := by
  induction entries with
  | nil => simp [lookup, names]
  | cons entry rest ih =>
      simp only [names] at ih
      by_cases same : entry.1 = name
      · simp [lookup, names, same]
      · simp [lookup, names, same, ih, Ne.symm same]

/-- Among distinct names an entry tells the value of its name. -/
theorem lookup_eq_some_iff {entries : List (Name × Value)}
    (distinct : (names entries).Nodup) {name : Name} {value : Value} :
    lookup entries name = some value ↔ (name, value) ∈ entries := by
  induction entries with
  | nil => simp [lookup]
  | cons entry rest ih =>
      rw [names, List.map_cons, List.nodup_cons] at distinct
      by_cases same : entry.1 = name
      · have unlisted : (name, value) ∉ rest := fun member =>
          distinct.1 (same ▸ List.mem_map_of_mem member)
        simp [lookup, same, unlisted, Prod.ext_iff, eq_comm]
      · have other : (name, value) ≠ entry := by
          rintro rfl
          exact same rfl
        simp [lookup, same, other, ih distinct.2]

/-- The order of entries with distinct names does not matter to their values. -/
theorem lookup_reverse {entries : List (Name × Value)}
    (distinct : (names entries).Nodup) (name : Name) :
    lookup entries.reverse name = lookup entries name := by
  rw [← lookup_ofList, ofList_of_nodup distinct]

/-- The value of a name is seen from the entries of that name. -/
theorem lookup_filter (entries : List (Name × Value)) (name : Name) :
    lookup (entries.filter (·.1 = name)) name = lookup entries name := by
  induction entries with
  | nil => rfl
  | cons entry rest ih =>
      by_cases same : entry.1 = name
      · rw [List.filter_cons_of_pos (by simpa), lookup, lookup, if_pos same,
          if_pos same]
      · rw [List.filter_cons_of_neg (by simpa), lookup, if_neg same, ih]

/-- Of entries that are set in groups, a name has its value in the last group
that names it. -/
theorem lookup_ofList_flatMap {Group : Type} (groups : List Group)
    {entriesOf : Group → List (Name × Value)}
    (distinct : ∀ group, (names (entriesOf group)).Nodup) (name : Name) :
    lookup (ofList (groups.flatMap entriesOf)) name =
      groups.reverse.findSome? fun group => lookup (entriesOf group) name := by
  rw [lookup_ofList]
  induction groups with
  | nil => rfl
  | cons group rest ih =>
      rw [List.flatMap_cons, List.reverse_append, lookup_append, ih,
        lookup_reverse (distinct group), List.reverse_cons,
        List.findSome?_append, List.findSome?_singleton]

/-- The name is given the value, and no other value behind it. -/
def GivenLast (entries : List (Name × Value)) (name : Name) (value : Value) :
    Prop :=
  ∃ earlier later,
    entries = earlier ++ (name, value) :: later ∧ name ∉ names later

omit [DecidableEq Name] in
theorem givenLast_cons {entry : Name × Value} {rest : List (Name × Value)}
    {name : Name} {value : Value} :
    GivenLast (entry :: rest) name value ↔
      GivenLast rest name value ∨ entry = (name, value) ∧ name ∉ names rest := by
  constructor
  · rintro ⟨_ | ⟨first, earlier⟩, later, split, unset⟩
    · obtain ⟨rfl, rfl⟩ := List.cons.inj split
      exact Or.inr ⟨rfl, unset⟩
    · exact Or.inl ⟨earlier, later, (List.cons.inj split).2, unset⟩
  · rintro (⟨earlier, later, rfl, unset⟩ | ⟨rfl, unset⟩)
    · exact ⟨entry :: earlier, later, rfl, unset⟩
    · exact ⟨[], rest, rfl, unset⟩

omit [DecidableEq Name] in
theorem GivenLast.mem {entries : List (Name × Value)} {name : Name}
    {value : Value} (given : GivenLast entries name value) :
    (name, value) ∈ entries := by
  obtain ⟨earlier, later, rfl, _⟩ := given
  exact List.mem_append_right earlier List.mem_cons_self

/-- The value that a name has is the one it was given last. -/
theorem lookup_ofList_eq_some_iff {entries : List (Name × Value)} {name : Name}
    {value : Value} :
    lookup (ofList entries) name = some value ↔ GivenLast entries name value := by
  rw [lookup_ofList]
  induction entries with
  | nil => simp [lookup, GivenLast]
  | cons entry rest ih =>
      have unset : name ∉ names rest ↔ lookup rest.reverse name = none := by
        rw [lookup_eq_none_iff, names, names, List.map_reverse,
          List.mem_reverse]
      rw [List.reverse_cons, lookup_append, givenLast_cons, ← ih, unset]
      cases lookup rest.reverse name with
      | none => by_cases same : entry.1 = name <;> simp [lookup, same, Prod.ext_iff]
      | some last => simp

theorem mem_ofList_iff {entries : List (Name × Value)} {name : Name}
    {value : Value} :
    (name, value) ∈ ofList entries ↔ GivenLast entries name value := by
  rw [← lookup_eq_some_iff (nodup_ofList entries), lookup_ofList_eq_some_iff]

/-- Entries with distinct names are given by the names and their values. -/
theorem eq_of_lookup {left right : List (Name × Value)}
    (sameNames : names left = names right) (distinct : (names left).Nodup)
    (sameValues : ∀ name ∈ names left, lookup left name = lookup right name) :
    left = right := by
  induction left generalizing right with
  | nil => exact (List.map_eq_nil_iff.mp sameNames.symm).symm
  | cons entry rest ih =>
      cases right with
      | nil => cases sameNames
      | cons other more =>
          rcases entry with ⟨name, value⟩
          rcases other with ⟨otherName, otherValue⟩
          simp only [names, List.map_cons, List.cons.injEq] at sameNames
          rcases sameNames with ⟨rfl, later⟩
          rw [names, List.map_cons, List.nodup_cons] at distinct
          have head := sameValues name List.mem_cons_self
          simp only [lookup, if_true, Option.some.injEq] at head
          subst head
          congr 1
          apply ih later distinct.2
          intro third member
          have apart : name ≠ third := by
            rintro rfl
            exact distinct.1 member
          have tail := sameValues third (List.mem_cons_of_mem _ member)
          simpa only [lookup, if_neg apart] using tail

/-! ## Renaming -/

section Renaming

variable {Name' Value' : Type} [DecidableEq Name']

/-- Change the names and the values of entries. -/
def mapEntries (rename : Name → Name') (change : Value → Value')
    (entries : List (Name × Value)) : List (Name' × Value') :=
  entries.map fun entry => (rename entry.1, change entry.2)

/-- Different names of a list stay different. -/
def KeepsApart (rename : Name → Name') (listed : List Name) : Prop :=
  ∀ left ∈ listed, ∀ right ∈ listed, rename left = rename right → left = right

omit [DecidableEq Name] [DecidableEq Name'] in
theorem KeepsApart.subset {rename : Name → Name'} {few many : List Name}
    (apart : KeepsApart rename many) (subset : few ⊆ many) :
    KeepsApart rename few := by
  intro left leftMember right rightMember equal
  exact apart left (subset leftMember) right (subset rightMember) equal

omit [DecidableEq Name] in
theorem keepsApart_id (listed : List Name) : KeepsApart id listed := by
  intro left _ right _ equal
  exact equal

theorem set_mapEntries {rename : Name → Name'} {change : Value → Value'}
    {entries : List (Name × Value)} {name : Name} {value : Value}
    (apart : KeepsApart rename (name :: names entries)) :
    set (mapEntries rename change entries) (rename name) (change value) =
      mapEntries rename change (set entries name value) := by
  induction entries with
  | nil => rfl
  | cons first rest ih =>
      have tail : KeepsApart rename (name :: names rest) := by
        apply apart.subset
        intro other member
        simp only [names, List.map_cons, List.mem_cons] at member ⊢
        rcases member with here | later
        · exact Or.inl here
        · exact Or.inr (Or.inr later)
      have alike : rename first.1 = rename name ↔ first.1 = name := by
        constructor
        · exact apart first.1 (by simp [names]) name (by simp)
        · exact congrArg rename
      by_cases same : first.1 = name
      · simp [set, mapEntries, same]
      · have different : rename first.1 ≠ rename name :=
          fun equal => same (alike.mp equal)
        have later := ih tail
        simp only [mapEntries] at later
        simp [set, mapEntries, same, different, later]

theorem setAll_mapEntries {rename : Name → Name'} {change : Value → Value'}
    {done entries : List (Name × Value)}
    (apart : KeepsApart rename (names done ++ names entries)) :
    setAll (mapEntries rename change done) (mapEntries rename change entries) =
      mapEntries rename change (setAll done entries) := by
  induction entries generalizing done with
  | nil => rfl
  | cons entry rest ih =>
      have head : KeepsApart rename (entry.1 :: names done) := by
        apply apart.subset
        intro other member
        simp only [names, List.map_cons, List.mem_append, List.mem_cons]
          at member ⊢
        rcases member with here | earlier
        · exact Or.inr (Or.inl here)
        · exact Or.inl earlier
      have tail : KeepsApart rename
          (names (set done entry.1 entry.2) ++ names rest) := by
        apply apart.subset
        intro other member
        rw [List.mem_append, mem_names_set] at member
        simp only [names, List.map_cons, List.mem_append, List.mem_cons]
          at member ⊢
        rcases member with (earlier | here) | later
        · exact Or.inl earlier
        · exact Or.inr (Or.inl here)
        · exact Or.inr (Or.inr later)
      calc
        setAll (mapEntries rename change done)
              (mapEntries rename change (entry :: rest)) =
            setAll (set (mapEntries rename change done) (rename entry.1)
              (change entry.2)) (mapEntries rename change rest) := rfl
        _ = setAll (mapEntries rename change (set done entry.1 entry.2))
              (mapEntries rename change rest) := by
            rw [set_mapEntries head]
        _ = mapEntries rename change (setAll done (entry :: rest)) := ih tail

/-- Entries may be renamed before or after they are set. -/
theorem ofList_mapEntries {rename : Name → Name'} {change : Value → Value'}
    {entries : List (Name × Value)}
    (apart : KeepsApart rename (names entries)) :
    ofList (mapEntries rename change entries) =
      mapEntries rename change (ofList entries) := by
  have unset :
      KeepsApart rename (names ([] : List (Name × Value)) ++ names entries) :=
    apart
  exact setAll_mapEntries unset

end Renaming

end ResponseService.Ordered
