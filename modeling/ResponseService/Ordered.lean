/-!
# Entries in order of first setting

Header fields, object members and setting sources are lists of named entries.
Setting a name that is present replaces its value in place; a new name is
added at the end.  `lookup` is then the last value set (`lookup_set_self`,
`lookup_set_of_ne`), and the names stand in order of first setting
(`names_set`).
-/

namespace ResponseService.Ordered

variable {Name Value : Type} [DecidableEq Name]

/-- Give `name` the value `value`, in its first place. -/
def set (entries : List (Name × Value)) (name : Name) (value : Value) :
    List (Name × Value) :=
  match entries with
  | [] => [(name, value)]
  | entry :: rest =>
      if entry.1 = name then (name, value) :: rest
      else entry :: set rest name value

/-- The value of a name. -/
def lookup (entries : List (Name × Value)) (name : Name) : Option Value :=
  match entries with
  | [] => none
  | entry :: rest =>
      if entry.1 = name then some entry.2 else lookup rest name

/-- The names that have a value. -/
def names (entries : List (Name × Value)) : List Name := entries.map Prod.fst

/-- Set all entries of a list, in their order. -/
def ofList (entries : List (Name × Value)) : List (Name × Value) :=
  entries.foldl (fun done entry => set done entry.1 entry.2) []

@[simp]
theorem lookup_set_self (entries : List (Name × Value))
    (name : Name) (value : Value) :
    lookup (set entries name value) name = some value := by
  induction entries with
  | nil => simp [set, lookup]
  | cons entry rest ih =>
      by_cases same : entry.1 = name <;> simp [set, lookup, same, ih]

theorem lookup_set_of_ne (entries : List (Name × Value))
    {name other : Name} (value : Value) (different : other ≠ name) :
    lookup (set entries name value) other = lookup entries other := by
  induction entries with
  | nil => simp [set, lookup, Ne.symm different]
  | cons entry rest ih =>
      by_cases same : entry.1 = name
      · simp [set, lookup, same, Ne.symm different]
      · rw [set, if_neg same, lookup, lookup, ih]

theorem names_set (entries : List (Name × Value))
    (name : Name) (value : Value) :
    names (set entries name value) =
      if name ∈ names entries then names entries
      else names entries ++ [name] := by
  induction entries with
  | nil => simp [set, names]
  | cons entry rest ih =>
      by_cases same : entry.1 = name
      · simp [set, names, same]
      · have apart : name ≠ entry.1 := fun equal => same equal.symm
        simp only [names] at ih
        by_cases member : name ∈ rest.map Prod.fst <;>
          simp [set, names, same, apart, ih, member]

/-- Setting keeps the names distinct. -/
theorem nodup_set {entries : List (Name × Value)}
    (distinct : (names entries).Nodup) (name : Name) (value : Value) :
    (names (set entries name value)).Nodup := by
  rw [names_set]
  split
  · exact distinct
  · next fresh =>
      rw [List.nodup_append]
      exact ⟨distinct, by simp, by
        intro left leftMember right rightMember equal
        simp only [List.mem_singleton] at rightMember
        subst equal rightMember
        exact fresh leftMember⟩

end ResponseService.Ordered
