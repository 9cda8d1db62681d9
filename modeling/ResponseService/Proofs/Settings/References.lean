import ResponseService.Proofs.Ordered.Agreement
import ResponseService.Settings.Dotenv

/-!
# References in settings files

A value of a settings file refers to the names in its references, and what
becomes of it depends on these names only (`expand_congr`).  So a change of a
variable or of a binding shows in another entry only where a reference reads
it, directly or through the bindings between.

`DifferUnread` follows such changes through two files: it holds if the files
differ in the values of hidden names only and no other value reads any of what
differs.  Then the entries agree but for the hidden names (`read_agreeBut`).
-/

namespace ResponseService.Dotenv

/-! ## References -/

/-- The value has a reference to the name that is replaced. -/
inductive Refers (name : Text) : Text → Prop where
  | here {dollar brace : CodePoint} {rest after : Text} {default : Option Text}
      (opens : dollar.value = 0x24 ∧ brace.value = 0x7B)
      (found : reference? rest = some (name, default, after)) :
      Refers name (dollar :: brace :: rest)
  | behind {dollar brace : CodePoint} {other rest after : Text}
      {default : Option Text}
      (opens : dollar.value = 0x24 ∧ brace.value = 0x7B)
      (found : reference? rest = some (other, default, after))
      (later : Refers name after) :
      Refers name (dollar :: brace :: rest)
  | along {point next : CodePoint} {rest : Text}
      (plain : point.value = 0x24 ∧ next.value = 0x7B →
        reference? rest = none)
      (later : Refers name (next :: rest)) :
      Refers name (point :: next :: rest)

/-- Names that stand for the same make the same of a value that refers to no
other names. -/
theorem expandWithin_congr {left right : Text → Option (Option Text)}
    (fuel : Nat) {value : Text}
    (agree : ∀ name, Refers name value → left name = right name) :
    expandWithin fuel left value = expandWithin fuel right value := by
  fun_induction expandWithin fuel left value with
  | case1 value => rw [expandWithin]
  | case2 fuel positive => rw [expandWithin]; exact positive
  | case3 fuel point positive => rw [expandWithin]; exact positive
  | case4 fuel point next rest plain ih =>
      have none : point.value = 0x24 ∧ next.value = 0x7B →
          reference? rest = none := fun opens => by rwa [if_pos opens] at plain
      have tail := ih fun name later => agree name (.along none later)
      rw [expandWithin, plain, tail]
  | case5 fuel point next rest name default after reads ih =>
      obtain ⟨opens, found⟩ : (point.value = 0x24 ∧ next.value = 0x7B) ∧
          reference? rest = some (name, default, after) := by
        split at reads
        · next opens => exact ⟨opens, reads⟩
        · cases reads
      have same := agree name (.here opens found)
      have tail := ih fun other later => agree other (.behind opens found later)
      rw [expandWithin, reads, tail, same]

theorem expand_congr {left right : Text → Option (Option Text)} {value : Text}
    (agree : ∀ name, Refers name value → left name = right name) :
    expand left value = expand right value :=
  expandWithin_congr value.length agree

/-- A text without a dollar sign refers to nothing. -/
theorem not_refers_of_plain {name value : Text}
    (plain : ∀ point ∈ value, point.value ≠ 0x24) : ¬Refers name value := by
  intro refers
  induction refers with
  | here opens _ => exact plain _ List.mem_cons_self opens.1
  | behind opens _ _ _ => exact plain _ List.mem_cons_self opens.1
  | along _ _ ih =>
      exact ih fun point member => plain point (List.mem_cons_of_mem _ member)

/-! ## Changes that are not read -/

/-- The bindings of two files differ in the values of hidden names only, and no
value that is the same in both reads what differs.  The names in `unlike` stand
for different values so far; a binding that is the same in both, and reads none
of them, makes its name stand for the same again. -/
inductive DifferUnread (hidden : Text → Prop) : (Text → Prop) →
    List (Text × Option Text) → List (Text × Option Text) → Prop where
  | nil {unlike : Text → Prop} : DifferUnread hidden unlike [] []
  | hidden {unlike : Text → Prop} {name : Text} {left right : Option Text}
      {leftRest rightRest : List (Text × Option Text)}
      (isHidden : hidden name)
      (rest : DifferUnread hidden (fun other => other = name ∨ unlike other)
        leftRest rightRest) :
      DifferUnread hidden unlike ((name, left) :: leftRest)
        ((name, right) :: rightRest)
  | same {unlike : Text → Prop} {name : Text} {value : Option Text}
      {leftRest rightRest : List (Text × Option Text)}
      (unread : ∀ text ∈ value, ∀ other, Refers other text → ¬unlike other)
      (rest : DifferUnread hidden (fun other => other ≠ name ∧ unlike other)
        leftRest rightRest) :
      DifferUnread hidden unlike ((name, value) :: leftRest)
        ((name, value) :: rightRest)

/-- The entries read so far from two files: they have the same names, all names
but those in `unlike` stand for the same, and entries that are not hidden have
the same values. -/
structure Alike (hidden unlike : Text → Prop)
    (leftEnvironment rightEnvironment : List (Text × Text))
    (left right : List (Text × Option Text)) : Prop where
  names : Ordered.names left = Ordered.names right
  bound : ∀ name, ¬unlike name →
    boundIn leftEnvironment left name = boundIn rightEnvironment right name
  values : ∀ name, ¬hidden name →
    Ordered.lookup left name = Ordered.lookup right name

section Reading

variable {hidden unlike : Text → Prop}
  {leftEnvironment rightEnvironment : List (Text × Text)}
  {left right : List (Text × Option Text)}

theorem boundIn_set_self (environment : List (Text × Text))
    (earlier : List (Text × Option Text)) (name : Text)
    (value : Option Text) :
    boundIn environment (Ordered.set earlier name value) name = some value := by
  rw [boundIn, Ordered.lookup_set_self]

theorem boundIn_set_of_ne (environment : List (Text × Text))
    (earlier : List (Text × Option Text)) {name other : Text}
    (value : Option Text) (different : other ≠ name) :
    boundIn environment (Ordered.set earlier name value) other =
      boundIn environment earlier other := by
  rw [boundIn, Ordered.lookup_set_of_ne _ _ different, boundIn]

theorem Alike.set_hidden
    (alike : Alike hidden unlike leftEnvironment rightEnvironment left right)
    {name : Text} (isHidden : hidden name) (value other : Option Text) :
    Alike hidden (fun other => other = name ∨ unlike other)
      leftEnvironment rightEnvironment
      (Ordered.set left name value) (Ordered.set right name other) := by
  refine ⟨?_, ?_, ?_⟩
  · rw [Ordered.names_set, Ordered.names_set, alike.names]
  · intro third outside
    have different : third ≠ name := fun same => outside (.inl same)
    rw [boundIn_set_of_ne _ _ _ different, boundIn_set_of_ne _ _ _ different]
    exact alike.bound third fun inside => outside (.inr inside)
  · intro third shown
    have different : third ≠ name := by
      rintro rfl
      exact shown isHidden
    rw [Ordered.lookup_set_of_ne _ _ different,
      Ordered.lookup_set_of_ne _ _ different]
    exact alike.values third shown

theorem Alike.set_same
    (alike : Alike hidden unlike leftEnvironment rightEnvironment left right)
    (name : Text) (value : Option Text) :
    Alike hidden (fun other => other ≠ name ∧ unlike other)
      leftEnvironment rightEnvironment
      (Ordered.set left name value) (Ordered.set right name value) := by
  refine ⟨?_, ?_, ?_⟩
  · rw [Ordered.names_set, Ordered.names_set, alike.names]
  · intro other outside
    by_cases same : other = name
    · rw [same, boundIn_set_self, boundIn_set_self]
    · rw [boundIn_set_of_ne _ _ _ same, boundIn_set_of_ne _ _ _ same]
      exact alike.bound other fun inside => outside ⟨same, inside⟩
  · intro other shown
    by_cases same : other = name
    · rw [same, Ordered.lookup_set_self, Ordered.lookup_set_self]
    · rw [Ordered.lookup_set_of_ne _ _ same, Ordered.lookup_set_of_ne _ _ same]
      exact alike.values other shown

/-- Read bindings after those that are read already. -/
def readFrom (environment : List (Text × Text))
    (earlier bindings : List (Text × Option Text)) :
    List (Text × Option Text) :=
  bindings.foldl
    (fun earlier binding =>
      Ordered.set earlier binding.1
        (binding.2.map (expand (boundIn environment earlier))))
    earlier

theorem nodup_readFrom (environment : List (Text × Text))
    {earlier : List (Text × Option Text)}
    (distinct : (Ordered.names earlier).Nodup)
    (bindings : List (Text × Option Text)) :
    (Ordered.names (readFrom environment earlier bindings)).Nodup := by
  induction bindings generalizing earlier with
  | nil => exact distinct
  | cons binding rest ih => exact ih (Ordered.nodup_set distinct _ _)

theorem nodup_read (environment : List (Text × Text)) (file : Text) :
    (Ordered.names (read environment file)).Nodup := by
  have unset : (Ordered.names ([] : List (Text × Option Text))).Nodup :=
    List.nodup_nil
  exact nodup_readFrom environment unset (bindings file)

/-- Changes that no other value reads stay where they are. -/
theorem DifferUnread.alike_readFrom
    {leftBindings rightBindings : List (Text × Option Text)}
    (differ : DifferUnread hidden unlike leftBindings rightBindings)
    (alike : Alike hidden unlike leftEnvironment rightEnvironment left right) :
    ∃ rest, Alike hidden rest leftEnvironment rightEnvironment
      (readFrom leftEnvironment left leftBindings)
      (readFrom rightEnvironment right rightBindings) := by
  induction differ generalizing left right with
  | nil => exact ⟨_, alike⟩
  | hidden isHidden _ ih => exact ih (alike.set_hidden isHidden _ _)
  | @same unlike name value _ _ unread _ ih =>
      -- The value reads nothing that differs, so both sides expand it alike.
      have same : value.map (expand (boundIn leftEnvironment left)) =
          value.map (expand (boundIn rightEnvironment right)) := by
        cases value with
        | none => rfl
        | some text =>
            exact congrArg some (expand_congr fun other refers =>
              alike.bound other (unread text rfl other refers))
      refine ih ?_
      dsimp only
      rw [same]
      exact alike.set_same name _

/-- The names that stand for different values in two environments. -/
def UnlikeIn (leftEnvironment rightEnvironment : List (Text × Text))
    (name : Text) : Prop :=
  Ordered.lookup (Ordered.ofList leftEnvironment) name ≠
    Ordered.lookup (Ordered.ofList rightEnvironment) name

theorem alike_nil (hidden : Text → Prop)
    (leftEnvironment rightEnvironment : List (Text × Text)) :
    Alike hidden (UnlikeIn leftEnvironment rightEnvironment)
      leftEnvironment rightEnvironment [] [] where
  names := rfl
  bound name same := by
    rw [UnlikeIn, not_not] at same
    rw [boundIn, boundIn, same]
  values _ _ := rfl

/-- The entries of two files agree but for the hidden names. -/
theorem DifferUnread.read_agreeBut {leftFile rightFile : Text}
    (differ : DifferUnread hidden (UnlikeIn leftEnvironment rightEnvironment)
      (bindings leftFile) (bindings rightFile)) :
    Ordered.AgreeBut hidden (read leftEnvironment leftFile)
      (read rightEnvironment rightFile) := by
  obtain ⟨_, alike⟩ := differ.alike_readFrom (alike_nil hidden _ _)
  exact .of_lookup alike.names (nodup_read _ leftFile) alike.values

/-- Files in which nothing is referred to differ unread wherever they differ in
hidden names only. -/
theorem differUnread_of_agreeBut
    {leftBindings rightBindings : List (Text × Option Text)}
    (agree : Ordered.AgreeBut hidden leftBindings rightBindings)
    (plain : ∀ binding ∈ leftBindings, ∀ text ∈ binding.2, ∀ name,
      ¬Refers name text) :
    DifferUnread hidden unlike leftBindings rightBindings := by
  induction agree generalizing unlike with
  | nil => exact .nil
  | @cons first second _ _ here _ ih =>
      obtain ⟨plainHere, plainRest⟩ := List.forall_mem_cons.mp plain
      rcases first with ⟨name, value⟩
      rcases second with ⟨_, other⟩
      obtain ⟨rfl, same⟩ := here
      by_cases isHidden : hidden name
      · exact .hidden isHidden (ih plainRest)
      · obtain rfl := same isHidden
        exact .same (fun text member other refers =>
          absurd refers (plainHere text member other)) (ih plainRest)

end Reading

end ResponseService.Dotenv
