import Mathlib.Data.List.Induction
import ResponseService.Schema.Description

/-!
# An inference sees the inspected positions only

A position of a value is the list of the steps that lead to it.  It is
inspected if no item of an array is entered on the way but the first
(`IsInspected`); these are the places that an inference looks at
(`inspected_iff`).

An inference ends in one of three ways (`inferWithin_outcome`).  The schema
mirrors the value and nothing foreign is inspected; or the fault names what is
foreign at the first inspected position, in the order in which the members
stand and the containers are entered; or an inspected position lies too deep.
What stands at a position that is not inspected makes no difference, whatever
it is (`inferWithin_replaceAt`).
-/

namespace ResponseService

namespace Value

/-! ## Positions -/

/-- A step from a container to one of its parts, counted from zero. -/
inductive Step where
  | item (place : Nat)
  | member (place : Nat)
  deriving DecidableEq

/-- The steps from the root to a part. -/
abbrev Position := List Step

namespace Step

/-- The place of the part among the parts of its container. -/
def place : Step → Nat
  | .item place => place
  | .member place => place

/-- Of an array only the first item is looked at. -/
def IsInspected : Step → Prop
  | .item place => place = 0
  | .member _ => True

instance (step : Step) : Decidable step.IsInspected :=
  match step with
  | .item place => inferInstanceAs (Decidable (place = 0))
  | .member _ => inferInstanceAs (Decidable True)

end Step

/-- No step on the way enters an item of an array but the first. -/
def IsInspected (position : Position) : Prop :=
  ∀ step ∈ position, step.IsInspected

instance (position : Position) : Decidable (IsInspected position) :=
  inferInstanceAs (Decidable (∀ step ∈ position, step.IsInspected))

/-- The places on the way.  A walk that enters the parts of each container in
their order comes to positions in the lexicographic order of these. -/
def places (position : Position) : List Nat := position.map Step.place

theorem isInspected_nil : IsInspected [] := nofun

theorem isInspected_cons {step : Step} {rest : Position} :
    IsInspected (step :: rest) ↔ step.IsInspected ∧ IsInspected rest :=
  List.forall_mem_cons

variable {Foreign : Type}

/-- What stands at a position, if the value has that position. -/
def at? : Value Foreign → Position → Option (Value Foreign)
  | value, [] => some value
  | .array items, .item place :: rest =>
      items[place]?.bind fun item => item.at? rest
  | .object members, .member place :: rest =>
      members[place]?.bind fun member => member.2.at? rest
  | _, _ :: _ => none

/-- The value with something else at a position; without that position it stays
as it is. -/
def replaceAt :
    Value Foreign → Position → Value Foreign → Value Foreign
  | _, [], new => new
  | .array items, .item place :: rest, new =>
      .array (items.modify place fun item => item.replaceAt rest new)
  | .object members, .member place :: rest, new =>
      .object (members.modify place fun member =>
        (member.1, member.2.replaceAt rest new))
  | value, _ :: _, _ => value

@[simp]
theorem at?_nil (value : Value Foreign) : value.at? [] = some value := by
  cases value <;> rfl

/-- Below a scalar and below what is foreign there are no positions. -/
theorem at?_cons_eq_some {value part : Value Foreign} {step : Step}
    {rest : Position} (here : value.at? (step :: rest) = some part) :
    (∃ items item place, value = .array items ∧ step = .item place ∧
        items[place]? = some item ∧ item.at? rest = some part) ∨
      ∃ members member place, value = .object members ∧ step = .member place ∧
        members[place]? = some member ∧ member.2.at? rest = some part := by
  cases value <;> cases step <;> try cases here
  · obtain ⟨item, listed, inside⟩ := Option.bind_eq_some_iff.mp here
    exact Or.inl ⟨_, item, _, rfl, rfl, listed, inside⟩
  · obtain ⟨member, listed, inside⟩ := Option.bind_eq_some_iff.mp here
    exact Or.inr ⟨_, member, _, rfl, rfl, listed, inside⟩

theorem at?_append (value : Value Foreign) (left right : Position) :
    value.at? (left ++ right) =
      (value.at? left).bind fun part => part.at? right := by
  induction left generalizing value with
  | nil => simp
  | cons step rest ih =>
      cases value <;> cases step <;> try rfl
      · simp only [List.cons_append, at?, Option.bind_assoc, ih]
      · simp only [List.cons_append, at?, Option.bind_assoc, ih]

/-- What is looked at stands at the inspected positions. -/
theorem inspected_iff {root part : Value Foreign} :
    root.Inspected part ↔
      ∃ position, IsInspected position ∧ root.at? position = some part := by
  constructor
  · intro inspected
    induction inspected with
    | root => exact ⟨[], isInspected_nil, at?_nil root⟩
    | @item first rest _ ih =>
        obtain ⟨position, way, here⟩ := ih
        refine ⟨position ++ [.item 0], ?_, ?_⟩
        · exact List.forall_mem_append.mpr
            ⟨way, isInspected_cons.mpr ⟨rfl, isInspected_nil⟩⟩
        · simp [at?_append, here, at?]
    | @member members name value _ listed ih =>
        obtain ⟨position, way, here⟩ := ih
        obtain ⟨place, bound, same⟩ := List.getElem_of_mem listed
        refine ⟨position ++ [.member place], ?_, ?_⟩
        · exact List.forall_mem_append.mpr
            ⟨way, isInspected_cons.mpr ⟨trivial, isInspected_nil⟩⟩
        · simp [at?_append, here, at?, List.getElem?_eq_getElem bound, same]
  · rintro ⟨position, way, here⟩
    induction position using List.reverseRecOn generalizing part with
    | nil =>
        cases (at?_nil root).symm.trans here
        exact .root
    | append_singleton position step ih =>
        obtain ⟨before, last⟩ := List.forall_mem_append.mp way
        rw [at?_append, Option.bind_eq_some_iff] at here
        obtain ⟨outer, reached, entered⟩ := here
        have inspected := ih before reached
        rcases at?_cons_eq_some entered with
          ⟨items, item, place, rfl, rfl, listed, inside⟩ |
            ⟨members, member, place, rfl, rfl, listed, inside⟩
        · have first : place = 0 := (isInspected_cons.mp last).1
          subst first
          cases items with
          | nil => cases listed
          | cons first rest =>
              cases listed
              cases (at?_nil _).symm.trans inside
              exact inspected.item
        · cases (at?_nil _).symm.trans inside
          exact inspected.member (List.mem_of_getElem? listed)

mutual

/-- No position lies deeper than the value is. -/
theorem length_le_depth (value : Value Foreign) {position : Position}
    {part : Value Foreign} (here : value.at? position = some part) :
    position.length ≤ value.depth := by
  cases position with
  | nil => exact Nat.zero_le _
  | cons step rest =>
      rcases at?_cons_eq_some here with
        ⟨items, item, place, rfl, rfl, listed, inside⟩ |
          ⟨members, member, place, rfl, rfl, listed, inside⟩
      · exact Nat.succ_le_succ (length_le_depthOfItems items listed inside)
      · exact Nat.succ_le_succ (length_le_depthOfMembers members listed inside)

theorem length_le_depthOfItems (items : List (Value Foreign))
    {item part : Value Foreign} {place : Nat} {position : Position}
    (listed : items[place]? = some item) (inside : item.at? position = some part) :
    position.length ≤ depthOfItems items := by
  cases items with
  | nil => cases listed
  | cons first rest =>
      rw [depthOfItems]
      cases place with
      | zero =>
          cases listed
          exact Nat.le_trans (length_le_depth item inside) (Nat.le_max_left _ _)
      | succ place =>
          exact Nat.le_trans (length_le_depthOfItems rest listed inside)
            (Nat.le_max_right _ _)

theorem length_le_depthOfMembers (members : List (Text × Value Foreign))
    {member : Text × Value Foreign} {part : Value Foreign} {place : Nat}
    {position : Position} (listed : members[place]? = some member)
    (inside : member.2.at? position = some part) :
    position.length ≤ depthOfMembers members := by
  cases members with
  | nil => cases listed
  | cons first rest =>
      rcases first with ⟨name, value⟩
      rw [depthOfMembers]
      cases place with
      | zero =>
          cases listed
          exact Nat.le_trans (length_le_depth value inside) (Nat.le_max_left _ _)
      | succ place =>
          exact Nat.le_trans (length_le_depthOfMembers rest listed inside)
            (Nat.le_max_right _ _)

end

/-! ## How an inference ends -/

mutual

/-- The schema has the shape of what is inspected of the value. -/
inductive Mirrors : Value Foreign → Schema → Prop where
  | null : Mirrors .null (.primitive .null)
  | boolean (value : Bool) : Mirrors (.boolean value) (.primitive .boolean)
  | integer (value : Int) : Mirrors (.integer value) (.primitive .number)
  | float (value : Double) : Mirrors (.float value) (.primitive .number)
  | text (value : Text) : Mirrors (.text value) (.primitive .string)
  | emptyArray : Mirrors (.array []) (.array none)
  | array {first : Value Foreign} {rest : List (Value Foreign)} {node : Schema}
      (head : Mirrors first node) :
      Mirrors (.array (first :: rest)) (.array (some node))
  | object {members : List (Text × Value Foreign)}
      {properties : List (Text × Schema)}
      (each : MirrorsEach members properties) :
      Mirrors (.object members) (.object properties)

/-- The properties have the names and the shapes of the members, in their
order. -/
inductive MirrorsEach :
    List (Text × Value Foreign) → List (Text × Schema) → Prop where
  | nil : MirrorsEach [] []
  | cons {name : Text} {value : Value Foreign} {node : Schema}
      {members : List (Text × Value Foreign)}
      {properties : List (Text × Schema)}
      (head : Mirrors value node) (tail : MirrorsEach members properties) :
      MirrorsEach ((name, value) :: members) ((name, node) :: properties)

end

/-- Something foreign stands at an inspected position, and at none that a walk
comes to before. -/
structure FirstForeign (value : Value Foreign) (position : Position)
    (found : Foreign) : Prop where
  inspected : IsInspected position
  here : value.at? position = some (.foreign found)
  first : ∀ other further, IsInspected other →
    value.at? other = some (.foreign further) →
      ¬places other < places position

/-- Nothing foreign stands at an inspected position. -/
def IsFamiliar (value : Value Foreign) : Prop :=
  ∀ position found, IsInspected position →
    value.at? position ≠ some (.foreign found)

/-- What an inference that enters at most `limit` containers comes to. -/
inductive Outcome (limit : Nat) (value : Value Foreign) :
    Except (WalkError Foreign) Schema → Prop where
  | ok {node : Schema} (mirrors : Mirrors value node)
      (familiar : value.IsFamiliar) :
      Outcome limit value (.ok node)
  | foreign (position : Position) {found : Foreign}
      (first : value.FirstForeign position found) :
      Outcome limit value (.error (.foreign found))
  | tooDeep (position : Position) {part : Value Foreign}
      (inspected : IsInspected position)
      (here : value.at? position = some part)
      (deep : position.length = limit) :
      Outcome limit value (.error .tooDeep)

section Members

variable {name : Text} {value : Value Foreign}
  {members : List (Text × Value Foreign)}

/-- What is foreign in an object stands below a member. -/
theorem exists_member_of_at?_object {position : Position} {found : Foreign}
    (here : (Value.object members).at? position = some (.foreign found)) :
    ∃ place rest, position = .member place :: rest := by
  cases position with
  | nil => cases (at?_nil _).symm.trans here
  | cons step rest =>
      rcases at?_cons_eq_some here with
        ⟨_, _, _, impossible, _⟩ | ⟨_, _, place, _, rfl, _⟩
      · cases impossible
      · exact ⟨place, rest, rfl⟩

theorem FirstForeign.head {position : Position} {found : Foreign}
    (first : value.FirstForeign position found) :
    (Value.object ((name, value) :: members)).FirstForeign
      (.member 0 :: position) found where
  inspected := isInspected_cons.mpr ⟨trivial, first.inspected⟩
  here := first.here
  first other further inspected here := by
    obtain ⟨place, rest, rfl⟩ := exists_member_of_at?_object here
    simp only [places, List.map_cons, Step.place, List.cons_lt_cons_iff]
    cases place with
    | zero =>
        have behind := first.first rest further
          (isInspected_cons.mp inspected).2 here
        rintro (less | ⟨_, less⟩)
        · exact Nat.lt_irrefl 0 less
        · exact behind less
    | succ place =>
        rintro (less | ⟨same, _⟩)
        · exact Nat.not_lt_zero _ less
        · cases same

/-- Behind a member with nothing foreign in it the order stays the same. -/
theorem FirstForeign.tail {position : Position} {found : Foreign}
    (name : Text) (familiar : value.IsFamiliar)
    (first : (Value.object members).FirstForeign position found) :
    ∃ further, (Value.object ((name, value) :: members)).FirstForeign
      further found := by
  obtain ⟨place, rest, rfl⟩ := exists_member_of_at?_object first.here
  have way := isInspected_cons.mp first.inspected
  refine ⟨.member (place + 1) :: rest,
    isInspected_cons.mpr ⟨trivial, way.2⟩, first.here, ?_⟩
  intro other further inspected here
  obtain ⟨otherPlace, otherRest, rfl⟩ := exists_member_of_at?_object here
  have otherWay := isInspected_cons.mp inspected
  cases otherPlace with
  | zero => exact absurd here (familiar otherRest further otherWay.2)
  | succ otherPlace =>
      have behind := first.first (.member otherPlace :: otherRest) further
        (isInspected_cons.mpr ⟨trivial, otherWay.2⟩) here
      simp only [places, List.map_cons, Step.place, List.cons_lt_cons_iff,
        Nat.succ_lt_succ_iff, Nat.succ_inj] at behind ⊢
      exact behind

theorem IsFamiliar.cons (head : value.IsFamiliar)
    (tail : (Value.object members).IsFamiliar) :
    (Value.object ((name, value) :: members)).IsFamiliar := by
  intro position found inspected here
  obtain ⟨place, rest, rfl⟩ := exists_member_of_at?_object here
  have way := isInspected_cons.mp inspected
  cases place with
  | zero => exact head rest found way.2 here
  | succ place =>
      exact tail (.member place :: rest) found
        (isInspected_cons.mpr ⟨trivial, way.2⟩) here

/-- An object ends as its first member does, or as the rest does if nothing
stops the walk there. -/
theorem Outcome.cons {limit : Nat}
    {ending : Except (WalkError Foreign) Schema}
    {endings : Except (WalkError Foreign) (List (Text × Schema))}
    (head : Outcome limit value ending)
    (tail : Outcome (limit + 1) (.object members) (endings.map .object)) :
    Outcome (limit + 1) (.object ((name, value) :: members))
      ((match ending with
        | .error error => Except.error error
        | .ok node => endings.map fun others => (name, node) :: others).map
          .object) := by
  cases head with
  | foreign position first => exact .foreign (.member 0 :: position) first.head
  | tooDeep position inspected here deep =>
      exact .tooDeep (.member 0 :: position)
        (isInspected_cons.mpr ⟨trivial, inspected⟩) here
        (congrArg Nat.succ deep)
  | @ok node mirrors familiar =>
      rcases endings with error | properties
      · cases tail with
        | foreign _ first =>
            obtain ⟨position, first⟩ := first.tail name familiar
            exact .foreign position first
        | tooDeep position inspected here deep =>
            cases position with
            | nil => cases deep
            | cons step rest =>
                rcases at?_cons_eq_some here with
                  ⟨_, _, _, impossible, _⟩ | ⟨_, _, place, _, rfl, _⟩
                · cases impossible
                · exact .tooDeep (.member (place + 1) :: rest)
                    (isInspected_cons.mpr
                      ⟨trivial, (isInspected_cons.mp inspected).2⟩) here deep
      · cases tail with
        | ok each tailFamiliar =>
            cases each with
            | object each =>
                exact .ok (.object (.cons mirrors each))
                  (familiar.cons tailFamiliar)

end Members

/-- An array ends as its first item does. -/
theorem Outcome.array {limit : Nat} {first : Value Foreign}
    {rest : List (Value Foreign)} {ending : Except (WalkError Foreign) Schema}
    (head : Outcome limit first ending) :
    Outcome (limit + 1) (.array (first :: rest))
      ((ending.map some).map .array) := by
  -- Only the first item is entered at an inspected position.
  have entered {position : Position} {found : Foreign}
      (inspected : IsInspected position)
      (here : (Value.array (first :: rest)).at? position =
        some (.foreign found)) :
      ∃ later, position = .item 0 :: later ∧ IsInspected later ∧
        first.at? later = some (.foreign found) := by
    cases position with
    | nil => cases (at?_nil _).symm.trans here
    | cons step later =>
        have way := isInspected_cons.mp inspected
        rcases at?_cons_eq_some here with
          ⟨_, _, place, same, rfl, listed, inside⟩ |
            ⟨_, _, _, impossible, _⟩
        · cases same
          have zero : place = 0 := way.1
          subst zero
          cases listed
          exact ⟨later, rfl, way.2, inside⟩
        · cases impossible
  cases head with
  | ok mirrors familiar =>
      refine .ok (.array mirrors) ?_
      intro position found inspected here
      obtain ⟨later, rfl, way, inside⟩ := entered inspected here
      exact familiar later found way inside
  | foreign position least =>
      refine .foreign (.item 0 :: position)
        ⟨isInspected_cons.mpr ⟨rfl, least.inspected⟩, least.here, ?_⟩
      intro other further inspected here
      obtain ⟨later, rfl, way, inside⟩ := entered inspected here
      have behind := least.first later further way inside
      simpa only [places, List.map_cons, Step.place, List.cons_lt_cons_self]
        using behind
  | tooDeep position inspected here deep =>
      exact .tooDeep (.item 0 :: position)
        (isInspected_cons.mpr ⟨rfl, inspected⟩) here (congrArg Nat.succ deep)

/-- What has no parts is inspected as a whole. -/
theorem isFamiliar_of_flat {value : Value Foreign}
    (flat : ∀ step rest, value.at? (step :: rest) = none)
    (own : ∀ found, value ≠ .foreign found) : value.IsFamiliar := by
  intro position found _ here
  cases position with
  | nil =>
      rw [at?_nil] at here
      exact own found (Option.some.inj here)
  | cons step rest =>
      rw [flat] at here
      cases here

mutual

/-- An inference ends in one of the three ways. -/
theorem inferWithin_outcome (limit : Nat) (value : Value Foreign) :
    Outcome limit value (value.inferWithin limit) := by
  cases value with
  | null => exact .ok .null (isFamiliar_of_flat (by simp [at?]) nofun)
  | boolean value =>
      exact .ok (.boolean value) (isFamiliar_of_flat (by simp [at?]) nofun)
  | integer value =>
      exact .ok (.integer value) (isFamiliar_of_flat (by simp [at?]) nofun)
  | float value =>
      exact .ok (.float value) (isFamiliar_of_flat (by simp [at?]) nofun)
  | text value =>
      exact .ok (.text value) (isFamiliar_of_flat (by simp [at?]) nofun)
  | foreign found =>
      refine .foreign [] ⟨isInspected_nil, rfl, ?_⟩
      intro other further _ _
      exact List.not_lt_nil _
  | array items =>
      cases limit with
      | zero => exact .tooDeep [] isInspected_nil (at?_nil _) rfl
      | succ limit =>
          cases items with
          | nil =>
              refine .ok .emptyArray (isFamiliar_of_flat ?_ nofun)
              rintro (_ | _) rest <;> rfl
          | cons first rest => exact (inferWithin_outcome limit first).array
  | object members =>
      cases limit with
      | zero => exact .tooDeep [] isInspected_nil (at?_nil _) rfl
      | succ limit => exact inferMembers_outcome limit members

theorem inferMembers_outcome (limit : Nat)
    (members : List (Text × Value Foreign)) :
    Outcome (limit + 1) (.object members)
      ((inferMembers limit members).map .object) := by
  cases members with
  | nil =>
      refine .ok (.object .nil) (isFamiliar_of_flat ?_ nofun)
      rintro (_ | _) rest <;> rfl
  | cons member rest =>
      rcases member with ⟨name, value⟩
      exact (inferWithin_outcome limit value).cons
        (inferMembers_outcome limit rest)

end

/-! ## What makes no difference -/

theorem inferMembers_modify {limit : Nat}
    {change : Value Foreign → Value Foreign}
    (same : ∀ value : Value Foreign,
      (change value).inferWithin limit = value.inferWithin limit)
    (members : List (Text × Value Foreign)) (place : Nat) :
    inferMembers limit
        (members.modify place fun member => (member.1, change member.2)) =
      inferMembers limit members := by
  induction members generalizing place with
  | nil => rw [List.modify_nil]
  | cons member rest ih =>
      rcases member with ⟨name, value⟩
      cases place with
      | zero => simp only [List.modify_zero_cons, inferMembers, same]
      | succ place => simp only [List.modify_succ_cons, inferMembers, ih]

/-- Whatever is put at a position that is not inspected, the inference ends as
before, however many containers it may enter. -/
theorem inferWithin_replaceAt (new : Value Foreign) {position : Position}
    (hidden : ¬IsInspected position) (limit : Nat) (value : Value Foreign) :
    (value.replaceAt position new).inferWithin limit =
      value.inferWithin limit := by
  induction position generalizing limit value with
  | nil => exact absurd isInspected_nil hidden
  | cons step rest ih =>
      rw [isInspected_cons, not_and] at hidden
      cases value <;> cases step <;> try rfl
      · next items place =>
          cases limit with
          | zero => rfl
          | succ limit =>
              cases items with
              | nil => simp [replaceAt]
              | cons first others =>
                  cases place with
                  | zero =>
                      simp only [replaceAt, List.modify_zero_cons, inferWithin,
                        inferFirst, ih (hidden rfl)]
                  | succ place =>
                      simp only [replaceAt, List.modify_succ_cons, inferWithin,
                        inferFirst]
      · next members place =>
          cases limit with
          | zero => rfl
          | succ limit =>
              simp only [replaceAt, inferWithin,
                inferMembers_modify (ih (hidden trivial) limit)]

/-! ## Schemas of values -/

/-- The schema of a value, or the fault in which `kind` names what is foreign. -/
def schemaWith (kind : Foreign → Text) (value : Value Foreign) :
    Except Fault Schema :=
  value.infer.mapError (Fault.ofInferenceError kind)

theorem exists_inspected_foreign_iff {value : Value Foreign} :
    (∃ found, value.Inspected (.foreign found)) ↔ ¬value.IsFamiliar := by
  constructor
  · rintro ⟨found, inspected⟩ familiar
    obtain ⟨position, way, here⟩ := inspected_iff.mp inspected
    exact familiar position found way here
  · intro unfamiliar
    by_contra nothing
    refine unfamiliar fun position found way here => ?_
    exact nothing ⟨found, inspected_iff.mpr ⟨position, way, here⟩⟩

theorem FirstForeign.not_isFamiliar {value : Value Foreign}
    {position : Position} {found : Foreign}
    (first : value.FirstForeign position found) : ¬value.IsFamiliar :=
  fun familiar => familiar position found first.inspected first.here

/-- Where no inspected position lies too deep, only what is foreign stands in
the way of a schema. -/
theorem schemaWith_cases (kind : Foreign → Text) {value : Value Foreign}
    (shallow : ∀ position part, IsInspected position →
      value.at? position = some part → position.length < walkLimit) :
    (∃ node, value.schemaWith kind = .ok node ∧ Mirrors value node ∧
        value.IsFamiliar) ∨
      ∃ position found, value.FirstForeign position found ∧
        value.schemaWith kind =
          .error (.ofCondition (.notDocument (kind found))) := by
  have outcome := inferWithin_outcome walkLimit value
  rw [schemaWith, infer]
  generalize value.inferWithin walkLimit = ending at outcome
  cases outcome with
  | ok mirrors familiar => exact Or.inl ⟨_, rfl, mirrors, familiar⟩
  | foreign position first => exact Or.inr ⟨position, _, first, rfl⟩
  | tooDeep position inspected here deep =>
      have within := shallow position _ inspected here
      omega

/-- A value that is inspected in places of moderate depth has the schema that
mirrors it, unless something foreign is inspected; then the fault names the
first of its kind.  What is not inspected changes neither the outcome nor the
text of the schema. -/
theorem schema_of_inspected (kind : Foreign → Text) (value : Value Foreign) :
    ((∀ position part, IsInspected position →
        value.at? position = some part → position.length ≤ 300) →
      ((∃ fault, value.schemaWith kind = .error fault ∧
            fault.name = "TypeError") ↔
          ∃ found, value.Inspected (.foreign found)) ∧
        ((∃ found, value.Inspected (.foreign found)) →
          ∃ position found fault, value.FirstForeign position found ∧
            value.schemaWith kind = .error fault ∧ fault.name = "TypeError" ∧
            fault.message = .ok ("Not a JSON value: " ++ kind found)) ∧
        ((¬∃ found, value.Inspected (.foreign found)) →
          ∃ node, value.schemaWith kind = .ok node ∧ Mirrors value node)) ∧
    ∀ position new, ¬IsInspected position →
      (value.replaceAt position new).schemaWith kind = value.schemaWith kind ∧
        ((value.replaceAt position new).schemaWith kind).bind Schema.text =
          (value.schemaWith kind).bind Schema.text := by
  constructor
  · intro shallow
    rw [exists_inspected_foreign_iff, Classical.not_not]
    rcases schemaWith_cases kind fun position part inspected here =>
        Nat.lt_of_le_of_lt (shallow position part inspected here)
          (show 300 < walkLimit by decide) with
      ⟨node, inferred, mirrors, familiar⟩ | ⟨position, found, first, failed⟩
    · simp [inferred, familiar, mirrors]
    · exact ⟨⟨fun _ => first.not_isFamiliar, fun _ => ⟨_, failed, rfl⟩⟩,
        fun _ => ⟨position, found, _, first, failed, rfl, rfl⟩,
        fun familiar => absurd familiar first.not_isFamiliar⟩
  · intro position new hidden
    have same : (value.replaceAt position new).schemaWith kind =
        value.schemaWith kind := by
      rw [schemaWith, schemaWith, infer, infer,
        inferWithin_replaceAt new hidden]
    exact ⟨same, by rw [same]⟩

/-- A value with foreign things behind the first item of an array, at the
front of two arrays inside one another, and in a later member. -/
def mixedDatum : Datum :=
  .object [("a", .array [.integer 1, .foreign .set]),
    ("b", .array [.array [.foreign .tuple], .foreign .bytes]),
    ("c", .foreign .complex)]

/-- Of what is foreign in it the tuple is named, whatever is put in the place of
the set. -/
theorem schema_of_inspected_mixed :
    (∀ position part, IsInspected position →
        mixedDatum.at? position = some part → position.length ≤ 300) ∧
      mixedDatum.Inspected (.foreign .tuple) ∧
      (∃ position found fault, mixedDatum.FirstForeign position found ∧
        mixedDatum.schema = .error fault ∧ fault.name = "TypeError" ∧
        fault.message =
          .ok ("Not a JSON value: " ++ ForeignKind.name found) ∧
        fault.message = .ok "Not a JSON value: tuple") ∧
      ¬IsInspected [.member 0, .item 1] ∧
      ∀ depth, Datum.schema (mixedDatum.replaceAt [.member 0, .item 1]
          (Nat.repeat (fun inner => .array [inner]) depth .null)) =
        mixedDatum.schema := by
  have shallow : ∀ position part, IsInspected position →
      mixedDatum.at? position = some part → position.length ≤ 300 :=
    fun position part _ here =>
      Nat.le_trans (length_le_depth mixedDatum here) (by decide)
  have tuple : mixedDatum.Inspected (.foreign .tuple) :=
    inspected_iff.mpr ⟨[.member 1, .item 0, .item 0], by decide, rfl⟩
  have hidden : ¬IsInspected [.member 0, .item 1] := by decide
  obtain ⟨seen, unseen⟩ := schema_of_inspected ForeignKind.name mixedDatum
  obtain ⟨position, found, fault, first, failed, name, message⟩ :=
    (seen shallow).2.1 ⟨_, tuple⟩
  have known : mixedDatum.schemaWith ForeignKind.name =
      .error (.ofCondition (.notDocument "tuple")) := rfl
  cases known.symm.trans failed
  exact ⟨shallow, tuple, ⟨position, found, _, first, failed, name, message, rfl⟩,
    hidden, fun depth => (unseen _ _ hidden).1⟩

end Value

end ResponseService
