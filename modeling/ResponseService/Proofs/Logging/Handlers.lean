import Mathlib.Data.List.Induction
import ResponseService.Logging.Root

/-!
# Handlers over any number of set-ups

The root is changed by set-ups of the service and by handlers that others add
(`Change`).  Each change makes one handler, so what has come in during a run is
known from the changes alone (`arrivals`).

A set-up takes the service's handlers out while it goes through a copy of the
list, which leaves the others in their order (`handlers_removeNamed`).  No
change touches these: after any run they are those of the start and those that
have come in since (`others_after`).  So right behind a set-up there stands one
handler of the service, a new one, behind all the others
(`setUp_replaces_handler`).
-/

namespace ResponseService.Logging

/-- The handler has another name than those of the service. -/
def Handler.IsOther (handler : Handler) : Prop :=
  handler.name ≠ some Handler.serviceName

instance : DecidablePred Handler.IsOther := fun handler =>
  inferInstanceAs (Decidable (handler.name ≠ some Handler.serviceName))

namespace Root

/-! ## One set-up -/

/-- Erasing what is unwanted while going through a copy of the list leaves what
is wanted: nothing that has been passed and kept is equal to what is erased. -/
theorem foldl_erase {α : Type} [DecidableEq α] (unwanted : α → Prop)
    [DecidablePred unwanted] (kept coming : List α)
    (wanted : ∀ item ∈ kept, ¬unwanted item) :
    coming.foldl
        (fun left item => if unwanted item then left.erase item else left)
        (kept ++ coming) =
      kept ++ coming.filter fun item => ¬unwanted item := by
  induction coming generalizing kept with
  | nil => rfl
  | cons item rest ih =>
      by_cases out : unwanted item
      · have absent : item ∉ kept := fun member => wanted item member out
        rw [List.foldl_cons, if_pos out, List.erase_append_right _ absent,
          List.erase_cons_head, ih kept wanted,
          List.filter_cons_of_neg (by simpa)]
      · have longer : ∀ other ∈ kept ++ [item], ¬unwanted other :=
          List.forall_mem_append.mpr ⟨wanted, List.forall_mem_singleton.mpr out⟩
        rw [List.foldl_cons, if_neg out, List.append_cons, ih _ longer,
          List.append_assoc, List.singleton_append,
          List.filter_cons_of_pos (by simpa)]

theorem handlers_dismiss (name : Option Text) (root : Root)
    (handler : Handler) :
    (root.dismiss name handler).handlers =
      if handler.name = name then root.handlers.erase handler
      else root.handlers := by
  rw [dismiss]
  split <;> rfl

theorem handlers_removeNamed (root : Root) (name : Option Text) :
    (root.removeNamed name).handlers =
      root.handlers.filter fun handler => handler.name ≠ name := by
  let erase (left : List Handler) (handler : Handler) : List Handler :=
    if handler.name = name then left.erase handler else left
  have erased : root.handlers.foldl erase root.handlers =
      (root.removeNamed name).handlers :=
    List.foldl_hom Root.handlers fun left handler =>
      (handlers_dismiss name left handler).symm
  rw [← erased]
  exact foldl_erase (·.name = name) [] root.handlers (List.forall_mem_nil _)

/-- Taking handlers out changes neither the level nor how many were made. -/
theorem kept_removeNamed (root : Root) (name : Option Text) :
    (root.removeNamed name).level = root.level ∧
      (root.removeNamed name).made = root.made := by
  refine List.foldlRecOn root.handlers (dismiss name)
    (motive := fun left => left.level = root.level ∧ left.made = root.made)
    ⟨rfl, rfl⟩ ?_
  intro left kept handler _
  rw [dismiss]
  split
  · exact kept
  · exact kept

theorem level_equip (root : Root) (format : Text) :
    (root.equip format).level = root.level :=
  (kept_removeNamed root _).1

theorem made_equip (root : Root) (format : Text) :
    (root.equip format).made = root.made + 1 :=
  congrArg Nat.succ (kept_removeNamed root _).2

theorem handlers_equip (root : Root) (format : Text) :
    (root.equip format).handlers =
      root.handlers.filter Handler.IsOther ++
        [root.next (.ofFormat format)] := by
  have number := (kept_removeNamed root (some Handler.serviceName)).2
  rw [equip, handlers_addHandler, handlers_removeNamed, next, number]
  rfl

/-- Whether the level can be set or not, a set-up leaves all but the level as it
is once the new handler is in place. -/
theorem exists_level_setUp (root : Root) (levelName format : Text) :
    ∃ level, (root.setUp levelName format).1 =
      { root.equip format with level := level } := by
  rw [setUp]
  cases Level.ofName levelName with
  | ok level => exact ⟨level, rfl⟩
  | error problem => exact ⟨(root.equip format).level, rfl⟩

theorem handlers_setUp (root : Root) (levelName format : Text) :
    (root.setUp levelName format).1.handlers =
      root.handlers.filter Handler.IsOther ++
        [root.next (.ofFormat format)] := by
  obtain ⟨level, same⟩ := root.exists_level_setUp levelName format
  rw [same, ← handlers_equip]

theorem made_setUp (root : Root) (levelName format : Text) :
    (root.setUp levelName format).1.made = root.made + 1 := by
  obtain ⟨level, same⟩ := root.exists_level_setUp levelName format
  rw [same, ← made_equip]

/-! ## Runs -/

/-- What changes a root. -/
inductive Change where
  /-- The service is set up. -/
  | setUp (levelName format : Text)
  /-- Someone adds a handler. -/
  | add (kind : HandlerKind)

/-- The kind of the handler that a change makes. -/
def Change.kind : Change → HandlerKind
  | .setUp _ format => .ofFormat format
  | .add kind => kind

/-- The root behind a change, also behind a set-up that could not set the
level. -/
def change (root : Root) : Change → Root
  | .setUp levelName format => (root.setUp levelName format).1
  | .add kind => root.addHandler kind

/-- The root behind several changes. -/
def after (root : Root) (changes : List Change) : Root :=
  changes.foldl change root

/-- The handlers that come in with several changes: one with each. -/
def arrivals (root : Root) (changes : List Change) : List Handler :=
  changes.mapIdx fun place change => ⟨change.kind, root.made + place⟩

theorem made_change (root : Root) (change : Change) :
    (root.change change).made = root.made + 1 := by
  cases change with
  | setUp levelName format =>
      exact made_setUp root levelName format
  | add kind => rfl

/-- A change adds its own handler to the others, if that is one of them, and
leaves them otherwise alone. -/
theorem others_change (root : Root) (change : Change) :
    (root.change change).handlers.filter Handler.IsOther =
      (root.handlers ++ [root.next change.kind]).filter Handler.IsOther := by
  cases change with
  | setUp levelName format =>
      rw [Root.change, handlers_setUp, List.filter_append, List.filter_append,
        List.filter_filter, Change.kind]
      simp only [Bool.and_self]
  | add kind => rfl

theorem after_append_singleton (root : Root) (changes : List Change)
    (change : Change) :
    root.after (changes ++ [change]) = (root.after changes).change change := by
  rw [after, List.foldl_append, List.foldl_cons, List.foldl_nil, after]

theorem made_after (root : Root) (changes : List Change) :
    (root.after changes).made = root.made + changes.length := by
  induction changes using List.reverseRecOn with
  | nil => rfl
  | append_singleton changes change ih =>
      rw [after_append_singleton, made_change, ih, List.length_append,
        List.length_singleton, Nat.add_assoc]

/-- After any changes the other handlers are those of the start and those that
have come in, in this order. -/
theorem others_after (root : Root) (changes : List Change) :
    (root.after changes).handlers.filter Handler.IsOther =
      (root.handlers ++ root.arrivals changes).filter Handler.IsOther := by
  induction changes using List.reverseRecOn with
  | nil =>
      rw [arrivals, List.mapIdx_nil, List.append_nil]
      rfl
  | append_singleton changes change ih =>
      have newest : (root.after changes).next change.kind =
          ⟨change.kind, root.made + changes.length⟩ := by
        rw [next, made_after]
      rw [after_append_singleton, others_change, List.filter_append, ih, newest,
        ← List.filter_append, List.append_assoc, arrivals, arrivals,
        List.mapIdx_append, List.mapIdx_singleton, Nat.zero_add]

/-- Whatever happened before, and whether the level can be set or not, a set-up
leaves one handler of the service.  It stands last, it is of the format asked
for, and it was never there before.  In front of it are the others, those of the
start and those that have come in, in their order. -/
theorem setUp_replaces_handler (root : Root) (earlier : List Change)
    (levelName format : Text) :
    ∃ equipped ending own,
      (root.after earlier).setUp levelName format = (equipped, ending) ∧
        equipped.handlers =
          (root.handlers ++ root.arrivals earlier).filter Handler.IsOther ++
            [own] ∧
        equipped.handlers.filter (¬Handler.IsOther ·) = [own] ∧
        own.toHandlerKind = .ofFormat format ∧
        ∀ sooner, sooner <+: earlier → own ∉ (root.after sooner).handlers := by
  have own : ¬Handler.IsOther ((root.after earlier).next (.ofFormat format)) :=
    fun other => other rfl
  have handlers : ((root.after earlier).setUp levelName format).1.handlers =
      (root.handlers ++ root.arrivals earlier).filter Handler.IsOther ++
        [(root.after earlier).next (.ofFormat format)] := by
    rw [handlers_setUp, others_after]
  refine ⟨((root.after earlier).setUp levelName format).1,
    ((root.after earlier).setUp levelName format).2,
    (root.after earlier).next (.ofFormat format), rfl, handlers, ?_, rfl, ?_⟩
  · have rest : (((root.handlers ++ root.arrivals earlier).filter
        Handler.IsOther).filter (¬Handler.IsOther ·)) = [] :=
      List.filter_eq_nil_iff.mpr fun handler member => by
        simpa using (List.mem_filter.mp member).2
    rw [handlers, List.filter_append, rest, List.nil_append,
      List.filter_cons_of_pos (by simpa using own), List.filter_nil]
  · intro sooner first member
    have below := (root.after sooner).number_lt _ member
    have shorter := first.length_le
    simp only [next, made_after] at below
    omega

end Root

end ResponseService.Logging
