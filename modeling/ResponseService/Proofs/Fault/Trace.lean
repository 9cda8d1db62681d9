import Mathlib.Tactic.Tauto
import ResponseService.Fault.Chain

/-!
# Traces of faults

A fault involves the faults of its chain, the parts of those that are groups,
and what the parts involve (`Fault.Involves`).  It has a trace if each fault
that it involves can be taken down and has an account (`exists_trace`), and only
a fault in a source text may have none: any other condition is told by its class
and its message, or by words that stand in the place of the message
(`Condition.account_eq_inBrief`).

A trace that there is ends with a line feed (`endsLine_trace`), so it is never
empty (`traceOf_eq_nil_iff`).
-/

namespace ResponseService

/-! ## Attempts -/

section Attempts

variable {Problem Given Made : Type}

/-- Two attempts, one after the other, succeed if both do. -/
theorem bind_eq_ok_iff {attempt : Except Problem Given}
    {next : Given → Except Problem Made} {made : Made} :
    attempt >>= next = .ok made ↔
      ∃ given, attempt = .ok given ∧ next given = .ok made := by
  cases attempt with
  | error problem => exact ⟨nofun, nofun⟩
  | ok given =>
      exact ⟨fun same => ⟨given, rfl, same⟩,
        fun ⟨_, found, same⟩ => Except.ok.inj found ▸ same⟩

theorem map_eq_ok_iff {attempt : Except Problem Given} {make : Given → Made}
    {made : Made} :
    attempt.map make = .ok made ↔
      ∃ given, attempt = .ok given ∧ make given = made := by
  cases attempt with
  | error problem => exact ⟨nofun, nofun⟩
  | ok given => simp [Except.map]

instance decidableEqExcept [DecidableEq Problem] [DecidableEq Made] :
    DecidableEq (Except Problem Made)
  | .ok made, .ok other => decidable_of_iff (made = other) (by simp)
  | .error problem, .error other =>
      decidable_of_iff (problem = other) (by simp)
  | .ok _, .error _ => isFalse nofun
  | .error _, .ok _ => isFalse nofun

end Attempts

/-! ## Line ends -/

namespace Text

/-- The text ends with a line feed. -/
def EndsLine (text : Text) : Prop := ∃ before, text = before ++ "\n"

theorem endsLine_append (before : Text) : EndsLine (before ++ "\n") :=
  ⟨before, rfl⟩

theorem EndsLine.after {text : Text} (ends : text.EndsLine) (before : Text) :
    (before ++ text).EndsLine := by
  obtain ⟨line, rfl⟩ := ends
  exact ⟨before ++ line, (List.append_assoc _ _ _).symm⟩

theorem EndsLine.ne_nil {text : Text} (ends : text.EndsLine) : text ≠ [] := by
  obtain ⟨before, rfl⟩ := ends
  exact List.append_ne_nil_of_right_ne_nil _ (by decide)

theorem EndsLine.indentedFrom {text : Text} (ends : text.EndsLine)
    (margin : Text) (fresh afterReturn : Bool) :
    (Text.indentedFrom margin fresh afterReturn text).EndsLine := by
  obtain ⟨before, rfl⟩ := ends
  induction before generalizing fresh afterReturn with
  | nil =>
      cases afterReturn with
      | true => exact ⟨[], rfl⟩
      | false => exact ⟨if fresh then margin else [], rfl⟩
  | cons point rest ih =>
      rw [List.cons_append, Text.indentedFrom]
      split
      · exact (ih true false).after [point]
      · rw [← List.singleton_append, ← List.append_assoc]
        exact (ih _ _).after _

end Text

/-! ## Accounts -/

namespace Condition

/-- The condition is a fault in a source text. -/
def isSource : Condition → Bool
  | .system fault => fault.faultClass.isSource
  | _ => false

/-- Any other condition can be taken down. -/
theorem hindrance?_of_ordinary {condition : Condition}
    (ordinary : condition.isSource = false) : condition.hindrance? = none := by
  cases condition with
  | system fault =>
      simp only [isSource, FaultClass.isSource] at ordinary
      simp only [hindrance?]
      split <;> simp_all
  | _ => rfl

/-- Any other condition is told by its class and its message. -/
theorem account_eq_inBrief {condition : Condition}
    (ordinary : condition.isSource = false) :
    condition.account = .ok condition.inBrief := by
  cases condition with
  | system fault =>
      simp only [isSource, FaultClass.isSource] at ordinary
      simp only [account]
      split <;> simp_all
  | _ => rfl

/-- The words of a mishap are those that a trace tells. -/
@[simp]
theorem message_ofMishap (mishap : Mishap) :
    (ofMishap mishap).message = .ok mishap.message :=
  rfl

end Condition

namespace Fault

/-! ## What a fault involves -/

/-- The next fault of the chain is the cause or the context. -/
theorem origin_of_next? {fault earlier : Fault} {link : Link}
    (next : fault.next? = some (link, earlier)) :
    fault.cause = some earlier ∨ fault.context = some earlier := by
  unfold next? at next
  split at next
  · next led =>
      cases next
      exact .inl led
  · next led _ =>
      cases next
      exact .inr led
  · cases next

theorem mem_parts_of_shown {fault part : Fault}
    (member : part ∈ fault.shownParts) : part ∈ fault.parts := by
  unfold shownParts at member
  split at member
  · cases member
  · exact member

/-- A statement holds of every fault if it holds of each fault for whose next
one and whose parts it holds. -/
theorem inductionOnOrigins {motive : Fault → Prop}
    (step : ∀ fault : Fault,
      (∀ link earlier, fault.next? = some (link, earlier) → motive earlier) →
      (∀ part ∈ fault.shownParts, motive part) → motive fault) :
    (fault : Fault) → motive fault :=
  @Fault.rec motive (fun origin => ∀ fault, origin = some fault → motive fault)
    (fun parts => ∀ part ∈ parts, motive part)
    (fun _ _ _ _ _ _ _ _ cause context parts =>
      step _
        (fun _ _ next => (origin_of_next? next).elim (cause _) (context _))
        fun _ member => parts _ (mem_parts_of_shown member))
    nofun (fun _ holds _ same => Option.some.inj same ▸ holds)
    nofun (fun _ _ holds others => List.forall_mem_cons.mpr ⟨holds, others⟩)

/-- A fault involves itself, and what the next fault of its chain and its parts
involve. -/
inductive Involves : Fault → Fault → Prop where
  | itself {fault : Fault} : Involves fault fault
  | earlier {fault earlier other : Fault} {link : Link}
      (next : fault.next? = some (link, earlier))
      (more : Involves earlier other) : Involves fault other
  | part {fault part other : Fault} (member : part ∈ fault.shownParts)
      (more : Involves part other) : Involves fault other

/-! ## Taking down -/

theorem partsHindrance?_eq_none_iff {parts : List Fault} :
    partsHindrance? parts = none ↔
      ∀ part ∈ parts, part.earlierHindrance? = none := by
  induction parts with
  | nil => simp [partsHindrance?]
  | cons part rest ih =>
      rw [partsHindrance?, Option.or_eq_none_iff, ih, List.forall_mem_cons,
        and_comm]

theorem earlierHindrance?_eq (fault : Fault) :
    fault.earlierHindrance? =
      (((fault.next?.bind fun next => next.2.condition.hindrance?).or
            (fault.shownParts.findSome? fun part =>
              part.condition.hindrance?)).or
          (partsHindrance? fault.shownParts)).or
        (fault.next?.bind fun next => next.2.earlierHindrance?) := by
  obtain ⟨_, _, _, hollow, cause, context, hidden, parts⟩ := fault
  cases hollow <;> cases cause <;> cases context <;> cases hidden <;> rfl

theorem earlierHindrance?_eq_none_iff {fault : Fault} :
    fault.earlierHindrance? = none ↔
      (∀ next ∈ fault.next?, next.2.hindrance? = none) ∧
        ∀ part ∈ fault.shownParts, part.hindrance? = none := by
  rw [earlierHindrance?_eq]
  cases fault.next? <;>
    simp only [hindrance?, Option.or_eq_none_iff, Option.bind_none,
      Option.bind_some, List.findSome?_eq_none_iff,
      partsHindrance?_eq_none_iff, forall₂_and, Option.mem_def,
      reduceCtorEq, Option.some.injEq, forall_eq', false_implies,
      implies_true] <;>
    tauto

/-- A fault is taken down if nothing that it involves keeps it from that. -/
theorem hindrance?_eq_none_iff (fault : Fault) :
    fault.hindrance? = none ↔
      ∀ other, fault.Involves other → other.condition.hindrance? = none := by
  constructor
  · intro free other involves
    induction involves with
    | itself => exact (Option.or_eq_none_iff.mp free).1
    | earlier next _ ih =>
        have earlier := (Option.or_eq_none_iff.mp free).2
        exact ih ((earlierHindrance?_eq_none_iff.mp earlier).1 _ next)
    | part member _ ih =>
        have earlier := (Option.or_eq_none_iff.mp free).2
        exact ih ((earlierHindrance?_eq_none_iff.mp earlier).2 _ member)
  · induction fault using inductionOnOrigins with
    | step fault earlier parts =>
        intro free
        refine Option.or_eq_none_iff.mpr
          ⟨free _ .itself, earlierHindrance?_eq_none_iff.mpr ⟨?_, ?_⟩⟩
        · exact fun _ next =>
            earlier _ _ next fun _ more => free _ (.earlier next more)
        · exact fun _ member =>
            parts _ member fun _ more => free _ (.part member more)

/-! ## Telling -/

/-- The lines that tell of a fault alone: its way, its account and its notes,
and the parts of a group. -/
def blockAt (depth : Nat) (fault : Fault) : Except Mishap Text :=
  match fault.shownParts with
  | [] =>
      fault.condition.account.map fun account =>
        heading depth fault.way ++ ownLines depth account fault.notes
  | part :: rest =>
      if groupDepth < depth then .ok (behind depth omittedGroup)
      else do
        let account ← fault.condition.account
        let told ← partsAt (max depth 1) 0 (part :: rest)
        return groupHeading depth fault.way ++
          ownLines (max depth 1) account fault.notes ++ told

/-- The lines that stand before those of a fault: its chain, and the sentence
of the link. -/
def earlierAt (depth : Nat) (fault : Fault) : Except Mishap Text :=
  match fault.next? with
  | none => .ok []
  | some (link, earlier) =>
      (earlier.toldAt depth).map (· ++ behind depth link.sentence)

theorem toldAt_eq (depth : Nat) (fault : Fault) :
    fault.toldAt depth = (do
      let before ← fault.earlierAt depth
      let own ← fault.blockAt depth
      return before ++ own) := by
  obtain ⟨_, _, _, hollow, cause, context, hidden, parts⟩ := fault
  cases hollow <;> cases cause <;> cases context <;> cases hidden <;>
    cases parts <;> rfl

/-- What is told of a fault is its chain and then its own lines. -/
theorem toldAt_eq_ok_iff {depth : Nat} {fault : Fault} {text : Text} :
    fault.toldAt depth = .ok text ↔
      ∃ before own, fault.earlierAt depth = .ok before ∧
        fault.blockAt depth = .ok own ∧ text = before ++ own := by
  rw [toldAt_eq]
  simp only [bind_eq_ok_iff, pure, Except.pure, Except.ok.injEq]
  constructor
  · rintro ⟨before, earlier, own, block, rfl⟩
    exact ⟨before, own, earlier, block, rfl⟩
  · rintro ⟨before, own, earlier, block, rfl⟩
    exact ⟨before, earlier, own, block, rfl⟩

theorem exists_partsAt {parts : List Fault}
    (told : ∀ part ∈ parts, ∀ depth, ∃ text, part.toldAt depth = .ok text)
    (depth number : Nat) : ∃ text, partsAt depth number parts = .ok text := by
  induction parts generalizing number with
  | nil => exact ⟨[], rfl⟩
  | cons part rest ih =>
      rw [List.forall_mem_cons] at told
      obtain ⟨own, ownTold⟩ := told.1 (depth + 1)
      obtain ⟨others, othersTold⟩ := ih told.2 (number + 1)
      rw [partsAt, ownTold, othersTold]
      split <;> exact ⟨_, rfl⟩

/-- A fault alone is told if it has an account and its parts are told. -/
theorem exists_blockAt {fault : Fault} {account : Text}
    (words : fault.condition.account = .ok account)
    (told : ∀ part ∈ fault.shownParts, ∀ depth,
      ∃ text, part.toldAt depth = .ok text) (depth : Nat) :
    ∃ text, fault.blockAt depth = .ok text := by
  unfold blockAt
  split
  · exact ⟨_, by rw [words]; rfl⟩
  · next part rest parts =>
      obtain ⟨text, rest⟩ := exists_partsAt (parts ▸ told) (max depth 1) 0
      rw [words, rest]
      split <;> exact ⟨_, rfl⟩

/-- A fault is told if each fault that it involves has an account. -/
theorem exists_toldAt {fault : Fault}
    (words : ∀ other, fault.Involves other →
      ∃ account, other.condition.account = .ok account) (depth : Nat) :
    ∃ text, fault.toldAt depth = .ok text := by
  induction fault using inductionOnOrigins generalizing depth with
  | step fault before parts =>
      obtain ⟨account, own⟩ := words fault .itself
      obtain ⟨block, told⟩ := exists_blockAt own
        (fun part member => parts part member
          fun _ more => words _ (.part member more)) depth
      have earlier : ∃ before, fault.earlierAt depth = .ok before := by
        unfold earlierAt
        split
        · exact ⟨_, rfl⟩
        · next link earlier next =>
            obtain ⟨text, told⟩ := before _ _ next
              (fun _ more => words _ (.earlier next more)) depth
            exact ⟨_, by rw [told]; rfl⟩
      obtain ⟨before, earlierTold⟩ := earlier
      exact ⟨_, toldAt_eq_ok_iff.mpr ⟨before, block, earlierTold, told, rfl⟩⟩

/-! ### Ends -/

theorem endsLine_behind {text : Text} (ends : text.EndsLine) (depth : Nat) :
    (behind depth text).EndsLine :=
  ends.indentedFrom _ _ _

theorem endsLine_ownLines (depth : Nat) (account : Text) (notes : List Text) :
    (ownLines depth account notes).EndsLine := by
  have lines : (notes.flatMap fun note => behind depth (note ++ "\n")) = [] ∨
      Text.EndsLine
        (notes.flatMap fun note => behind depth (note ++ "\n")) := by
    induction notes with
    | nil => exact .inl rfl
    | cons note rest ih =>
        have first := endsLine_behind (Text.endsLine_append note) depth
        rw [List.flatMap_cons]
        rcases ih with none | others
        · rw [none, List.append_nil]
          exact .inr first
        · exact .inr (others.after _)
  rw [ownLines]
  rcases lines with none | ends
  · rw [none, List.append_nil]
    exact endsLine_behind (Text.endsLine_append account) depth
  · exact ends.after _

theorem endsLine_groupEnd (depth : Nat) : (groupEnd depth).EndsLine :=
  Text.EndsLine.after
    (Text.endsLine_append "+------------------------------------") _

/-- Parts that are told end with a line feed if each part does. -/
theorem endsLine_partsAt {depth : Nat} {parts : List Fault}
    (ends : ∀ part ∈ parts, ∀ depth text, part.toldAt depth = .ok text →
      text.EndsLine) {number : Nat} {text : Text} (some : parts ≠ [])
    (told : partsAt depth number parts = .ok text) : text.EndsLine := by
  induction parts generalizing number text with
  | nil => exact absurd rfl some
  | cons part rest ih =>
      rw [List.forall_mem_cons] at ends
      rw [partsAt] at told
      split at told
      · simp only [bind_eq_ok_iff, pure, Except.pure, Except.ok.injEq] at told
        obtain ⟨own, ownTold, others, othersTold, rfl⟩ := told
        have ownEnds := ends.1 _ _ ownTold
        cases rest with
        | nil =>
            cases othersTold
            rw [List.append_nil, if_pos (by rfl), partEnd]
            split
            · rw [List.append_nil]
              exact ownEnds.after _
            · exact (endsLine_groupEnd depth).after _
        | cons next further =>
            exact (ih ends.2 (by simp) othersTold).after _
      · cases told
        exact (endsLine_groupEnd depth).after _

theorem endsLine_blockAt {fault : Fault}
    (ends : ∀ part ∈ fault.shownParts, ∀ depth text,
      part.toldAt depth = .ok text → text.EndsLine)
    {depth : Nat} {text : Text} (told : fault.blockAt depth = .ok text) :
    text.EndsLine := by
  unfold blockAt at told
  split at told
  · obtain ⟨account, -, rfl⟩ := map_eq_ok_iff.mp told
    exact (endsLine_ownLines _ _ _).after _
  · next part rest parts =>
      split at told
      · cases told
        exact endsLine_behind
          (Text.endsLine_append "... (max_group_depth is 10)") depth
      · simp only [bind_eq_ok_iff, pure, Except.pure, Except.ok.injEq] at told
        obtain ⟨account, -, others, othersTold, rfl⟩ := told
        exact (endsLine_partsAt (parts ▸ ends) (by simp) othersTold).after _

/-- What is told of a fault ends with a line feed. -/
theorem endsLine_toldAt {fault : Fault} {depth : Nat} {text : Text}
    (told : fault.toldAt depth = .ok text) : text.EndsLine := by
  induction fault using inductionOnOrigins generalizing depth text with
  | step fault _ parts =>
      obtain ⟨before, own, -, block, rfl⟩ := toldAt_eq_ok_iff.mp told
      refine (endsLine_blockAt ?_ block).after before
      exact fun part member _ _ told => parts part member told

/-! ## Traces -/

theorem trace_eq_ok_iff {fault : Fault} {text : Text} :
    fault.trace = .ok text ↔
      fault.hindrance? = none ∧ fault.toldAt 0 = .ok text := by
  rw [trace]
  split <;> simp_all

/-- A fault has a trace if each fault that it involves can be taken down and has
an account. -/
theorem exists_trace {fault : Fault}
    (free : ∀ other, fault.Involves other → other.condition.hindrance? = none)
    (words : ∀ other, fault.Involves other →
      ∃ account, other.condition.account = .ok account) :
    ∃ text, fault.trace = .ok text := by
  obtain ⟨text, told⟩ := exists_toldAt words 0
  exact ⟨text, trace_eq_ok_iff.mpr
    ⟨(hindrance?_eq_none_iff fault).mpr free, told⟩⟩

/-- A fault that involves none in a source text has a trace. -/
theorem exists_trace_of_ordinary {fault : Fault}
    (ordinary : ∀ other, fault.Involves other →
      other.condition.isSource = false) :
    ∃ text, fault.trace = .ok text :=
  exists_trace
    (fun _ involved => Condition.hindrance?_of_ordinary (ordinary _ involved))
    (fun _ involved =>
      ⟨_, Condition.account_eq_inBrief (ordinary _ involved)⟩)

/-- A fault that arose amid another one, and lies in no source text, has a trace
exactly if that one has: it leads back to it, so that both are taken down and
told together. -/
theorem exists_trace_amid_iff {fault second : Fault}
    (ordinary : second.condition.isSource = false)
    (full : second.hollow = false) (causeless : second.cause = none)
    (shown : second.contextHidden = false) (single : second.parts = []) :
    (∃ text, (second.amid fault).trace = .ok text) ↔
      ∃ text, fault.trace = .ok text := by
  have next : (second.amid fault).next? = some (.context, fault) := by
    simp only [next?, amid, full, causeless, shown]
  have alone : (second.amid fault).shownParts = [] := by
    simp [shownParts, amid, single]
  have taken : (second.amid fault).hindrance? = none ↔
      fault.hindrance? = none := by
    have own : (second.amid fault).condition.hindrance? = none :=
      Condition.hindrance?_of_ordinary ordinary
    rw [hindrance?, Option.or_eq_none_iff, earlierHindrance?_eq_none_iff, next,
      alone]
    simp [own]
  have earlier : (second.amid fault).earlierAt 0 =
      (fault.toldAt 0).map (· ++ behind 0 Link.context.sentence) := by
    rw [earlierAt, next]
  have partless : ∀ part ∈ (second.amid fault).shownParts, ∀ depth,
      ∃ text, part.toldAt depth = .ok text := by
    rw [alone]
    exact List.forall_mem_nil _
  obtain ⟨block, blockTold⟩ :=
    exists_blockAt (Condition.account_eq_inBrief ordinary) partless 0
  simp only [trace_eq_ok_iff, exists_and_left, taken]
  refine and_congr_right fun _ => ⟨?_, ?_⟩
  · rintro ⟨_, told⟩
    obtain ⟨before, _, earlierTold, -, -⟩ := toldAt_eq_ok_iff.mp told
    rw [earlier] at earlierTold
    obtain ⟨text, same, -⟩ := map_eq_ok_iff.mp earlierTold
    exact ⟨text, same⟩
  · rintro ⟨text, told⟩
    rw [told] at earlier
    exact ⟨_, toldAt_eq_ok_iff.mpr ⟨_, block, earlier, blockTold, rfl⟩⟩

/-- Every trace ends with a line feed. -/
theorem endsLine_trace {fault : Fault} {text : Text}
    (told : fault.trace = .ok text) : text.EndsLine :=
  endsLine_toldAt (trace_eq_ok_iff.mp told).2

/-- The same for a fault that may be absent. -/
theorem exists_traceOf {fault : Option Fault}
    (ordinary : ∀ present ∈ fault, ∀ other, Involves present other →
      other.condition.isSource = false) :
    ∃ trace, traceOf fault = .ok trace := by
  cases fault with
  | none => exact ⟨[], rfl⟩
  | some present => exact exists_trace_of_ordinary (ordinary present rfl)

/-- Only where there is no fault there is an empty trace. -/
theorem traceOf_eq_nil_iff {fault : Option Fault} :
    traceOf fault = .ok [] ↔ fault = none := by
  cases fault with
  | none => exact ⟨fun _ => rfl, fun _ => rfl⟩
  | some present =>
      exact ⟨fun empty => absurd rfl (endsLine_trace empty).ne_nil, nofun⟩

end Fault

end ResponseService
