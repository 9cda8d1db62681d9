import ResponseService.Response.Buffer
import ResponseService.Response.Writer

/-!
# How deliveries end

`Sink.Takes` says that a sink takes some emissions one after the other and is
in some state then.  A delivery ends in one of two ways (`deliver_cases`): the
sink takes everything, or it takes a first part and refuses what comes next.

From this follows how a call of `write` ends.  One that ends without a fault
has a schema if one is asked for, and everything was taken
(`accepted_of_no_fault`).  A sink that refuses nothing lets every call with a
schema end in this way (`no_fault_of_accepting`).
-/

namespace ResponseService

namespace Sink

variable {State : Type}

/-- The sink takes the emissions one after the other. -/
inductive Takes (sink : Sink State) : State → List Emission → State → Prop where
  | nil {state : State} : Takes sink state [] state
  | cons {state next last : State} {emission : Emission}
      {rest : List Emission}
      (head : sink.take state emission = .ok next)
      (tail : Takes sink next rest last) :
      Takes sink state (emission :: rest) last

/-- The sink refuses nothing. -/
def IsAccepting (sink : Sink State) : Prop :=
  ∀ state emission, ∃ next, sink.take state emission = .ok next

variable (sink : Sink State)

theorem deliver_of_refused {state : State} {emission : Emission}
    {fault : Fault} (refused : sink.take state emission = .error fault)
    (rest : List Emission) :
    sink.deliver state (emission :: rest) =
      ⟨[], some (emission, fault), rest, state⟩ := by
  simp only [deliver, refused]

theorem deliver_of_taken {state next : State} {emission : Emission}
    (taken : sink.take state emission = .ok next) (rest : List Emission) :
    sink.deliver state (emission :: rest) =
      { sink.deliver next rest with
        accepted := emission :: (sink.deliver next rest).accepted } := by
  simp only [deliver, taken]

/-- Everything is taken, or a first part is and what comes next is refused. -/
theorem deliver_cases (state : State) (emissions : List Emission) :
    (∃ last, sink.Takes state emissions last ∧
      sink.deliver state emissions = ⟨emissions, none, [], last⟩) ∨
    ∃ before emission after reached fault,
      emissions = before ++ emission :: after ∧
        sink.Takes state before reached ∧
        sink.take reached emission = .error fault ∧
        sink.deliver state emissions =
          ⟨before, some (emission, fault), after, reached⟩ := by
  induction emissions generalizing state with
  | nil => exact Or.inl ⟨state, .nil, rfl⟩
  | cons emission rest ih =>
      cases head : sink.take state emission with
      | error fault =>
          exact Or.inr ⟨[], emission, rest, state, fault, rfl, .nil, head,
            sink.deliver_of_refused head rest⟩
      | ok next =>
          rw [sink.deliver_of_taken head rest]
          rcases ih next with
            ⟨last, taken, delivered⟩ |
              ⟨before, refused, after, reached, fault, split, taken, error,
                delivered⟩
          · rw [delivered]
            exact Or.inl ⟨last, .cons head taken, rfl⟩
          · rw [delivered, split]
            exact Or.inr ⟨emission :: before, refused, after, reached, fault,
              rfl, .cons head taken, error, rfl⟩

theorem deliver_of_not_refused {state : State} {emissions : List Emission}
    (notRefused : (sink.deliver state emissions).refused = none) :
    (sink.deliver state emissions).accepted = emissions := by
  rcases sink.deliver_cases state emissions with
    ⟨last, _, delivered⟩ | ⟨_, _, _, _, _, _, _, _, delivered⟩
  · rw [delivered]
  · rw [delivered] at notRefused
    cases notRefused

theorem IsAccepting.not_refused {sink : Sink State}
    (accepting : sink.IsAccepting) (state : State)
    (emissions : List Emission) :
    (sink.deliver state emissions).refused = none := by
  rcases sink.deliver_cases state emissions with
    ⟨last, _, delivered⟩ |
      ⟨_, emission, _, reached, fault, _, _, error, delivered⟩
  · rw [delivered]
  · rcases accepting reached emission with ⟨next, taken⟩
    rw [error] at taken
    cases taken

end Sink

theorem ResponseBuffer.sink_isAccepting : ResponseBuffer.sink.IsAccepting :=
  fun buffer emission => ⟨buffer.add emission, rfl⟩

/-- The client asks for the schema of the body. -/
def ResponseFormat.Asks (format : ResponseFormat) : Prop :=
  format.isJson = true ∧ format.wantsSchema = true

namespace ResponseWriter

theorem schema?_of_asks {format : ResponseFormat} (asks : format.Asks)
    (body : Text) :
    schema? format body = (describe body).map some := by
  simp [schema?, ResponseFormat.sendsSchema, asks.1, asks.2]

theorem schema?_of_not_asks {format : ResponseFormat} (unasked : ¬format.Asks)
    (body : Text) : schema? format body = .ok none := by
  rw [schema?, ResponseFormat.sendsSchema, if_neg]
  rwa [Bool.and_eq_true]

theorem schema?_eq_ok_iff {format : ResponseFormat} {body : Text}
    {schema : Option Text} :
    schema? format body = .ok schema ↔
      (∃ text, format.Asks ∧ describe body = .ok text ∧ schema = some text) ∨
        ¬format.Asks ∧ schema = none := by
  by_cases asks : format.Asks
  · rw [schema?_of_asks asks]
    cases describe body <;> simp [Except.map, asks, eq_comm]
  · rw [schema?_of_not_asks asks]
    simp [asks, eq_comm]

theorem schema?_eq_error_iff {format : ResponseFormat} {body : Text}
    {fault : Fault} :
    schema? format body = .error fault ↔
      format.Asks ∧ describe body = .error fault := by
  by_cases asks : format.Asks
  · rw [schema?_of_asks asks]
    cases describe body <;> simp [Except.map, asks]
  · rw [schema?_of_not_asks asks]
    simp [asks]

/-- The schema is known where the body has one if one is asked for. -/
theorem exists_schema? {format : ResponseFormat} {body : Text}
    (describable : format.Asks → ∃ schema, describe body = .ok schema) :
    ∃ schema, schema? format body = .ok schema := by
  by_cases asks : format.Asks
  · obtain ⟨schema, described⟩ := describable asks
    rw [schema?_of_asks asks, described]
    exact ⟨some schema, rfl⟩
  · exact ⟨none, schema?_of_not_asks asks _⟩

variable {State : Type} {writer : ResponseWriter} {sink : Sink State}
  {state : State} {status : Int} {format : ResponseFormat} {body : Text}

theorem write_of_undescribed {fault : Fault}
    (undescribed : schema? format body = .error fault) :
    writer.write sink state status format body =
      ⟨.nothing state, [], some fault⟩ := by
  simp only [write, emissions, undescribed, Except.map]

/-- A call that needs the description of a body that has none hands nothing
over. -/
theorem write_of_describe_error {fault : Fault}
    (undescribed : describe body = .error fault) :
    writer.write sink state status ⟨true, true⟩ body =
      ⟨.nothing state, [], some fault⟩ :=
  write_of_undescribed (schema?_eq_error_iff.mpr ⟨⟨rfl, rfl⟩, undescribed⟩)

/-- A call whose schema is known delivers the emissions with this schema. -/
theorem delivery_of_schema {schema : Option Text}
    (described : schema? format body = .ok schema) :
    (writer.write sink state status format body).delivery =
      sink.deliver state
        (writer.emissionsWith status format schema (payload body)) := by
  simp only [write, emissions, described, Except.map]
  split <;> rfl

/-- What such a call hands over is a first part of these emissions. -/
theorem offered_isPrefix_of_schema {schema : Option Text}
    (described : schema? format body = .ok schema) :
    (writer.write sink state status format body).delivery.offered <+:
      writer.emissionsWith status format schema (payload body) := by
  rw [delivery_of_schema described]
  exact ⟨_, Delivery.accepted_append_remaining sink state _⟩

theorem fault_of_schema {schema : Option Text}
    (described : schema? format body = .ok schema) :
    (writer.write sink state status format body).fault =
      (sink.deliver state
        (writer.emissionsWith status format schema (payload body))).refused.map
          Prod.snd := by
  simp only [write, emissions, described, Except.map]
  split
  · next refused => simp [refused]
  · next complete => simp [complete]

/-- A call that ends without a fault has a schema if one is asked for, and all
its emissions were taken. -/
theorem accepted_of_no_fault
    (complete : (writer.write sink state status format body).fault = none) :
    ∃ schema, schema? format body = .ok schema ∧
      (writer.write sink state status format body).delivery.accepted =
        writer.emissionsWith status format schema (payload body) := by
  cases described : schema? format body with
  | error fault =>
      rw [write_of_undescribed described] at complete
      cases complete
  | ok schema =>
      refine ⟨schema, rfl, ?_⟩
      rw [fault_of_schema described, Option.map_eq_none_iff] at complete
      rw [delivery_of_schema described]
      exact sink.deliver_of_not_refused complete

theorem no_fault_of_accepting (accepting : sink.IsAccepting)
    {schema : Option Text} (described : schema? format body = .ok schema) :
    (writer.write sink state status format body).fault = none := by
  rw [fault_of_schema described, accepting.not_refused, Option.map_none]

end ResponseWriter

end ResponseService
