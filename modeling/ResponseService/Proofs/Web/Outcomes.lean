import ResponseService.Proofs.Fault.Trace
import ResponseService.Proofs.Response.Envelopes
import ResponseService.Proofs.Schema.Failures
import ResponseService.Web.Application

/-!
# What requests are to be answered with

A request that has a route is to be answered with what its endpoint sends, or
with a report for the fault for which the endpoint has failed
(`Application.Answered`).  A fault that has an answer of its own may lack the
words for it; the lack is then reported in its place (`Application.Reports`).

A fault may be one that cannot be reported (`Application.Unreportable`): the
path that every report needs cannot be shown, the body is to tell a trace that
there is not, or a fault that is told by its message has none.  There is no
fourth reason (`reported_or_unreportable`).  To report the failure of the report
in its place would not help, as the first fault is part of the second
(`untold_secondFault`).
-/

namespace ResponseService

/-! ## Kinds of conditions -/

namespace Condition

/-- The condition has an answer of its own. -/
def isKnown : Condition → Bool
  | .service _ | .invalidRequest _ => true
  | _ => false

/-- The condition is left to the framework. -/
def isHttp : Condition → Bool
  | .http _ => true
  | _ => false

/-- A body cannot be read or described, or it holds an integer of too many
digits. -/
inductive LacksSchema : Condition → Prop where
  | problem (text : Text) (position : Option Int) :
      LacksSchema (.service (.schemaInference text position))
  | oversized (digits : Nat) : LacksSchema (.oversized digits)

theorem LacksSchema.kind_eq {condition : Condition}
    (lacks : condition.LacksSchema) : condition.kind = .failure := by
  cases lacks <;> rfl

theorem LacksSchema.isHttp_eq {condition : Condition}
    (lacks : condition.LacksSchema) : condition.isHttp = false := by
  cases lacks <;> rfl

end Condition

namespace Fault

@[simp]
theorem condition_along (way : Condition → Text) (fault : Fault) :
    (fault.along way).condition = fault.condition := by
  cases fault
  rw [along.eq_def]

/-- Nothing that was read from a text is foreign to a document, so these are
the only reasons for which a body has no schema. -/
theorem lacksSchema_of_describe {body : Text} {fault : Fault}
    (undescribed : describe body = .error fault) :
    fault.condition.LacksSchema := by
  rcases describe_failure undescribed with problem | ⟨digits, _, rfl⟩
  · cases problem <;> exact .problem _ _
  · exact .oversized digits

/-- The status and the message with which a fault is reported. -/
inductive ReportedAs (fault : Fault) (method path : Text) :
    Int → Text → Prop where
  | service {error : ServiceError} {message : Text}
      (known : fault.condition = .service error)
      (worded : error.errorMessage = .ok message) :
      ReportedAs fault method path error.status message
  | invalidRequest {invalid : InvalidRequest} {listing message : Text}
      (known : fault.condition = .invalidRequest invalid)
      (listed : invalid.listing = .ok listing)
      (worded : ParameterIssue.summary invalid.issues = .ok message) :
      ReportedAs fault method path 400 message
  | other {words : Text}
      (unknown : fault.condition.isKnown = false)
      (worded : fault.message = .ok words) :
      ReportedAs fault method path 500
        (Application.failureMessage method path words)

/-- A fault with an answer of its own lacks the words for the answer, or for
what is to be logged of it. -/
inductive LacksWords (fault : Fault) : Mishap → Prop where
  | service {error : ServiceError} {mishap : Mishap}
      (known : fault.condition = .service error)
      (wordless : error.errorMessage = .error mishap) :
      LacksWords fault mishap
  | unlisted {invalid : InvalidRequest} {mishap : Mishap}
      (known : fault.condition = .invalidRequest invalid)
      (unlisted : invalid.listing = .error mishap) :
      LacksWords fault mishap
  | unsummed {invalid : InvalidRequest} {listing : Text} {mishap : Mishap}
      (known : fault.condition = .invalidRequest invalid)
      (listed : invalid.listing = .ok listing)
      (wordless : ParameterIssue.summary invalid.issues = .error mishap) :
      LacksWords fault mishap

/-- A fault is reported with words, or it is known which words are lacking. -/
theorem reportedAs_or_lacksWords (fault : Fault) (method path : Text) :
    (∃ status message, fault.ReportedAs method path status message) ∨
      (∃ mishap, fault.LacksWords mishap) ∨
        fault.condition.isKnown = false ∧
          ∃ mishap, fault.message = .error mishap := by
  cases known : fault.condition with
  | service error =>
      cases worded : error.errorMessage with
      | ok message => exact .inl ⟨_, _, .service known worded⟩
      | error mishap => exact .inr (.inl ⟨mishap, .service known worded⟩)
  | invalidRequest invalid =>
      cases listed : invalid.listing with
      | error mishap => exact .inr (.inl ⟨mishap, .unlisted known listed⟩)
      | ok listing =>
          cases worded : ParameterIssue.summary invalid.issues with
          | ok message =>
              exact .inl ⟨_, _, .invalidRequest known listed worded⟩
          | error mishap =>
              exact .inr (.inl ⟨mishap, .unsummed known listed worded⟩)
  | _ =>
      have unknown : fault.condition.isKnown = false := by rw [known]; rfl
      cases worded : fault.message with
      | ok words => exact .inl ⟨_, _, .other unknown worded⟩
      | error mishap => exact .inr (.inr ⟨rfl, mishap, rfl⟩)

/-- A missing schema is reported with status 500. -/
theorem ReportedAs.status_eq_of_lacksSchema {fault : Fault}
    {method path : Text} {status : Int} {message : Text}
    (report : fault.ReportedAs method path status message)
    (lacks : fault.condition.LacksSchema) : status = 500 := by
  cases report with
  | service known _ =>
      rw [known] at lacks
      cases lacks
      rfl
  | invalidRequest known _ _ =>
      rw [known] at lacks
      cases lacks
  | other _ _ => rfl

end Fault

/-! ## What is to be answered -/

namespace Outcome

/-- The endpoint has a status and a body to send. -/
inductive Sends (format : ResponseFormat) : Outcome → Int → Text → Prop where
  | success (status : Int) (message : Text) :
      Sends format (.success status message) status
        (Envelope.successBody format.isJson message)
  | error {status : Int} {fault : Option Fault} {message : Option Text}
      {body : Text}
      (made : Envelope.errorBody format.isJson fault message = .ok body) :
      Sends format (.error status fault message) status body
  | body {status : Int} {body : Text}
      (describable : format.Asks → ∃ schema, describe body = .ok schema) :
      Sends format (.body status body) status body

/-- The endpoint orders the program to end. -/
def IsOrder : Outcome → Prop
  | .failure fault => fault.condition.kind = .order
  | _ => False

/-- The endpoint has a response that the writer does not make. -/
def IsPage : Outcome → Prop
  | .page _ => True
  | _ => False

end Outcome

namespace Application

variable (application : Application) (request : Request)

/-- The endpoint fails, or what it has to send cannot be made or lacks the
schema that is asked for. -/
inductive Fails : Outcome → Fault → Prop where
  | raised {fault : Fault} (failure : fault.condition.kind = .failure) :
      Fails (.failure fault) fault
  | exhausted {fault : Fault} (yielded : fault.condition.kind = .exhaustion) :
      Fails (.failure fault) (application.ended request fault)
  | unmade {status : Int} {fault : Option Fault} {message : Option Text}
      {mishap : Mishap}
      (unmade : Envelope.errorBody (ResponseFormat.ofQuery request.query).isJson
        fault message = .error mishap) :
      Fails (.error status fault message)
        ((Fault.ofMishap mishap).along (application.framework.way request))
  | undescribed {status : Int} {body : Text} {fault : Fault}
      (asks : (ResponseFormat.ofQuery request.query).Asks)
      (undescribed : describe body = .error fault) :
      Fails (.body status body)
        (fault.along (application.framework.way request))

/-- What is reported for a fault: the fault itself, or the lack of the words for
its answer, which arose amid it. -/
inductive Reports (fault : Fault) : Fault → Prop where
  | itself (worded : ∀ mishap, ¬fault.LacksWords mishap) :
      Reports fault fault
  | lack {mishap : Mishap} (lacks : fault.LacksWords mishap) :
      Reports fault (application.secondFault request fault (.ofMishap mishap))

/-- The status and the body that a client is to get for an outcome: what the
endpoint sends, or the report for the fault for which it fails. -/
inductive Answered (outcome : Outcome) : Int → Text → Prop where
  | sent {status : Int} {body : Text}
      (sends :
        outcome.Sends (ResponseFormat.ofQuery request.query) status body) :
      Answered outcome status body
  | reported {fault told : Fault} {path message body : Text} {status : Int}
      (fails : application.Fails request outcome fault)
      (own : fault.condition.isHttp = false)
      (shown : application.framework.shownPath request = .ok path)
      (reports : application.Reports request fault told)
      (report : told.ReportedAs request.method path status message)
      (made : Envelope.errorBody (ResponseFormat.ofQuery request.query).isJson
        (some told) (some message) = .ok body) :
      Answered outcome status body

/-- A fault cannot be reported. -/
inductive Unreportable (fault : Fault) : Prop where
  /-- The path cannot be shown. -/
  | unshown {condition : Condition}
      (unshown : application.framework.shownPath request = .error condition)
  /-- The body is to tell the trace of the fault, which has none. -/
  | untold {mishap : Mishap}
      (isJson : (ResponseFormat.ofQuery request.query).isJson = true)
      (untold : fault.trace = .error mishap)
  /-- The fault is told by its message, which it has not. -/
  | wordless {mishap : Mishap}
      (unknown : fault.condition.isKnown = false)
      (wordless : fault.message = .error mishap)

/-- There is no further way for an endpoint to end. -/
theorem sends_or_fails (outcome : Outcome) :
    (∃ status body,
        outcome.Sends (ResponseFormat.ofQuery request.query) status body) ∨
      (∃ fault, application.Fails request outcome fault) ∨
        outcome.IsOrder ∨ outcome.IsPage := by
  cases outcome with
  | success status message => exact .inl ⟨_, _, .success status message⟩
  | error status fault message =>
      cases made : Envelope.errorBody
          (ResponseFormat.ofQuery request.query).isJson fault message with
      | ok body => exact .inl ⟨_, _, .error made⟩
      | error mishap => exact .inr (.inl ⟨_, .unmade made⟩)
  | body status body =>
      cases described : describe body with
      | ok schema => exact .inl ⟨_, _, .body fun _ => ⟨schema, described⟩⟩
      | error fault =>
          by_cases asks : (ResponseFormat.ofQuery request.query).Asks
          · exact .inr (.inl ⟨_, .undescribed asks described⟩)
          · exact .inl ⟨_, _, .body fun asked => absurd asked asks⟩
  | page response => exact .inr (.inr (.inr trivial))
  | failure fault =>
      cases kind : fault.condition.kind with
      | failure => exact .inr (.inl ⟨_, .raised kind⟩)
      | exhaustion => exact .inr (.inl ⟨_, .exhausted kind⟩)
      | order => exact .inr (.inr (.inl kind))

variable {application : Application} {request : Request} {outcome : Outcome}

theorem Fails.kind_eq {fault : Fault}
    (fails : application.Fails request outcome fault) :
    fault.condition.kind = .failure := by
  cases fails with
  | raised failure => exact failure
  | exhausted yielded =>
      rw [ended, if_pos yielded]
      rfl
  | unmade _ => rw [Fault.condition_along]; rfl
  | undescribed _ undescribed =>
      rw [Fault.condition_along]
      exact (Fault.lacksSchema_of_describe undescribed).kind_eq

/-- The body of a report can be made, or it is to tell a trace that there is
not. -/
theorem made_or_untold (request : Request) (fault : Fault)
    (message : Option Text) :
    (∃ body,
        Envelope.errorBody (ResponseFormat.ofQuery request.query).isJson
          (some fault) message = .ok body) ∨
      (ResponseFormat.ofQuery request.query).isJson = true ∧
        ∃ mishap, fault.trace = .error mishap := by
  cases made : Envelope.errorBody (ResponseFormat.ofQuery request.query).isJson
      (some fault) message with
  | ok body => exact .inl ⟨body, rfl⟩
  | error mishap =>
      rw [Envelope.errorBody] at made
      split at made
      · next isJson =>
          exact .inr ⟨isJson, mishap,
            Envelope.errorText_eq_error_iff.mp made⟩
      · cases made

@[simp]
theorem condition_secondFault (fault : Fault) (condition : Condition) :
    (application.secondFault request fault condition).condition = condition :=
  Fault.condition_along _ _

/-- A mishap that arose amid a fault has a trace exactly if the fault has. -/
theorem exists_trace_secondFault_iff {fault : Fault} {mishap : Mishap} :
    (∃ text,
        (application.secondFault request fault (.ofMishap mishap)).trace =
          .ok text) ↔
      ∃ text, fault.trace = .ok text :=
  Fault.exists_trace_amid_iff rfl rfl rfl rfl rfl

theorem untold_secondFault {fault : Fault} {mishap : Mishap}
    (untold : fault.trace = .error mishap) (second : Mishap) :
    ∃ other,
      (application.secondFault request fault (.ofMishap second)).trace =
        .error other := by
  cases told :
      (application.secondFault request fault (.ofMishap second)).trace with
  | error other => exact ⟨other, rfl⟩
  | ok text =>
      obtain ⟨first, firstTold⟩ := exists_trace_secondFault_iff.mp ⟨text, told⟩
      rw [untold] at firstTold
      cases firstTold

/-- A fault can be reported, or it is known why not. -/
theorem reported_or_unreportable {fault : Fault}
    (fails : application.Fails request outcome fault)
    (own : fault.condition.isHttp = false) :
    (∃ status body, application.Answered request outcome status body) ∨
      application.Unreportable request fault := by
  cases shown : application.framework.shownPath request with
  | error condition => exact .inr (.unshown shown)
  | ok path =>
      by_cases worded : ∀ mishap, ¬fault.LacksWords mishap
      · rcases fault.reportedAs_or_lacksWords request.method path with
          ⟨status, message, report⟩ | ⟨mishap, lacks⟩ |
            ⟨unknown, mishap, wordless⟩
        · rcases made_or_untold request fault (some message) with
            ⟨body, made⟩ | ⟨isJson, mishap, untold⟩
          · exact .inl
              ⟨_, _, .reported fails own shown (.itself worded) report made⟩
          · exact .inr (.untold isJson untold)
        · exact absurd lacks (worded mishap)
        · exact .inr (.wordless unknown wordless)
      · obtain ⟨mishap, lacks⟩ := not_forall_not.mp worded
        -- The lack has words of its own, and a trace if the fault has one.
        have report : Fault.ReportedAs
            (application.secondFault request fault (.ofMishap mishap))
            request.method path 500
            (failureMessage request.method path mishap.message) :=
          .other rfl rfl
        rcases made_or_untold request
            (application.secondFault request fault (.ofMishap mishap))
            (some (failureMessage request.method path mishap.message)) with
          ⟨body, made⟩ | ⟨isJson, other, untold⟩
        · exact .inl
            ⟨_, _, .reported fails own shown (.lack lacks) report made⟩
        · cases told : fault.trace with
          | error first => exact .inr (.untold isJson told)
          | ok text =>
              obtain ⟨second, secondTold⟩ :=
                exists_trace_secondFault_iff.mpr ⟨text, told⟩
              rw [untold] at secondTold
              cases secondTold

end Application

end ResponseService
