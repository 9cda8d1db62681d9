import ResponseService.Proofs.Web.Answers

/-!
# Responses that tell of the service

A response tells of the service if it holds both headers of the identity, and
the three headers of the policy for other origins exactly if that is enabled
(`Response.Identifies`).  Whatever the writer has made does
(`Carries.identifies`), and so does the answer to every request that has a
route, the reports of faults included, unless the endpoint leaves the answer to
the framework (`Outcome.Leaves`): it is then the framework's, as it is.

The answers to requests without a route are not made by the writer: neither the
address of another path nor the document that tells why there is no route has
any of these headers.  So of the requests that no endpoint leaves to the
framework exactly those with a route are answered by a response that tells of
the service (`identified_iff_routed`).  The pages that document the service are
left to the framework by the service itself (`leaves_of_pageRoute`).
-/

namespace ResponseService

/-! ## Headers of the service -/

namespace Settings

/-- The headers of the identity, as they are sent. -/
def identityFields (settings : Settings) : Headers :=
  [("cruise-control-version", settings.serviceVersion),
    ("cruise-control-commit_id", settings.commitId)]

/-- The headers of an enabled policy for other origins, as they are sent. -/
def policyFields (settings : Settings) : Headers :=
  [("access-control-allow-origin", settings.corsOrigin),
    ("access-control-expose-headers", settings.corsExposeHeaders),
    ("access-control-allow-credentials", "true")]

end Settings

namespace Response

/-- The names of the headers of the identity. -/
def identityNames : List Text :=
  ["cruise-control-version", "cruise-control-commit_id"]

/-- The names of the headers of the policy. -/
def policyNames : List Text :=
  ["access-control-allow-origin", "access-control-expose-headers",
    "access-control-allow-credentials"]

/-- The response has no header of one of these names. -/
def Lacks (response : Response) (names : List Text) : Prop :=
  ∀ name ∈ names, name ∉ Ordered.names response.headers

/-- The response holds both headers of the identity, and all headers of the
policy if that is enabled and none of them otherwise. -/
structure Identifies (response : Response) (settings : Settings) : Prop where
  identity : settings.identityFields ⊆ response.headers
  policy : settings.corsEnabled = true →
    settings.policyFields ⊆ response.headers
  unrestricted : settings.corsEnabled = false → response.Lacks policyNames

theorem Lacks.of_append {response : Response} {left right : List Text}
    (lacks : response.Lacks (left ++ right)) : response.Lacks left :=
  fun name member => lacks name (List.mem_append_left _ member)

theorem Lacks.not_identifies {response : Response}
    (lacks : response.Lacks identityNames) (settings : Settings) :
    ¬response.Identifies settings := by
  intro identifies
  have present : (("cruise-control-version" : Text), settings.serviceVersion) ∈
      response.headers := identifies.identity List.mem_cons_self
  exact lacks _ List.mem_cons_self
    (List.mem_map.mpr ⟨_, present, rfl⟩)

/-- The names of further headers. -/
def furtherNames : List Text :=
  ["content-type", "content-length", "cruise-control-json-schema", "allow",
    "location"]

theorem apart_furtherNames :
    (∀ name ∈ identityNames ++ policyNames, name ∉ furtherNames) ∧
      ∀ name ∈ policyNames, name ∉ identityNames := by
  decide +kernel

/-- What the writer has made tells of the service. -/
theorem Carries.identifies {response : Response} {settings : Settings}
    {format : ResponseFormat} {status : Int} {body : Text}
    (carries : response.Carries
      ⟨settings.corsPolicy, settings.serviceIdentity⟩ format status body) :
    response.Identifies settings := by
  obtain ⟨schema, _, headers⟩ := carries.headers_eq
  constructor
  · simp [headers, ResponseWriter.sentFields, Settings.serviceIdentity,
      Settings.identityFields]
  · intro enabled
    simp [headers, ResponseWriter.sentFields, Settings.corsPolicy,
      Settings.policyFields, enabled]
  · intro disabled
    have closed : ∀ name ∈ Ordered.names response.headers,
        name ∈ furtherNames ∨ name ∈ identityNames := by
      rw [headers]
      cases schema <;>
        simp [ResponseWriter.sentFields, Settings.corsPolicy, disabled,
          Ordered.names, furtherNames, identityNames, ResponseBuffer.lengthName]
    intro name member inside
    rcases closed name inside with further | identity
    · exact apart_furtherNames.1 name (List.mem_append_right _ member) further
    · exact apart_furtherNames.2 name member identity

/-- A response that has further headers only tells nothing of the service. -/
theorem lacks_of_subset {response : Response}
    (further : Ordered.names response.headers ⊆ furtherNames) :
    response.Lacks (identityNames ++ policyNames) :=
  fun name member inside =>
    apart_furtherNames.1 name member (further inside)

end Response

/-- The endpoint leaves the answer to the framework: it has a response that the
writer does not make, or it fails with an error of the framework. -/
inductive Outcome.Leaves (framework : Framework) :
    Outcome → Response → Prop where
  | page (response : Response) : Leaves framework (.page response) response
  | http {fault : Fault} {error : HttpError}
      (known : fault.condition = .http error) :
      Leaves framework (.failure fault) (framework.refusal error)

namespace Application

variable {application : Application} {request : Request}

/-! ## Requests without a route -/

/-- A request without a route is answered, if at all, with the address of
another path or with a document that tells why, and without any header of the
service. -/
theorem lacks_of_routeless
    (routeless : ∀ route, Route.find application.routes request ≠ .found route)
    {response : Response}
    (answered : (application.handle request).response = some response) :
    response.Lacks (Response.identityNames ++ Response.policyNames) ∧
      response.status ∈ [307, 404, 405] := by
  rw [handle] at answered
  split at answered
  · next route found => exact absurd found (routeless route)
  · cases answered
    have names : (["allow", "content-length", "content-type"] : List Text) ⊆
        Response.furtherNames := by decide
    exact ⟨Response.lacks_of_subset names, by simp [Framework.detailResponse]⟩
  · rw [redirect] at answered
    split at answered
    · cases answered
      have names : (["content-length", "location"] : List Text) ⊆
          Response.furtherNames := by decide
      exact ⟨Response.lacks_of_subset names, by simp⟩
    · cases answered
  · cases answered
    have names : (["content-length", "content-type"] : List Text) ⊆
        Response.furtherNames := by decide
    exact ⟨Response.lacks_of_subset names, by simp [Framework.detailResponse]⟩

/-! ## Requests with a route -/

/-- What is left to the framework is answered as the framework does. -/
theorem response_of_leaves {route : Route}
    (found : Route.find application.routes request = .found route)
    {response : Response}
    (leaves :
      (route.endpoint request).Leaves application.framework response) :
    (application.handle request).response = some response := by
  generalize outcome : route.endpoint request = ended at leaves
  cases leaves with
  | page response => exact response_of_page found outcome
  | http known => exact response_of_http found outcome known

/-- A request with a route is answered, if at all, with what its endpoint sends
or with the report of its fault, if the answer is not left to the framework. -/
theorem answered_of_response {route : Route}
    (found : Route.find application.routes request = .found route)
    {response : Response}
    (sent : (application.handle request).response = some response)
    (kept : ∀ other,
      ¬(route.endpoint request).Leaves application.framework other) :
    ∃ status body,
      application.Answered request (route.endpoint request) status body := by
  rcases sends_or_fails application request (route.endpoint request) with
    ⟨status, body, sends⟩ | ⟨fault, fails⟩ | order | page
  · exact ⟨status, body, .sent sends⟩
  · cases http : fault.condition.isHttp with
    | true =>
        obtain ⟨error, outcome, known⟩ := fails.of_isHttp http
        rw [outcome] at kept
        exact absurd (.http known) (kept _)
    | false =>
        rcases reported_or_unreportable fails http with answered | unreportable
        · exact answered
        · rw [handle_of_fails found fails,
            unanswered_of_unreportable fails.kind_eq http unreportable] at sent
          cases sent
  · rw [unanswered_of_isOrder found order] at sent
    cases sent
  · cases outcome : route.endpoint request with
    | page other =>
        rw [outcome] at kept
        exact absurd (.page other) (kept other)
    | _ => rw [outcome] at page; exact page.elim

/-- The service leaves the pages that document it to the framework. -/
theorem leaves_of_pageRoute {framework : Framework} {route : Route}
    (member : route ∈ pageRoutes framework) (request : Request) :
    (route.endpoint request).Leaves framework (framework.page request) := by
  obtain ⟨path, -, rfl⟩ := List.mem_map.mp member
  exact .page _

/-! ## All requests -/

theorem framework_of_create {framework : Framework} {settings : Settings}
    {further : List Route}
    (created : create framework settings further = .ok application) :
    application.framework = framework := by
  rw [create] at created
  split at created <;> cases created
  rfl

/-- An answer that is not left to the framework tells of the service exactly if
the request has a route: it is then what the writer has made of what the
endpoint sends, or of the fault for which it fails, and it tells of the service
also with any other text in the place of a trace.  What is left to the framework
is answered as the framework does, the pages that document the service among it.
To a request without a route the answer is a redirection, or says that there is
no such path or method, and has no header of the service. -/
theorem identified_iff_routed {framework : Framework} {settings : Settings}
    {further : List Route} {application : Application} {request : Request}
    {response : Response}
    (created : create framework settings further = .ok application)
    (sendable : ResponseWriter.IsSendable
      ⟨settings.corsPolicy, settings.serviceIdentity⟩)
    (sent : (application.handle request).response = some response) :
    ((∀ route, Route.find application.routes request = .found route →
        ∀ other, ¬(route.endpoint request).Leaves framework other) →
      (response.Identifies settings ↔
        ∃ route, Route.find application.routes request = .found route)) ∧
    (∀ route, Route.find application.routes request = .found route →
      (∀ other, ¬(route.endpoint request).Leaves framework other) →
        ∃ status body,
          application.Answered request (route.endpoint request) status body ∧
            response.Carries ⟨settings.corsPolicy, settings.serviceIdentity⟩
              (ResponseFormat.ofQuery request.query) status body) ∧
    (∀ route other, Route.find application.routes request = .found route →
      (route.endpoint request).Leaves framework other → response = other) ∧
    (∀ route ∈ pageRoutes framework,
      (route.endpoint request).Leaves framework (framework.page request)) ∧
    ((∀ route, Route.find application.routes request ≠ .found route) →
      response.Lacks (Response.identityNames ++ Response.policyNames) ∧
        response.status ∈ [307, 404, 405]) ∧
    (∀ status wantsSchema trace message, ∃ report,
      responseOf
          (ResponseWriter.writeTrace
            ⟨settings.corsPolicy, settings.serviceIdentity⟩ .empty status
            ResponseBuffer.sink ⟨true, wantsSchema⟩ trace message) =
        .ok report ∧
      report.Identifies settings) := by
  have writer := writer_of_create created
  have same := framework_of_create created
  have routed : ∀ route, Route.find application.routes request = .found route →
      (∀ other, ¬(route.endpoint request).Leaves framework other) →
      ∃ status body,
        application.Answered request (route.endpoint request) status body ∧
          response.Carries ⟨settings.corsPolicy, settings.serviceIdentity⟩
            (ResponseFormat.ofQuery request.query) status body := by
    intro route found kept
    rw [← same] at kept
    obtain ⟨status, body, answered⟩ := answered_of_response found sent kept
    rw [← writer] at sendable ⊢
    obtain ⟨carrying, made, carries⟩ :=
      exists_response_of_answered sendable found answered
    rw [sent] at made
    cases made
    exact ⟨status, body, answered, carries⟩
  refine ⟨fun kept => ⟨?_, ?_⟩, routed, ?_,
    fun route member => leaves_of_pageRoute member request,
    fun routeless => lacks_of_routeless routeless sent, ?_⟩
  · intro identifies
    by_contra routeless
    have lacks := (lacks_of_routeless (not_exists.mp routeless) sent).1
    exact lacks.of_append.not_identifies settings identifies
  · rintro ⟨route, found⟩
    obtain ⟨_, _, _, carries⟩ := routed route found (kept route found)
    exact carries.identifies
  · intro route other found leaves
    rw [← same] at leaves
    rw [response_of_leaves found leaves] at sent
    exact (Option.some.inj sent).symm
  · intro status wantsSchema trace message
    rw [← writer] at sendable
    obtain ⟨report, made, carries⟩ :=
      exists_responseOf sendable status fun _ =>
        ⟨_, Envelope.describe_error trace message⟩
    rw [writer] at made carries
    exact ⟨report, made, carries.identifies⟩

/-- A request for the health of the service. -/
def healthRequest (site : Text) (query : List UInt8) : Request :=
  ⟨site, "GET", "/kafkacruisecontrol/health", query⟩

theorem find_healthRequest (framework : Framework) (further : List Route)
    (site : Text) (query : List UInt8) :
    Route.find (pageRoutes framework ++ healthRoute :: further)
      (healthRequest site query) = .found healthRoute := by
  rfl

/-- The service with no further routes. -/
def plainService (settings : Settings) : Application :=
  ⟨.plain, settings, pageRoutes .plain ++ [healthRoute]⟩

/-- The answer about the health of the service tells of the service. -/
theorem identified_iff_routed_health :
    create .plain diagnosticSettings [] =
        .ok (plainService diagnosticSettings) ∧
      ResponseWriter.IsSendable
        ⟨diagnosticSettings.corsPolicy, diagnosticSettings.serviceIdentity⟩ ∧
      ∃ response,
        ((plainService diagnosticSettings).handle
          (healthRequest "http://localhost" [])).response = some response ∧
        response.Identifies diagnosticSettings := by
  have created : create .plain diagnosticSettings [] =
      .ok (plainService diagnosticSettings) := rfl
  have sendable : (plainService diagnosticSettings).writer.IsSendable :=
    sendable_diagnosticSettings
  have found : Route.find (plainService diagnosticSettings).routes
      (healthRequest "http://localhost" []) = .found healthRoute :=
    find_healthRequest .plain [] "http://localhost" []
  obtain ⟨response, sent, _⟩ :=
    exists_response_of_answered sendable found (.sent (.success _ _))
  have kept : ∀ route, Route.find (plainService diagnosticSettings).routes
      (healthRequest "http://localhost" []) = .found route →
      ∀ other, ¬(route.endpoint (healthRequest "http://localhost" [])).Leaves
        .plain other := by
    intro route same other leaves
    rw [found] at same
    cases same
    cases leaves
  have identified := identified_iff_routed created sendable sent
  exact ⟨created, sendable, response, sent,
    (identified.1 kept).mpr ⟨_, found⟩⟩

/-- The answer to a request for an unknown path does not, and its body is no
envelope but a document of its own. -/
theorem unidentified_nowhere :
    create .plain diagnosticSettings [] =
        .ok (plainService diagnosticSettings) ∧
      ResponseWriter.IsSendable
        ⟨diagnosticSettings.corsPolicy, diagnosticSettings.serviceIdentity⟩ ∧
      ∃ response,
        ((plainService diagnosticSettings).handle
          ⟨"http://localhost", "GET", "/nowhere", []⟩).response =
            some response ∧
        response.status = 404 ∧
        response.body = payload "\x7b\"detail\":\"Not Found\"\x7d" ∧
        response.Lacks (Response.identityNames ++ Response.policyNames) ∧
        ¬response.Identifies diagnosticSettings := by
  have sent : ((plainService diagnosticSettings).handle
      ⟨"http://localhost", "GET", "/nowhere", []⟩).response =
        some (Framework.detailResponse 404 (.text "Not Found") []) := rfl
  have routeless : ∀ route, Route.find (plainService diagnosticSettings).routes
      ⟨"http://localhost", "GET", "/nowhere", []⟩ ≠ .found route := nofun
  have lacks := (lacks_of_routeless routeless sent).1
  exact ⟨rfl, sendable_diagnosticSettings, _, sent, rfl, rfl, lacks,
    lacks.of_append.not_identifies _⟩

end Application

end ResponseService
