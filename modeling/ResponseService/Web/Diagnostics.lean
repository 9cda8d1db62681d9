import ResponseService.Web.Parameter
import ResponseService.Web.Framework
import ResponseService.Response.Writer

/-!
# Diagnostic routes

These routes show how each kind of outcome is answered: a refused request, a
missing resource, a failure, typed parameters, a body that is echoed, and any
outcome that is asked for.
-/

namespace ResponseService.Diagnostics

/-- A route for one path and the method `GET`. -/
def getRoute (path : Text) (endpoint : Request → Outcome) : Route :=
  ⟨.exactly path, ["GET"], endpoint⟩

/-- An endpoint that fails under a condition. -/
def failing (condition : Condition) : Outcome :=
  .failure (.ofCondition condition)

/-- Requests with these issues are not met. -/
def invalid (framework : Framework) (issues : List ParameterIssue) : Outcome :=
  failing (.invalidRequest (framework.invalid issues))

/-- The problem of a parameter, if it has one. -/
def issueOf {α : Type} (name : Text) (value : Except Parameter.Problem α) :
    List ParameterIssue :=
  match value with
  | .ok _ => []
  | .error problem => [Parameter.issue name problem]

/-- A count, which is required, and a ratio, which is not. -/
def typed (framework : Framework) (request : Request) : Outcome :=
  let count := Parameter.requiredInteger request.query "count"
  let issues :=
    issueOf "count" count ++
      issueOf "ratio" (Parameter.optionalNumber request.query "ratio")
  match count, issues with
  | .ok number, [] =>
      .success ResponseWriter.successStatus
        ("count=" ++ Decimal.ofInt number)
  | _, issues => invalid framework issues

/-- The body that a request asks for. -/
def echo (framework : Framework) (request : Request) : Outcome :=
  match Parameter.required request.query "text" with
  | .ok text => .body ResponseWriter.successStatus text
  | .error problem => invalid framework [Parameter.issue "text" problem]

/-- The diagnostic routes; `scenario` is the outcome that is asked for. -/
def routes (framework : Framework) (scenario : Outcome) : List Route :=
  [getRoute "/test/user-error" fun _ =>
      failing (.service (.userRequest "Broker id 'abc' is not an integer."
        ServiceError.defaultRequestStatus)),
    getRoute "/test/not-found" fun _ =>
      failing (.service
        (.resourceNotFound (.text "User task") (.text "abc-123"))),
    getRoute "/test/unexpected" fun _ =>
      failing (.system (.builtIn "ValueError" [.text "boom"])),
    getRoute "/test/typed" (typed framework),
    getRoute "/test/body" (echo framework),
    ⟨.beginning "/test/scenario", ["DELETE", "GET", "POST", "PUT"],
      fun _ => scenario⟩]

end ResponseService.Diagnostics
