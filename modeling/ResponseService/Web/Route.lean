import ResponseService.Fault.Chain
import ResponseService.Response.Buffer

/-!
# Requests and routes

A route has a pattern for paths, the methods it allows and an endpoint, which
answers a request with an outcome.  The first route that admits both the path
and the method is taken.

Finding a route is the work of the framework that the service is built on, and
is stated here as the framework documents it: routes are tried in the order in
which they were added, a path matches also with a line feed at its end, a path
that only differs in a slash at its end is redirected, and a path that some
route admits is refused with the methods of the first such route.  The
framework keeps these methods as a set, so their order in a refusal is not
fixed; they are listed in alphabetical order here.
-/

namespace ResponseService

/-- A request to the service. -/
structure Request where
  /-- The address of the site under which the service is reached. -/
  site : Text
  method : Text
  /-- The path, with percent signs resolved. -/
  path : Text
  /-- The octets of the query as it arrives. -/
  query : List UInt8

/-- What an endpoint does with a request. -/
inductive Outcome where
  /-- It succeeds with a message. -/
  | success (status : Int) (message : Text)
  /-- It reports an error. -/
  | error (status : Int) (fault : Option Fault) (message : Option Text)
  /-- It writes a body of its own. -/
  | body (status : Int) (body : Text)
  /-- It has a response of its own, which the writer does not make. -/
  | page (response : Response)
  /-- It fails. -/
  | failure (fault : Fault)

/-- The paths of a route. -/
inductive PathPattern where
  /-- This path. -/
  | exactly (path : Text)
  /-- All paths that begin like this and have no line feed. -/
  | beginning (start : Text)

namespace PathPattern

/-- A path without a line feed at its end. -/
def withoutLineFeed (path : Text) : Text :=
  match path.reverse with
  | [] => []
  | last :: rest => if last.value = 0x0A then rest.reverse else path

/-- A path is one of a pattern; a line feed at its end does not count. -/
def admits (pattern : PathPattern) (path : Text) : Bool :=
  match pattern with
  | .exactly expected =>
      decide (path = expected) || decide (withoutLineFeed path = expected)
  | .beginning start =>
      start.isPrefixOf path &&
        (withoutLineFeed path).all fun point => decide (point.value ≠ 0x0A)

end PathPattern

/-- A group of requests and their endpoint. -/
structure Route where
  pattern : PathPattern
  /-- The methods that are allowed, in alphabetical order. -/
  methods : List Text
  endpoint : Request → Outcome

namespace Route

/-- What is found for a request. -/
inductive Finding where
  | found (route : Route)
  | notAllowed (methods : List Text)
  | elsewhere (path : Text)
  | unknown

/-- The path with a slash at its end added or, if there are any, removed. -/
def otherPath (path : Text) : Text :=
  match path.reverse with
  | [] => ['/']
  | last :: rest =>
      if last.value = 0x2F then
        ((last :: rest).dropWhile (·.value = 0x2F)).reverse
      else path ++ "/"

/-- The route of a request, or what there is in its place. -/
def find (routes : List Route) (request : Request) : Finding :=
  let candidates := routes.filter fun route => route.pattern.admits request.path
  match candidates.find? fun route => route.methods.contains request.method with
  | some route => .found route
  | none =>
      match candidates with
      | route :: _ => .notAllowed route.methods
      | [] =>
          let other := otherPath request.path
          if request.path ≠ Text.ofString "/" ∧
              routes.any (fun route => route.pattern.admits other) then
            .elsewhere other
          else .unknown

end Route

end ResponseService
