import ResponseService.Ordered
import ResponseService.Text.Basic
import ResponseService.Fault.Condition

/-!
# Headers of every response

A response carries the version and the commit of the service.  If the policy
for requests from other origins is enabled, it also carries the three headers
of that policy, and otherwise none of them.
-/

namespace ResponseService

/-- A list of header fields. -/
abbrev Headers := List (Text × Text)

namespace HeaderName

/-- The media type of the body. -/
def contentType : Text := "Content-Type"

/-- The number of octets of the body. -/
def contentLength : Text := "Content-Length"

/-- The origin that may read the response. -/
def allowOrigin : Text := "Access-Control-Allow-Origin"

/-- The headers that another origin may read. -/
def exposeHeaders : Text := "Access-Control-Expose-Headers"

/-- Another origin may send credentials. -/
def allowCredentials : Text := "Access-Control-Allow-Credentials"

/-- The version of the service. -/
def version : Text := "Cruise-Control-Version"

/-- The commit of the service. -/
def commitId : Text := "Cruise-Control-Commit_Id"

/-- The schema of the body. -/
def jsonSchema : Text := "Cruise-Control-JSON-Schema"

end HeaderName

/-- The media types of bodies. -/
inductive ContentType where
  | json
  | text
  deriving DecidableEq, Repr

namespace ContentType

/-- All media types. -/
def all : List ContentType := [.json, .text]

/-- The media type in a header. -/
def value : ContentType → Text
  | .json => "application/json; charset=utf-8"
  | .text => "text/plain; charset=utf-8"

/-- The media type of a body. -/
def forBody (isJson : Bool) : ContentType := if isJson then .json else .text

end ContentType

/-- What other origins may do. -/
structure CorsPolicy where
  enabled : Bool
  allowOrigin : Text
  exposeHeaders : Text
  deriving DecidableEq

namespace CorsPolicy

/-- The origin of a policy that names none: every one. -/
def defaultOrigin : Text := "*"

/-- The exposed headers of a policy that names none. -/
def defaultExposeHeaders : Text := "User-Task-ID"

/-- A policy that is not enabled. -/
def disabled : CorsPolicy := ⟨false, defaultOrigin, defaultExposeHeaders⟩

/-- All three headers of an enabled policy, none of another. -/
def headers (policy : CorsPolicy) : Headers :=
  if policy.enabled then
    [(HeaderName.allowOrigin, policy.allowOrigin),
      (HeaderName.exposeHeaders, policy.exposeHeaders),
      (HeaderName.allowCredentials, "true")]
  else []

end CorsPolicy

/-- The version and the commit of a service. -/
structure ServiceIdentity where
  version : Text
  commitId : Text
  deriving DecidableEq

namespace ServiceIdentity

/-- The headers that tell of a service. -/
def headers (identity : ServiceIdentity) : Headers :=
  [(HeaderName.version, identity.version),
    (HeaderName.commitId, identity.commitId)]

end ServiceIdentity

/-- Policies, identities and schemas never change: the attempt to set a field
of one is a fault. -/
def assignField (field : Text) : Condition := .fixedField field

end ResponseService
