import ResponseService.Web.Query
import ResponseService.Web.Route

/-!
# The framework

Some of what happens to a request is decided by the framework that the service
is built on: how the path of a request is shown, what is said of a request with
unusable parameters, which pages document the service, how an error of the
framework's own is answered, and through which places the faults of the service
travel.  Nothing is assumed of these but that they are functions of what is
given to them (`Framework`).

The framework of the service shows a path by taking it from the whole address
of the request, which is put together from the site, the path and the query
(`Framework.pathOfAddress`).  It is taken to read the query as UTF-8 when it
does so, to write with percent signs those marks in a path that would end it
in an address, and no others, and to drop tabs and line ends.  General results
hold over every framework; `Framework.plain` is one that single cases are told
with.
-/

namespace ResponseService

/-- What the framework does by itself. -/
structure Framework where
  /-- The path of a request as it stands in messages, if it can be shown. -/
  shownPath : Request → Except Condition Text
  /-- What is said of a request with these issues. -/
  invalid : List ParameterIssue → InvalidRequest
  /-- The pages that document the service. -/
  page : Request → Response
  /-- The answer to an error of the framework's own. -/
  refusal : HttpError → Response
  /-- The places that a fault of the service comes through while a request is
  answered, as a trace tells them. -/
  way : Request → Condition → Text

namespace Request

/-- A path as it stands in an address: the marks that would end it there are
written with percent signs. -/
def pathInAddress (path : Text) : Text :=
  path.flatMap fun point =>
    if point.value = 0x3F then "%3F"
    else if point.value = 0x23 then "%23"
    else if point.value = 0x5C then "%5C"
    else [point]

/-- The address of a path of the site, with the query of the request. -/
def address (request : Request) (path : Text) : Except Condition Text :=
  match Utf8.decode request.query with
  | .error stretch => .error (.undecodable stretch)
  | .ok query =>
      let rest : Text := if query.isEmpty then [] else "?" ++ query
      .ok (request.site ++ pathInAddress path ++ rest)

end Request

namespace Framework

/-- A document that tells why a request is refused. -/
def detailResponse (status : Int) (detail : Json) (headers : Headers) :
    Response :=
  let body := Utf8.encode (Json.print .compact (.object [("detail", detail)]))
  ⟨status,
    headers ++
      [(ResponseBuffer.lengthName, Decimal.ofNat body.length),
        ("content-type", "application/json")],
    body⟩

/-- The path as it is taken from the address, without tabs and line ends; there
is none if the query, which is part of the address too, is not UTF-8. -/
def pathOfAddress (request : Request) : Except Condition Text :=
  (request.address request.path).map fun _ =>
    (Request.pathInAddress request.path).filter fun point =>
      !(decide (point.value = 0x09) || decide (point.value = 0x0A) ||
        decide (point.value = 0x0D))

/-- The answer to an error of the framework's own: its detail, where the status
admits a body. -/
def detailRefusal (error : HttpError) : Response :=
  if ResponseBuffer.admitsBody error.status && decide (error.status ≠ 205) then
    detailResponse error.status error.detail error.headers
  else ⟨error.status, error.headers, []⟩

/-- A framework that lists the issues of a request as they are, has blank pages
and tells no places. -/
def plain : Framework where
  shownPath := pathOfAddress
  invalid issues :=
    ⟨issues, ParameterIssue.summary issues, ParameterIssue.summary issues⟩
  page _ := ⟨200, [], []⟩
  refusal := detailRefusal
  way _ _ := []

end Framework

end ResponseService
