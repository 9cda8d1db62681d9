import ResponseService.Response.Writer
import ResponseService.Text.Case

/-!
# Query strings

A query is a sequence of octets.  It holds parameters, separated by
ampersands, each with a name, an equals sign and a value.  In names and values
a plus sign stands for a space, and a percent sign with two hexadecimal digits
for an octet.  Runs of ASCII are read as UTF-8 once this is done, and what
cannot be read becomes U+FFFD; an octet past ASCII that stands there itself is
one code point.  Of several parameters of one name the last one counts.

The two flags of the service are true only if their value is the word `true`
in letters of either case.

Taking a query apart is the work of the framework that the service is built on.
It is taken to read the octets as Latin-1 before it separates the parameters,
and to read what a percent sign stands for as UTF-8, without ever failing.
-/

namespace ResponseService

namespace Query

/-- The octets of a query, each as one code point. -/
def received (query : List UInt8) : Text :=
  query.map fun octet => CodePoint.ofNat octet.toNat

/-- Resolve percent signs; `held` are the octets of the run so far, last one
first. -/
def unquoteFrom (held : List UInt8) : Text → Text
  | [] => Utf8.decodeLossy held.reverse
  | point :: rest =>
      if point.isAscii then
        match decide (point.value = 0x25), rest with
        | true, high :: low :: after =>
            match high.hexValue?, low.hexValue? with
            | some upper, some lower =>
                unquoteFrom (UInt8.ofNat (upper * 16 + lower) :: held) after
            | _, _ =>
                unquoteFrom (UInt8.ofNat point.value :: held)
                  (high :: low :: after)
        | _, rest => unquoteFrom (UInt8.ofNat point.value :: held) rest
      else Utf8.decodeLossy held.reverse ++ point :: unquoteFrom [] rest

/-- A name or a value as it was meant. -/
def unquote (text : Text) : Text :=
  unquoteFrom []
    (text.map fun point => if point.value = 0x2B then (' ' : CodePoint) else point)

/-- A code point that an address holds as it is. -/
def standsInAddress (point : CodePoint) : Bool :=
  point.isDigit || decide (0x41 ≤ point.value ∧ point.value ≤ 0x5A) ||
    decide (0x61 ≤ point.value ∧ point.value ≤ 0x7A) ||
    (Text.ofString "-._~:/%#?=@[]!$&'()*+,;").contains point

/-- A text as it stands in an address: a percent sign and two hexadecimal
digits give each octet of the code points that it cannot hold. -/
def quoteAddress (text : Text) : Text :=
  text.flatMap fun point =>
    if standsInAddress point then [point]
    else (Utf8.encode [point]).flatMap fun octet =>
      '%' :: (Text.hexadecimal 2 octet.toNat).upper

/-- The parameter of a piece of a query. -/
def parameter (piece : Text) : Text × Text :=
  match Text.cut? '=' piece with
  | some (name, value) => (unquote name, unquote value)
  | none => (unquote piece, [])

/-- The parameters of a query, in their order. -/
def parameters (query : List UInt8) : List (Text × Text) :=
  ((Text.splitOn '&' (received query)).filter (!·.isEmpty)).map parameter

/-- The value of the last parameter of a name. -/
def value? (query : List UInt8) (name : Text) : Option Text :=
  Ordered.lookup (parameters query).reverse name

/-- The value of a flag. -/
def flag : Option Text → Bool
  | none => false
  | some value => decide (value.lower = Text.ofString "true")

end Query

namespace ResponseFormat

/-- The flag that asks for JSON. -/
def jsonName : Text := "json"

/-- The flag that asks for the schema of a JSON body. -/
def schemaName : Text := "get_response_schema"

/-- The format that a query asks for. -/
def ofQuery (query : List UInt8) : ResponseFormat where
  isJson := Query.flag (Query.value? query jsonName)
  wantsSchema := Query.flag (Query.value? query schemaName)

end ResponseFormat

end ResponseService
