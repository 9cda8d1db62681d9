import ResponseService.Json.Value

/-!
# Documents as JSON text

A `Format` says what stands between items, what stands behind a member's name,
and whether code points past ASCII are written as escapes.  Three formats are
in use: `compact` for bodies, `header` for text that has to pass as a header
value, and `line` for log records.

A quoted text escapes the quote, the backslash and everything below U+0020; in
ASCII it escapes everything but the visible characters and the space, and a
character past U+FFFF becomes two escapes.
-/

namespace ResponseService.Json

/-- The choices that JSON leaves to a writer. -/
structure Format where
  /-- What stands between two items or members. -/
  itemSeparator : Text
  /-- What stands between a member's name and its value. -/
  nameSeparator : Text
  /-- Only visible ASCII characters and the space are left as they are. -/
  asciiOnly : Bool

namespace Format

/-- No blanks, all characters as they are. -/
def compact : Format := ⟨",", ":", false⟩

/-- No blanks, ASCII only. -/
def header : Format := ⟨",", ":", true⟩

/-- A blank behind each separator, all characters as they are. -/
def line : Format := ⟨", ", ": ", false⟩

end Format

/-- The escape of a code point past U+FFFF: those of its two surrogates. -/
def pairEscape (number : Nat) : Text :=
  Text.unicodeEscape (0xD800 + (number - 0x10000) / 0x400) ++
    Text.unicodeEscape (0xDC00 + (number - 0x10000) % 0x400)

/-- How a code point is written inside quotes. -/
def quotePoint (asciiOnly : Bool) (point : CodePoint) : Text :=
  let number := point.value
  if number = 0x22 then "\\\""
  else if number = 0x5C then "\\\\"
  else if number = 0x0A then "\\n"
  else if number = 0x0D then "\\r"
  else if number = 0x09 then "\\t"
  else if number = 0x0C then "\\f"
  else if number = 0x08 then "\\b"
  else if number < 0x20 then Text.unicodeEscape number
  else if asciiOnly && decide (0x7E < number) then
    if number < 0x10000 then Text.unicodeEscape number else pairEscape number
  else [point]

/-- The inside of a quoted text. -/
def quoteBody (asciiOnly : Bool) (text : Text) : Text :=
  text.flatMap (quotePoint asciiOnly)

/-- A text in quotes. -/
def quote (asciiOnly : Bool) (text : Text) : Text :=
  '"' :: (quoteBody asciiOnly text ++ "\"")

/-- The text of a double; the values that are no numbers have words. -/
def floatText : Double → Text
  | .notANumber => "NaN"
  | .infinite false => "Infinity"
  | .infinite true => "-Infinity"
  | .finite negative significand exponent =>
      Double.finiteText negative significand exponent

mutual

/-- The JSON text of a document. -/
def print (format : Format) : Json → Text
  | .null => "null"
  | .boolean true => "true"
  | .boolean false => "false"
  | .integer value => Decimal.ofInt value
  | .float value => floatText value
  | .text value => quote format.asciiOnly value
  | .array items => "[" ++ printItems format items ++ "]"
  | .object members => "\x7b" ++ printMembers format members ++ "\x7d"

/-- The items of an array with separators between them. -/
def printItems (format : Format) : List Json → Text
  | [] => []
  | [item] => print format item
  | item :: next :: rest =>
      print format item ++ format.itemSeparator ++
        printItems format (next :: rest)

/-- The members of an object with separators between them. -/
def printMembers (format : Format) : List (Text × Json) → Text
  | [] => []
  | [(name, value)] =>
      quote format.asciiOnly name ++ format.nameSeparator ++ print format value
  | (name, value) :: next :: rest =>
      quote format.asciiOnly name ++ format.nameSeparator ++
        print format value ++ format.itemSeparator ++
        printMembers format (next :: rest)

end

end ResponseService.Json
