import ResponseService.Number.Decimal

/-!
# What can be wrong with a JSON text

A syntax error is a problem and the place where it was met: the number of code
points before it, and its line and column for a reader who counts lines.
`Place.ofPosition` relates the two.
-/

namespace ResponseService.Json

/-- The ways in which a text fails to be JSON. -/
inductive Problem where
  /-- The text begins with U+FEFF. -/
  | byteOrderMark
  /-- A value is due and none begins here. -/
  | missingValue
  /-- The document has ended and the text has not. -/
  | extraData
  /-- The name of a member is due and no text begins here. -/
  | missingName
  /-- A member's name is not followed by a colon. -/
  | missingColon
  /-- An item or member is followed by neither a comma nor the closing bracket. -/
  | missingComma
  /-- The quotes that open here are never closed. -/
  | unterminatedText
  /-- A code point below U+0020 stands between quotes. -/
  | controlCharacter
  /-- A backslash is followed by a letter that names no escape. -/
  | unknownEscape
  /-- The letter of a numbered escape is not followed by four digits. -/
  | brokenUnicodeEscape
  deriving DecidableEq, Repr

namespace Problem

/-- How the problem is put into words. -/
def message : Problem → Text
  | .byteOrderMark => "Unexpected UTF-8 BOM (decode using utf-8-sig)"
  | .missingValue => "Expecting value"
  | .extraData => "Extra data"
  | .missingName => "Expecting property name enclosed in double quotes"
  | .missingColon => "Expecting ':' delimiter"
  | .missingComma => "Expecting ',' delimiter"
  | .unterminatedText => "Unterminated string starting at"
  | .controlCharacter => "Invalid control character at"
  | .unknownEscape => "Invalid \\escape"
  | .brokenUnicodeEscape => "Invalid \\uXXXX escape"

end Problem

/-- A line and a column, both counted from one. -/
structure Place where
  line : Nat
  column : Nat
  deriving DecidableEq, Repr

namespace Place

/-- The place behind one more code point; lines end with a line feed. -/
def advance (place : Place) (point : CodePoint) : Place :=
  if point.value = 0x0A then ⟨place.line + 1, 1⟩
  else ⟨place.line, place.column + 1⟩

/-- The place that so many code points of a text come before. -/
def ofPosition (text : Text) (position : Nat) : Place :=
  (text.take position).foldl advance ⟨1, 1⟩

end Place

/-- A problem at a place. -/
structure SyntaxError where
  problem : Problem
  /-- The number of code points before the place. -/
  position : Nat
  place : Place
  deriving DecidableEq, Repr

namespace SyntaxError

/-- A problem of a text at a position. -/
def ofText (text : Text) (problem : Problem) (position : Nat) : SyntaxError :=
  ⟨problem, position, Place.ofPosition text position⟩

/-- The problem, its line and column, and its position. -/
def message (error : SyntaxError) : Text :=
  error.problem.message ++ ": line " ++ Decimal.ofNat error.place.line ++
    " column " ++ Decimal.ofNat error.place.column ++
    " (char " ++ Decimal.ofNat error.position ++ ")"

end SyntaxError

end ResponseService.Json
