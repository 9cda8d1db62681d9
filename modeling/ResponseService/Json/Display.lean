import ResponseService.Json.Value
import ResponseService.Text.Quoted

/-!
# Values in messages

Messages show a value in one of two ways.  `quoted` encloses every text in
quotation marks; `shown` leaves a text that stands alone as it is and quotes
the texts inside a container.
-/

namespace ResponseService.Json

/-- The text of a double in a message. -/
def shownDouble : Double → Text
  | .notANumber => "nan"
  | .infinite false => "inf"
  | .infinite true => "-inf"
  | .finite negative significand exponent =>
      Double.finiteText negative significand exponent

mutual

/-- A value with all its texts in quotation marks. -/
def quoted : Json → Text
  | .null => "None"
  | .boolean true => "True"
  | .boolean false => "False"
  | .integer value => Decimal.ofInt value
  | .float value => shownDouble value
  | .text value => value.quoted
  | .array items => "[" ++ quotedItems items ++ "]"
  | .object members => "\x7b" ++ quotedMembers members ++ "\x7d"

/-- Items with commas between them. -/
def quotedItems : List Json → Text
  | [] => []
  | [item] => quoted item
  | item :: next :: rest => quoted item ++ ", " ++ quotedItems (next :: rest)

/-- Members with commas between them. -/
def quotedMembers : List (Text × Json) → Text
  | [] => []
  | [(name, value)] => name.quoted ++ ": " ++ quoted value
  | (name, value) :: next :: rest =>
      name.quoted ++ ": " ++ quoted value ++ ", " ++
        quotedMembers (next :: rest)

end

/-- A value as it stands alone in a message. -/
def shown : Json → Text
  | .text value => value
  | value => quoted value

end ResponseService.Json
