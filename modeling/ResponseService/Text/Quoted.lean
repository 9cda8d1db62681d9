import ResponseService.Text.Printable

/-!
# Quoted texts in messages

A text that is quoted in a message stands between apostrophes, or between
quotes if it holds an apostrophe and no quote.  The mark that is used, the
backslash, the usual control characters and everything that is not printable
are escaped, so the quotation is one line of printable characters.
-/

namespace ResponseService.Text

/-- The mark that encloses a quoted text. -/
def quotationMark (text : Text) : CodePoint :=
  if text.any (·.value = 0x27) && !text.any (·.value = 0x22) then '"'
  else '\''

/-- How a code point is written in a quotation with a given mark. -/
def quotationPoint (mark point : CodePoint) : Text :=
  let number := point.value
  if point = mark ∨ number = 0x5C then ['\\', point]
  else if number = 0x09 then "\\t"
  else if number = 0x0A then "\\n"
  else if number = 0x0D then "\\r"
  else if point.isPrintable then [point]
  else numberedEscape number

/-- A text as it is quoted in messages. -/
def quoted (text : Text) : Text :=
  let mark := quotationMark text
  mark :: (text.flatMap (quotationPoint mark) ++ [mark])

end ResponseService.Text
