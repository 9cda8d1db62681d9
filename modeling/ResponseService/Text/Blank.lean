import ResponseService.Text.Basic

/-!
# White space

Two sets of code points count as blank.  `isWhiteSpace` is Unicode's property
White_Space; `isBlank` adds the four information separators U+001C to U+001F.
Zero-width characters belong to neither.
-/

namespace ResponseService

namespace CodePoint

/-- Unicode's property White_Space. -/
def isWhiteSpace (point : CodePoint) : Bool :=
  let number := point.value
  decide (0x09 ≤ number ∧ number ≤ 0x0D) || decide (number = 0x20) ||
    decide (number = 0x85) || decide (number = 0xA0) ||
    decide (number = 0x1680) || decide (0x2000 ≤ number ∧ number ≤ 0x200A) ||
    decide (number = 0x2028) || decide (number = 0x2029) ||
    decide (number = 0x202F) || decide (number = 0x205F) ||
    decide (number = 0x3000)

/-- White space and the information separators. -/
def isBlank (point : CodePoint) : Bool :=
  point.isWhiteSpace || decide (0x1C ≤ point.value ∧ point.value ≤ 0x1F)

/-- What ends a line of text in the middle of it. -/
def endsLine (point : CodePoint) : Bool :=
  decide (0x0A ≤ point.value ∧ point.value ≤ 0x0D) ||
    decide (0x1C ≤ point.value ∧ point.value ≤ 0x1E) ||
    decide (point.value = 0x85) || decide (point.value = 0x2028) ||
    decide (point.value = 0x2029)

end CodePoint

namespace Text

/-- A text without the points of a class at its two ends. -/
def trim (blank : CodePoint → Bool) (text : Text) : Text :=
  ((text.dropWhile blank).reverse.dropWhile blank).reverse

/-- A text without blanks at its two ends. -/
def strip (text : Text) : Text := text.trim CodePoint.isBlank

/-- The lines of a text of which `held` has been read, last point first; a
line feed right after a carriage return ends no line of its own. -/
def linesFrom (held : Text) (afterReturn : Bool) : Text → List Text
  | [] => if held.isEmpty then [] else [held.reverse]
  | point :: rest =>
      if afterReturn && decide (point.value = 0x0A) then
        linesFrom held false rest
      else if point.endsLine then
        held.reverse :: linesFrom [] (decide (point.value = 0x0D)) rest
      else linesFrom (point :: held) false rest

/-- The lines of a text; the end of the last line starts no further one. -/
def lines (text : Text) : List Text := linesFrom [] false text

/-- A text of which each line is set behind a margin.  A line is about to begin
if `fresh`; a line feed right after a carriage return begins none. -/
def indentedFrom (margin : Text) (fresh afterReturn : Bool) : Text → Text
  | [] => []
  | point :: rest =>
      if afterReturn && decide (point.value = 0x0A) then
        point :: indentedFrom margin true false rest
      else
        (if fresh then margin else []) ++
          point ::
            indentedFrom margin point.endsLine (decide (point.value = 0x0D))
              rest

/-- A text of which each line is set behind a margin. -/
def indented (margin text : Text) : Text := indentedFrom margin true false text

end Text

end ResponseService
