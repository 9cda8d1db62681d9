import ResponseService.Ordered
import ResponseService.Text.Blank

/-!
# Settings files

A settings file binds names to values, one binding a line.  A value stands in
apostrophes, in quotes, or plainly; in quotes more escapes have a meaning than
in apostrophes, and either may go over several lines.  A name without an equals
sign has no value.  Comments begin with a number sign, and a line that is no
binding is passed over from the place where it goes wrong.

A value may refer to a name that is bound before it in the file or in the
environment: the reference is replaced by the value of that name, or by the
default that it gives.

Reading the file is the work of a library, which is modelled here by the rules
that it documents.  It is taken to be asked to replace references, to let
earlier bindings of the file go before the environment where both have a name
that is referred to, and to let the last of several bindings of one name count.
-/

namespace ResponseService.Dotenv

/-- Every end of a line as a line feed. -/
def withLineFeeds : Text → Text
  | [] => []
  | point :: rest =>
      if point.value = 0x0D then
        match rest with
        | [] => ['\n']
        | next :: after =>
            if next.value = 0x0A then '\n' :: withLineFeeds after
            else '\n' :: withLineFeeds (next :: after)
      else point :: withLineFeeds rest

/-- The code point is a line feed. -/
def isLineFeed (point : CodePoint) : Bool := decide (point.value = 0x0A)

/-- A blank within a line. -/
def isBlankInLine (point : CodePoint) : Bool :=
  point.isBlank && !isLineFeed point

/-- What follows the blanks of a line. -/
def skipBlanks (text : Text) : Text := text.dropWhile isBlankInLine

/-- What follows the line that a text begins with. -/
def skipLine (text : Text) : Text := (text.dropWhile (!isLineFeed ·)).drop 1

/-- What follows the word `export` and the blanks behind it. -/
def skipExport (text : Text) : Text :=
  let word := Text.ofString "export"
  let after := text.drop word.length
  if text.take word.length = word ∧ after.head?.any isBlankInLine then
    skipBlanks after
  else text

/-- What follows a comment, or blanks before one. -/
def skipComment (text : Text) : Text :=
  match skipBlanks text with
  | [] => text
  | point :: rest =>
      if point.value = 0x23 then rest.dropWhile (!isLineFeed ·) else text

/-- What follows the end of a line; otherwise the text is no end of one. -/
def endLine (text : Text) : Except Text Text :=
  match skipBlanks text with
  | [] => .ok []
  | point :: rest => if isLineFeed point then .ok rest else .error text

/-- A name in apostrophes, or a run of points that may stand in a name; a
comment has none. -/
def readName (text : Text) : Except Text (Option Text × Text) :=
  match text with
  | [] => .error text
  | point :: rest =>
      if point.value = 0x23 then .ok (none, text)
      else if point.value = 0x27 then
        match Text.cut? '\'' rest with
        | some (first :: name, after) => .ok (some (first :: name), after)
        | _ => .error text
      else
        let stays (point : CodePoint) : Bool :=
          !(decide (point.value = 0x3D) || decide (point.value = 0x23) ||
            point.isBlank)
        match text.takeWhile stays with
        | [] => .error text
        | name => .ok (some name, text.dropWhile stays)

/-- Cut a text at the first mark that is not escaped.  A backslash escapes the
point behind it, unless it is escaped itself. -/
def cutUnescaped (mark : CodePoint) (escaped : Bool) :
    Text → Option (Text × Text)
  | [] => none
  | point :: rest =>
      if point = mark ∧ escaped = false then some ([], rest)
      else
        (cutUnescaped mark (!escaped && decide (point.value = 0x5C)) rest).map
          fun (inside, after) => (point :: inside, after)

/-- Cut a text at the last mark. -/
def cutLast (mark : CodePoint) (text : Text) : Option (Text × Text) :=
  (Text.cut? mark text.reverse).map fun (after, inside) =>
    (inside.reverse, after.reverse)

/-- Cut a text at the mark that closes a quotation: the first that is not
escaped, or else the last. -/
def cutClosing (mark : CodePoint) (text : Text) : Option (Text × Text) :=
  (cutUnescaped mark false text).or (cutLast mark text)

/-- Replace each backslash and the point behind it, where the pair has a
meaning. -/
def unescape (meaning : CodePoint → Option CodePoint) : Text → Text
  | [] => []
  | [point] => [point]
  | backslash :: point :: rest =>
      if backslash.value = 0x5C then
        match meaning point with
        | some meant => meant :: unescape meaning rest
        | none => backslash :: unescape meaning (point :: rest)
      else backslash :: unescape meaning (point :: rest)

/-- The escapes with a meaning between apostrophes. -/
def meaningInApostrophes (point : CodePoint) : Option CodePoint :=
  if point.value = 0x5C ∨ point.value = 0x27 then some point else none

/-- The escapes with a meaning between quotes. -/
def meaningInQuotes (point : CodePoint) : Option CodePoint :=
  if point.value = 0x5C ∨ point.value = 0x27 ∨ point.value = 0x22 then
    some point
  else
    (Ordered.lookup
      [(0x61, 0x07), (0x62, 0x08), (0x66, 0x0C), (0x6E, 0x0A), (0x72, 0x0D),
        (0x74, 0x09), (0x76, 0x0B)]
      point.value).map CodePoint.ofNat

/-- A text up to a comment in it, which a blank stands before. -/
def beforeComment (afterBlank : Bool) : Text → Text
  | [] => []
  | point :: rest =>
      if point.value = 0x23 ∧ afterBlank = true then []
      else point :: beforeComment point.isBlank rest

/-- A text without blanks at its end. -/
def trimEnd (text : Text) : Text :=
  (text.reverse.dropWhile CodePoint.isBlank).reverse

/-- A value in quotation marks. -/
def readQuoted
    (mark : CodePoint)
    (meaning : CodePoint → Option CodePoint)
    (text rest : Text) :
    Except Text (Text × Text) :=
  match cutClosing mark rest with
  | some (inside, after) => .ok (unescape meaning inside, after)
  | none => .error text

/-- A value of any kind. -/
def readValue (text : Text) : Except Text (Text × Text) :=
  match text with
  | [] => .ok ([], [])
  | point :: rest =>
      if point.value = 0x27 then readQuoted point meaningInApostrophes text rest
      else if point.value = 0x22 then readQuoted point meaningInQuotes text rest
      else
        .ok (trimEnd (beforeComment false (text.takeWhile (!isLineFeed ·))),
          text.dropWhile (!isLineFeed ·))

/-- The value behind an equals sign, if there is one. -/
def readAssigned (text : Text) : Except Text (Option Text × Text) :=
  match text with
  | [] => .ok (none, [])
  | point :: rest =>
      if point.value = 0x3D then
        (readValue (skipBlanks rest)).map fun (value, after) =>
          (some value, after)
      else .ok (none, text)

/-- A binding up to the end of its line; an error tells what is left at the
place where the line goes wrong. -/
def readBinding (text : Text) :
    Except Text (Option (Text × Option Text) × Text) := do
  let start := text.dropWhile CodePoint.isBlank
  if start.isEmpty then return (none, [])
  let (name, afterName) ← readName (skipExport start)
  let (value, afterValue) ← readAssigned (skipBlanks afterName)
  let rest ← endLine (skipComment afterValue)
  return (name.map fun name => (name, value), rest)

/-- At most `fuel` lines of a file. -/
def readBindings (fuel : Nat) (text : Text) : List (Text × Option Text) :=
  match fuel, text with
  | 0, _ | _, [] => []
  | fuel + 1, text =>
      match readBinding text with
      | .error left => readBindings fuel (skipLine left)
      | .ok (binding, rest) => binding.toList ++ readBindings fuel rest

/-- The bindings of a file, in their order and with references in their
values. -/
def bindings (file : Text) : List (Text × Option Text) :=
  let text := withLineFeeds file
  readBindings text.length text

/-- A reference without its first two marks: a name, a default and what
follows. -/
def reference? (text : Text) : Option (Text × Option Text × Text) :=
  let stays (point : CodePoint) : Bool :=
    !(decide (point.value = 0x7D) || decide (point.value = 0x3A))
  let name := text.takeWhile stays
  match text.dropWhile stays with
  | [] => none
  | point :: rest =>
      if point.value = 0x7D then some (name, none, rest)
      else
        match rest with
        | [] => none
        | dash :: rest =>
            if dash.value = 0x2D then
              (Text.cut? '\x7d' rest).map fun (default, after) =>
                (name, some default, after)
            else none

/-- Replace the references of a value, with at most `fuel` steps. -/
def expandWithin
    (fuel : Nat)
    (bound : Text → Option (Option Text))
    (value : Text) :
    Text :=
  match fuel, value with
  | 0, _ => value
  | _, [] => []
  | _, [point] => [point]
  | fuel + 1, point :: next :: rest =>
      match
        if point.value = 0x24 ∧ next.value = 0x7B then reference? rest
        else none with
      | none => point :: expandWithin fuel bound (next :: rest)
      | some (name, default, after) =>
          (match bound name with
            | some known => known.getD []
            | none => default.getD []) ++ expandWithin fuel bound after

/-- Replace the references of a value. -/
def expand (bound : Text → Option (Option Text)) (value : Text) : Text :=
  expandWithin value.length bound value

/-- What a name stands for: a binding of the file goes before the
environment. -/
def boundIn
    (environment : List (Text × Text))
    (earlier : List (Text × Option Text))
    (name : Text) :
    Option (Option Text) :=
  match Ordered.lookup earlier name with
  | some known => some known
  | none =>
      (Ordered.lookup (Ordered.ofList environment) name).map some

/-- The names of a file with their values. -/
def read (environment : List (Text × Text)) (file : Text) :
    List (Text × Option Text) :=
  (bindings file).foldl
    (fun earlier binding =>
      Ordered.set earlier binding.1
        (binding.2.map (expand (boundIn environment earlier))))
    []

end ResponseService.Dotenv
