import ResponseService.Json.Reader
import ResponseService.Proofs.Ordered

/-!
# The grammar of JSON texts

A JSON text spells a sequence of tokens with blanks between them (`Lexes`),
and the tokens are those of a document (`lexemes`).  A document that is written
out may name a member twice; `settled` is the document such a text stands for,
in which the member has its first place and its last value.

Nothing here refers to the reader.  `ResponseService.Proofs.Json.Reading` shows
that the reader accepts exactly the texts of this grammar and gives the
documents they stand for.
-/

namespace ResponseService.Json

/-! ## Spelling tokens -/

/-- The ways to write one code point between quotes. -/
inductive TextUnit.Spelled : TextUnit → Text → Prop where
  | plain {point : CodePoint}
      (visible : 0x20 ≤ point.value)
      (noQuote : point.value ≠ 0x22)
      (noBackslash : point.value ≠ 0x5C) :
      Spelled (.plain point) [point]
  | shorthand {letter value : CodePoint}
      (named : shorthand? letter = some value) :
      Spelled (.escaped value) ['\\', letter]
  | numbered {first second third fourth : CodePoint} {number : Nat}
      (digits : fourDigits? first second third fourth = some number) :
      Spelled (.escaped (CodePoint.ofNat number))
        ['\\', 'u', first, second, third, fourth]

/-- What stands between two quotes. -/
inductive UnitsSpelled : List TextUnit → Text → Prop where
  | nil : UnitsSpelled [] []
  | cons {unit : TextUnit} {units : List TextUnit} {spelling rest : Text}
      (head : unit.Spelled spelling)
      (tail : UnitsSpelled units rest) :
      UnitsSpelled (unit :: units) (spelling ++ rest)

/-- The mark before and behind a quoted text. -/
def quoteMark : CodePoint := '"'

/-- At least one decimal digit and nothing else. -/
def IsDigits (text : Text) : Prop :=
  text ≠ [] ∧ ∀ point ∈ text, point.isDigit = true

/-- The letter, the sign and the digits of an exponent are what they have to
be. -/
structure ExponentSpelling.WellFormed (exponent : ExponentSpelling) :
    Prop where
  mark : exponent.mark.value = 0x65 ∨ exponent.mark.value = 0x45
  sign : ∀ point ∈ exponent.sign, point.value = 0x2B ∨ point.value = 0x2D
  digits : IsDigits exponent.digits

/-- No zero stands before a digit, and no part of the number is empty. -/
structure NumberSpelling.WellFormed (number : NumberSpelling) : Prop where
  whole : IsDigits number.whole
  leading : ∀ point ∈ number.whole.head?, point.value = 0x30 →
    number.whole.length = 1
  fraction : ∀ digits ∈ number.fraction, IsDigits digits
  exponent : ∀ exponent ∈ number.exponent, exponent.WellFormed

/-- The ways to write a token. -/
inductive Token.Spelled : Token → Text → Prop where
  | mark {point : CodePoint} {token : Token}
      (mark : punctuation? point = some token) :
      Spelled token [point]
  | quoted {units : List TextUnit} {inside : Text}
      (spelled : UnitsSpelled units inside) :
      Spelled (.text (joinUnits units)) (quoteMark :: (inside ++ [quoteMark]))
  | word {word : Text} {value : Json}
      (known : (word, value) ∈ words) :
      Spelled (.scalar value) word
  | number {number : NumberSpelling} {value : Json}
      (wellFormed : number.WellFormed)
      (valued : number.value = .ok value) :
      Spelled (.scalar value) number.text

/-- The text spells these tokens, with blanks anywhere between them. -/
inductive Lexes : Text → List Token → Prop where
  | nil : Lexes [] []
  | blank {point : CodePoint} {rest : Text} {tokens : List Token}
      (blank : isBlank point = true)
      (tail : Lexes rest tokens) :
      Lexes (point :: rest) tokens
  | token {token : Token} {spelling rest : Text} {tokens : List Token}
      (head : token.Spelled spelling)
      (tail : Lexes rest tokens) :
      Lexes (spelling ++ rest) (token :: tokens)

namespace Lexes

theorem append {left right : Text} {leftTokens rightTokens : List Token}
    (leftLexes : Lexes left leftTokens)
    (rightLexes : Lexes right rightTokens) :
    Lexes (left ++ right) (leftTokens ++ rightTokens) := by
  induction leftLexes with
  | nil => exact rightLexes
  | blank blank _ ih => exact .blank blank ih
  | token head _ ih =>
      rw [List.append_assoc]
      exact .token head ih

theorem single {token : Token} {spelling : Text}
    (spelled : token.Spelled spelling) : Lexes spelling [token] := by
  simpa using Lexes.token spelled .nil

end Lexes

/-! ## The tokens of a document -/

mutual

/-- The tokens that a document is written with. -/
def lexemes : Json → List Token
  | .text value => [.text value]
  | .array [] => [.openArray, .closeArray]
  | .array (item :: rest) =>
      .openArray :: (lexemes item ++ (laterItems rest ++ [.closeArray]))
  | .object [] => [.openObject, .closeObject]
  | .object ((name, value) :: rest) =>
      .openObject :: .text name :: .colon ::
        (lexemes value ++ (laterMembers rest ++ [.closeObject]))
  | value => [.scalar value]

/-- The tokens of the items behind the first one. -/
def laterItems : List Json → List Token
  | [] => []
  | item :: rest => .comma :: (lexemes item ++ laterItems rest)

/-- The tokens of the members behind the first one. -/
def laterMembers : List (Text × Json) → List Token
  | [] => []
  | (name, value) :: rest =>
      .comma :: .text name :: .colon :: (lexemes value ++ laterMembers rest)

end

/-- The tokens of the items between the brackets of an array. -/
def itemLexemes : List Json → List Token
  | [] => []
  | item :: rest => lexemes item ++ laterItems rest

/-- The tokens of the members between the brackets of an object. -/
def memberLexemes : List (Text × Json) → List Token
  | [] => []
  | (name, value) :: rest =>
      .text name :: .colon :: (lexemes value ++ laterMembers rest)

theorem lexemes_array (items : List Json) :
    lexemes (.array items) =
      .openArray :: (itemLexemes items ++ [.closeArray]) := by
  cases items <;> simp [lexemes, itemLexemes]

theorem lexemes_object (members : List (Text × Json)) :
    lexemes (.object members) =
      .openObject :: (memberLexemes members ++ [.closeObject]) := by
  cases members <;> simp [lexemes, memberLexemes]

mutual

/-- The document that a written document stands for: members of one name count
once. -/
def settled : Json → Json
  | .array items => .array (settledItems items)
  | .object members => .object (Ordered.ofList (settledMembers members))
  | value => value

/-- The items that written items stand for. -/
def settledItems : List Json → List Json
  | [] => []
  | item :: rest => settled item :: settledItems rest

/-- The members that written members stand for, each on its own. -/
def settledMembers : List (Text × Json) → List (Text × Json)
  | [] => []
  | (name, value) :: rest => (name, settled value) :: settledMembers rest

end

end ResponseService.Json
