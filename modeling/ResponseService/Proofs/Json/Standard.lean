import ResponseService.Proofs.Json.Scalars

/-!
# The standard grammar of JSON

This is the grammar of JSON texts as the standard has it (`IsText`): no word
but `null`, `true` and `false` is a value, an integer may have any number of
digits, and nothing is said about what a text means.  Between quotes the
grammar takes any code point from U+0020 on, surrogates included.

The grammar has a parameter for further words that are admitted as values.  The
dialect that is read is within the grammar with three further words
(`isText_of_denotes`).  Whether a text of that grammar is standard can be seen
from the letters outside its quotations alone (`isText_nil_iff`), since each of
the words has a capital letter that stands nowhere else.
-/

namespace ResponseService.Json

/-- The words that the dialect admits and the standard does not. -/
def furtherWords : List Text := ["NaN", "Infinity", "-Infinity"]

namespace Standard

open Dialect

/-! ## The grammar -/

/-- What may stand between quotes. -/
inductive Characters : Text → Prop where
  | nil : Characters []
  | plain {point : CodePoint} {rest : Text}
      (visible : 0x20 ≤ point.value) (noQuote : point ≠ '"')
      (noBackslash : point ≠ '\\') (tail : Characters rest) :
      Characters (point :: rest)
  | short {letter : CodePoint} {rest : Text}
      (known : letter ∈ Text.ofString "\"\\/bfnrt") (tail : Characters rest) :
      Characters (mark '\\' ++ letter :: rest)
  | numbered {digits rest : Text} (four : digits.length = 4)
      (hexadecimal : ∀ point ∈ digits, ∃ digit, HexDigit point digit)
      (tail : Characters rest) :
      Characters (mark '\\' ++ (mark 'u' ++ (digits ++ rest)))

/-- A number, in digits. -/
inductive IsNumber : Text → Prop where
  | mk {sign whole fraction digits exponent : Text} {negative : Bool}
      {power : Int} (signed : Sign sign negative) (leading : Whole whole)
      (fractional : Fraction fraction digits)
      (scaled : Exponent exponent power) :
      IsNumber (sign ++ (whole ++ (fraction ++ exponent)))

mutual

/-- The text is a value, with no blanks before or behind it, where the further
words are values too. -/
inductive IsValue (further : List Text) : Text → Prop where
  | null : IsValue further "null"
  | yes : IsValue further "true"
  | no : IsValue further "false"
  | word {word : Text} (listed : word ∈ further) : IsValue further word
  | number {text : Text} (numeral : IsNumber text) : IsValue further text
  | text {inside : Text} (between : Characters inside) :
      IsValue further (quoted inside)
  | emptyArray {blanks : Text} (blank : Blanks blanks) :
      IsValue further (mark '[' ++ (blanks ++ mark ']'))
  | array {inside : Text} (listed : IsElements further inside) :
      IsValue further (mark '[' ++ (inside ++ mark ']'))
  | emptyObject {blanks : Text} (blank : Blanks blanks) :
      IsValue further (mark '\x7b' ++ (blanks ++ mark '\x7d'))
  | object {inside : Text} (listed : IsMembers further inside) :
      IsValue further (mark '\x7b' ++ (inside ++ mark '\x7d'))

/-- Values with blanks around them and commas between them. -/
inductive IsElements (further : List Text) : Text → Prop where
  | one {before value after : Text} (blank : Blanks before)
      (head : IsValue further value) (blankAfter : Blanks after) :
      IsElements further (before ++ (value ++ after))
  | more {before value after rest : Text} (blank : Blanks before)
      (head : IsValue further value) (blankAfter : Blanks after)
      (tail : IsElements further rest) :
      IsElements further (before ++ (value ++ (after ++ (mark ',' ++ rest))))

/-- A name, a colon and a value. -/
inductive IsMember (further : List Text) : Text → Prop where
  | mk {name before after value : Text} (named : Characters name)
      (blank : Blanks before) (blankAfter : Blanks after)
      (body : IsValue further value) :
      IsMember further
        (quoted name ++ (before ++ (mark ':' ++ (after ++ value))))

/-- Members with blanks around them and commas between them. -/
inductive IsMembers (further : List Text) : Text → Prop where
  | one {before member after : Text} (blank : Blanks before)
      (head : IsMember further member) (blankAfter : Blanks after) :
      IsMembers further (before ++ (member ++ after))
  | more {before member after rest : Text} (blank : Blanks before)
      (head : IsMember further member) (blankAfter : Blanks after)
      (tail : IsMembers further rest) :
      IsMembers further (before ++ (member ++ (after ++ (mark ',' ++ rest))))

end

/-- The text is one value with blanks around it. -/
def IsText (further : List Text) (text : Text) : Prop :=
  ∃ before value after, text = before ++ (value ++ after) ∧
    Blanks before ∧ Blanks after ∧ IsValue further value

/-! ## The dialect is within the grammar -/

theorem hexadecimal_of_escape {spelling : Text} {point : CodePoint}
    (escape : Escape spelling point) :
    ∃ digits : Text, spelling = mark '\\' ++ (mark 'u' ++ digits) ∧
      digits.length = 4 ∧
      ∀ point ∈ digits, ∃ digit, HexDigit point digit := by
  cases escape with
  | digits first second third fourth =>
      refine ⟨_, rfl, rfl, ?_⟩
      simp only [List.forall_mem_cons, List.not_mem_nil]
      exact ⟨⟨_, first⟩, ⟨_, second⟩, ⟨_, third⟩, ⟨_, fourth⟩, nofun⟩

theorem Characters.escape {spelling rest : Text} {point : CodePoint}
    (escape : Escape spelling point) (tail : Characters rest) :
    Characters (spelling ++ rest) := by
  obtain ⟨digits, rfl, four, hexadecimal⟩ := hexadecimal_of_escape escape
  simp only [List.append_assoc]
  exact .numbered four hexadecimal tail

theorem characters_of_inside {inside value : Text}
    (between : Inside inside value) : Characters inside := by
  have letters : ∀ escape ∈ shortEscapes,
      escape.1 ∈ Text.ofString "\"\\/bfnrt" := by decide
  induction between with
  | nil => exact .nil
  | plain visible noQuote noBackslash _ ih =>
      exact .plain visible noQuote noBackslash ih
  | short known _ ih => exact .short (letters _ known) ih
  | pair first second _ _ _ ih => exact .escape first (.escape second ih)
  | single escape _ _ ih => exact .escape escape ih

theorem isNumber_of_numeral {text : Text} {value : Json}
    (numeral : Numeral text value) : IsNumber text := by
  cases numeral with
  | integer signed leading _ =>
      have plain := IsNumber.mk signed leading .none .none
      simpa using plain
  | float signed leading fractional scaled _ _ =>
      exact .mk signed leading fractional scaled

theorem isValue_of_writes {text : Text} {document : Json}
    (written : Writes text document) : IsValue furtherWords text := by
  -- What may stand behind an item completes every list of values that ends
  -- with the item, and the same holds for members.
  refine @Writes.rec
    (fun text _ _ => IsValue furtherWords text)
    (fun inside _ _ => Blanks inside ∨ IsElements furtherWords inside)
    (fun later _ _ => ∀ before value, Blanks before →
      IsValue furtherWords value →
        IsElements furtherWords (before ++ (value ++ later)))
    (fun text _ _ _ => IsMember furtherWords text)
    (fun inside _ _ => Blanks inside ∨ IsMembers furtherWords inside)
    (fun later _ _ => ∀ before member, Blanks before →
      IsMember furtherWords member →
        IsMembers furtherWords (before ++ (member ++ later)))
    ?null ?yes ?no ?notANumber ?infinity ?negativeInfinity ?number ?text
    ?array ?object ?noItems ?items ?lastItem ?nextItem ?entry ?noEntries
    ?entries ?lastEntry ?nextEntry text document written
  case null => exact .null
  case yes => exact .yes
  case no => exact .no
  case notANumber => exact .word (by simp [furtherWords])
  case infinity => exact .word (by simp [furtherWords])
  case negativeInfinity => exact .word (by simp [furtherWords])
  case number =>
    intro text value numeral
    exact .number (isNumber_of_numeral numeral)
  case text =>
    intro inside value between
    exact .text (characters_of_inside between)
  case array =>
    rintro inside items - (blank | listed)
    · exact .emptyArray blank
    · exact .array listed
  case object =>
    rintro inside entries members - - (blank | listed)
    · exact .emptyObject blank
    · exact .object listed
  case noItems =>
    intro blanks blank
    exact Or.inl blank
  case items =>
    intro before first later item items blank _ _ head tail
    exact Or.inr (tail before first blank head)
  case lastItem =>
    intro blanks blank before value blankBefore head
    exact .one blankBefore head blank
  case nextItem =>
    intro before after first later item items blank blankAfter _ _ next tail
      front value blankFront head
    exact .more blankFront head blank (tail after first blankAfter next)
  case entry =>
    intro inside before after written name value between blank blankAfter _
      body
    exact .mk (characters_of_inside between) blank blankAfter body
  case noEntries =>
    intro blanks blank
    exact Or.inl blank
  case entries =>
    intro before first later name value entries blank _ _ head tail
    exact Or.inr (tail before first blank head)
  case lastEntry =>
    intro blanks blank before member blankBefore head
    exact .one blankBefore head blank
  case nextEntry =>
    intro before after first later name value entries blank blankAfter _ _ next
      tail front member blankFront head
    exact .more blankFront head blank (tail after first blankAfter next)

/-- The dialect is JSON with three further words. -/
theorem isText_of_denotes {text : Text} {document : Json}
    (denotes : Denotes text document) : IsText furtherWords text := by
  obtain ⟨before, written, after, split, blank, blankAfter, writes⟩ := denotes
  exact ⟨before, written, after, split, blank, blankAfter,
    isValue_of_writes writes⟩

/-! ## What stands outside quotations -/

/-- Where a place of a text is with regard to quotations. -/
inductive Quoting where
  | outside
  | within
  /-- Between quotes and directly behind a backslash. -/
  | escaped

namespace Quoting

/-- Take one code point. -/
def step : Quoting → CodePoint → Quoting
  | .outside, point => if point = '"' then .within else .outside
  | .within, point =>
      if point = '\\' then .escaped
      else if point = '"' then .outside
      else .within
  | .escaped, _ => .within

/-- Take a text. -/
def after (quoting : Quoting) (text : Text) : Quoting := text.foldl step quoting

/-- The code points of a text that stand outside quotations. -/
def seen : Quoting → Text → Text
  | _, [] => []
  | .outside, point :: rest => point :: seen (step .outside point) rest
  | quoting, point :: rest => seen (quoting.step point) rest

theorem after_append (quoting : Quoting) (left right : Text) :
    quoting.after (left ++ right) = (quoting.after left).after right :=
  List.foldl_append

theorem seen_append (quoting : Quoting) (left right : Text) :
    quoting.seen (left ++ right) =
      quoting.seen left ++ (quoting.after left).seen right := by
  induction left generalizing quoting with
  | nil => cases quoting <;> rfl
  | cons point rest ih =>
      cases quoting with
      | outside => exact congrArg (List.cons point) (ih _)
      | _ => exact ih _

end Quoting

/-- The text without what stands between quotes. -/
def unquoted (text : Text) : Text := Quoting.seen .outside text

/-- The capital letters that begin the further words, but for a sign. -/
def IsCapital (point : CodePoint) : Prop := point = 'N' ∨ point = 'I'

/-- The text begins and ends outside quotations. -/
def Closed (text : Text) : Prop := Quoting.after .outside text = .outside

theorem unquoted_append {left : Text} (closed : Closed left) (right : Text) :
    unquoted (left ++ right) = unquoted left ++ unquoted right := by
  rw [unquoted, Quoting.seen_append, closed]
  rfl

theorem Closed.append {left right : Text} (leftClosed : Closed left)
    (rightClosed : Closed right) : Closed (left ++ right) := by
  rw [Closed, Quoting.after_append, leftClosed, rightClosed]

/-- A text without quotation marks is as it stands. -/
theorem closed_of_no_quote {text : Text}
    (noQuote : ∀ point ∈ text, point ≠ '"') :
    Closed text ∧ unquoted text = text := by
  induction text with
  | nil => exact ⟨rfl, rfl⟩
  | cons point rest ih =>
      rw [List.forall_mem_cons] at noQuote
      obtain ⟨closed, same⟩ := ih noQuote.2
      have outside : Quoting.step .outside point = .outside := if_neg noQuote.1
      constructor
      · rw [Closed, Quoting.after, List.foldl_cons, outside]
        exact closed
      · rw [unquoted, Quoting.seen, outside]
        exact congrArg (List.cons point) same

/-- Between quotes the text is hidden as a whole. -/
def Hidden (text : Text) : Prop :=
  Quoting.after .within text = .within ∧ Quoting.seen .within text = []

theorem Hidden.append {left right : Text} (leftHidden : Hidden left)
    (rightHidden : Hidden right) : Hidden (left ++ right) := by
  constructor
  · rw [Quoting.after_append, leftHidden.1, rightHidden.1]
  · rw [Quoting.seen_append, leftHidden.1, leftHidden.2, rightHidden.2]
    rfl

theorem hidden_of_plain {text : Text}
    (plain : ∀ point ∈ text, point ≠ '"' ∧ point ≠ '\\') : Hidden text := by
  induction text with
  | nil => exact ⟨rfl, rfl⟩
  | cons point rest ih =>
      rw [List.forall_mem_cons] at plain
      have within : Quoting.step .within point = .within := by
        rw [Quoting.step, if_neg plain.1.2, if_neg plain.1.1]
      have single : Hidden [point] := by
        rw [Hidden, Quoting.after, List.foldl_cons, within, Quoting.seen, within]
        · exact ⟨rfl, rfl⟩
        · exact nofun
      exact single.append (ih plain.2)

theorem plain_of_hexDigit {point : CodePoint} {digit : Nat}
    (valued : HexDigit point digit) : point ≠ '"' ∧ point ≠ '\\' := by
  have lower : ∀ point ∈ Text.ofString "0123456789abcdef",
      point ≠ '"' ∧ point ≠ '\\' := by decide
  have upper : ∀ point ∈ Text.ofString "0123456789ABCDEF",
      point ≠ '"' ∧ point ≠ '\\' := by decide
  rcases valued with small | capital
  · exact lower point (List.mem_of_getElem? small)
  · exact upper point (List.mem_of_getElem? capital)

/-- What may stand between quotes does not end a quotation. -/
theorem Characters.hidden {inside : Text} (between : Characters inside) :
    Hidden inside := by
  induction between with
  | nil => exact ⟨rfl, rfl⟩
  | @plain point rest visible noQuote noBackslash _ ih =>
      have single : Hidden [point] :=
        hidden_of_plain (by simp [noQuote, noBackslash])
      exact single.append ih
  | @short letter rest known _ ih =>
      have escape : Hidden ['\\', letter] := ⟨rfl, rfl⟩
      exact escape.append ih
  | @numbered digits rest four hexadecimal _ ih =>
      have escape : Hidden (mark '\\' ++ mark 'u') := ⟨rfl, rfl⟩
      have hidden : Hidden digits := hidden_of_plain fun point member => by
        obtain ⟨digit, valued⟩ := hexadecimal point member
        exact plain_of_hexDigit valued
      have whole := escape.append (hidden.append ih)
      rwa [List.append_assoc] at whole

theorem closed_quoted {inside : Text} (between : Characters inside) :
    Closed (quoted inside) ∧ unquoted (quoted inside) = mark '"' := by
  obtain ⟨within, hidden⟩ := between.hidden
  have opening : Quoting.after .outside (mark '"') = .within := rfl
  have closing : Quoting.after .within (mark '"') = .outside := rfl
  constructor
  · rw [Closed, quoted, Quoting.after_append, Quoting.after_append, opening,
      within, closing]
  · rw [unquoted, quoted, Quoting.seen_append, Quoting.seen_append, opening,
      within, hidden]
    rfl

/-! ## Letters that are not standard -/

/-- No capital letter that begins a further word stands outside quotations. -/
def Uncapital (text : Text) : Prop := ∀ point ∈ unquoted text, ¬IsCapital point

/-- What the letters outside the quotations of a text tell: unless there are
further words, no capital is among them; and if none is, the text has the
standard form. -/
structure Judged (further : List Text) (text : Text) (standard : Prop) :
    Prop where
  closed : Closed text
  capital : further = [] → Uncapital text
  strict : Uncapital text → standard

theorem uncapital_append_iff {left : Text} (closed : Closed left)
    {right : Text} :
    Uncapital (left ++ right) ↔ Uncapital left ∧ Uncapital right := by
  simp only [Uncapital, unquoted_append closed, List.forall_mem_append]

section Judged

variable {further : List Text}

theorem Judged.append {left right : Text} {first second : Prop}
    (leftJudged : Judged further left first)
    (rightJudged : Judged further right second) :
    Judged further (left ++ right) (first ∧ second) where
  closed := leftJudged.closed.append rightJudged.closed
  capital none := (uncapital_append_iff leftJudged.closed).mpr
    ⟨leftJudged.capital none, rightJudged.capital none⟩
  strict uncapital := by
    rw [uncapital_append_iff leftJudged.closed] at uncapital
    exact ⟨leftJudged.strict uncapital.1, rightJudged.strict uncapital.2⟩

theorem Judged.imp {text : Text} {first second : Prop}
    (judged : Judged further text first) (implies : first → second) :
    Judged further text second :=
  ⟨judged.closed, judged.capital, fun none => implies (judged.strict none)⟩

/-- The text has neither quotation marks nor capitals that begin a further
word. -/
def Neutral (text : Text) : Prop :=
  ∀ point ∈ text, point ≠ '"' ∧ ¬IsCapital point

instance (text : Text) : Decidable (Neutral text) :=
  inferInstanceAs (Decidable
    (∀ point ∈ text, point ≠ '"' ∧ ¬(point = 'N' ∨ point = 'I')))

theorem Neutral.judged {text : Text} (neutral : Neutral text) :
    Judged further text True := by
  obtain ⟨closed, same⟩ :=
    closed_of_no_quote fun point member => (neutral point member).1
  refine ⟨closed, fun _ => ?_, fun _ => trivial⟩
  rw [Uncapital, same]
  exact fun point member => (neutral point member).2

theorem judged_quoted {inside : Text} (between : Characters inside) :
    Judged further (quoted inside) True := by
  obtain ⟨closed, same⟩ := closed_quoted between
  refine ⟨closed, fun _ => ?_, fun _ => trivial⟩
  rw [Uncapital, same]
  unfold IsCapital
  decide

theorem neutral_of_values {text : Text}
    (values : ∀ point ∈ text, point.value ≠ 0x22 ∧ point.value ≠ 0x4E ∧
      point.value ≠ 0x49) : Neutral text := by
  intro point member
  obtain ⟨noQuote, noN, noI⟩ := values point member
  refine ⟨?_, ?_⟩
  · rintro rfl
    exact noQuote rfl
  · rintro (rfl | rfl)
    · exact noN rfl
    · exact noI rfl

theorem Neutral.append {left right : Text} (leftNeutral : Neutral left)
    (rightNeutral : Neutral right) : Neutral (left ++ right) :=
  List.forall_mem_append.mpr ⟨leftNeutral, rightNeutral⟩

theorem neutral_of_blanks {blanks : Text} (blank : Blanks blanks) :
    Neutral blanks := by
  refine neutral_of_values fun point member => ?_
  have value := blank point member
  simp only [List.mem_cons, List.not_mem_nil, or_false] at value
  omega

theorem neutral_of_digits {digits : Text} (all : Digits digits) :
    Neutral digits := by
  refine neutral_of_values fun point member => ?_
  have range := all.2 point member
  omega

theorem neutral_of_exponent {exponent : Text} {power : Int}
    (scaled : Exponent exponent power) : Neutral exponent := by
  cases scaled with
  | none => exact nofun
  | @digits letter sign digits factor known signed all =>
      have mark : Neutral [letter] := by
        rcases known with rfl | rfl <;> decide
      have signs : ∀ choice ∈ [(([] : Text), (1 : Int)), (Dialect.mark '+', 1),
          (Dialect.mark '-', -1)], Neutral choice.1 := by decide
      exact mark.append ((signs _ signed).append (neutral_of_digits all))

theorem neutral_of_number {text : Text} (numeral : IsNumber text) :
    Neutral text := by
  obtain ⟨signed, leading, fractional, scaled⟩ := numeral
  refine Neutral.append ?sign ((neutral_of_digits leading.1).append
    (Neutral.append ?fraction (neutral_of_exponent scaled)))
  case sign => cases signed <;> decide
  case fraction =>
    cases fractional with
    | none => exact nofun
    | digits all =>
        have point : Neutral (mark '.') := by decide
        exact point.append (neutral_of_digits all)

/-- The letters outside quotations tell of every value whether it is standard,
if every further word has a capital. -/
theorem judged_of_isValue
    (known : ∀ word ∈ further, Closed word ∧ ¬Uncapital word) {text : Text}
    (value : IsValue further text) :
    Judged further text (IsValue [] text) := by
  have sign (character : Char) (neutral : Neutral (mark character)) :
      Judged further (mark character) True := neutral.judged
  have blanks {blanks : Text} (blank : Blanks blanks) :
      Judged further blanks (Blanks blanks) :=
    (neutral_of_blanks blank).judged.imp fun _ => blank
  refine @IsValue.rec further
    (fun text _ => Judged further text (IsValue [] text))
    (fun inside _ => Judged further inside (IsElements [] inside))
    (fun text _ => Judged further text (IsMember [] text))
    (fun inside _ => Judged further inside (IsMembers [] inside))
    ?null ?yes ?no ?word ?number ?text ?emptyArray ?array ?emptyObject ?object
    ?lastElement ?nextElement ?member ?lastMember ?nextMember text value
  case null =>
    have neutral : Neutral "null" := by decide
    exact neutral.judged.imp fun _ => .null
  case yes =>
    have neutral : Neutral "true" := by decide
    exact neutral.judged.imp fun _ => .yes
  case no =>
    have neutral : Neutral "false" := by decide
    exact neutral.judged.imp fun _ => .no
  case word =>
    intro word listed
    obtain ⟨closed, capital⟩ := known word listed
    refine ⟨closed, ?_, fun none => absurd none capital⟩
    rintro rfl
    cases listed
  case number =>
    intro text numeral
    exact (neutral_of_number numeral).judged.imp fun _ => .number numeral
  case text =>
    intro inside between
    exact (judged_quoted between).imp fun _ => .text between
  case emptyArray =>
    intro inside blank
    exact ((sign '[' (by decide)).append
      ((blanks blank).append (sign ']' (by decide)))).imp
        fun _ => .emptyArray blank
  case array =>
    intro inside _ judged
    exact ((sign '[' (by decide)).append
      (judged.append (sign ']' (by decide)))).imp
        fun parts => .array parts.2.1
  case emptyObject =>
    intro inside blank
    exact ((sign '\x7b' (by decide)).append
      ((blanks blank).append (sign '\x7d' (by decide)))).imp
        fun _ => .emptyObject blank
  case object =>
    intro inside _ judged
    exact ((sign '\x7b' (by decide)).append
      (judged.append (sign '\x7d' (by decide)))).imp
        fun parts => .object parts.2.1
  case lastElement =>
    intro before value after blank _ blankAfter judged
    exact ((blanks blank).append (judged.append (blanks blankAfter))).imp
      fun parts => .one blank parts.2.1 blankAfter
  case nextElement =>
    intro before value after rest blank _ blankAfter _ judged tail
    exact ((blanks blank).append (judged.append ((blanks blankAfter).append
      ((sign ',' (by decide)).append tail)))).imp
        fun parts => .more blank parts.2.1 blankAfter parts.2.2.2.2
  case member =>
    intro name before after value named blank blankAfter _ judged
    exact ((judged_quoted named).append ((blanks blank).append
      ((sign ':' (by decide)).append ((blanks blankAfter).append judged)))).imp
        fun parts => .mk named blank blankAfter parts.2.2.2.2
  case lastMember =>
    intro before member after blank _ blankAfter judged
    exact ((blanks blank).append (judged.append (blanks blankAfter))).imp
      fun parts => .one blank parts.2.1 blankAfter
  case nextMember =>
    intro before member after rest blank _ blankAfter _ judged tail
    exact ((blanks blank).append (judged.append ((blanks blankAfter).append
      ((sign ',' (by decide)).append tail)))).imp
        fun parts => .more blank parts.2.1 blankAfter parts.2.2.2.2

/-- The letters outside quotations tell of every text whether it is standard,
if every further word has a capital. -/
theorem judged_of_isText
    (known : ∀ word ∈ further, Closed word ∧ ¬Uncapital word) {text : Text}
    (isText : IsText further text) : Judged further text (IsText [] text) := by
  obtain ⟨before, value, after, rfl, blank, blankAfter, written⟩ := isText
  have judged := judged_of_isValue known written
  exact ((neutral_of_blanks blank).judged.append
    (judged.append (neutral_of_blanks blankAfter).judged)).imp
      fun parts => ⟨before, value, after, rfl, blank, blankAfter, parts.2.1⟩

end Judged

theorem capital_of_furtherWords :
    ∀ word ∈ furtherWords, Closed word ∧ ¬Uncapital word := by
  intro word listed
  simp only [furtherWords, List.mem_cons, List.not_mem_nil, or_false] at listed
  rcases listed with rfl | rfl | rfl
  · exact ⟨rfl, fun none => none 'N' (by decide) (Or.inl rfl)⟩
  · exact ⟨rfl, fun none => none 'I' (by decide) (Or.inr rfl)⟩
  · exact ⟨rfl, fun none => none 'I' (by decide) (Or.inr rfl)⟩

/-- A text of the standard grammar has no capital that begins a further word
outside its quotations. -/
theorem uncapital_of_isText {text : Text} (standard : IsText [] text) :
    Uncapital text :=
  (judged_of_isText (List.forall_mem_nil _) standard).capital rfl

/-- With the further words, a text is standard exactly if no capital that
begins one of them stands outside its quotations. -/
theorem isText_nil_iff {text : Text} (extended : IsText furtherWords text) :
    IsText [] text ↔ Uncapital text :=
  ⟨uncapital_of_isText,
    (judged_of_isText capital_of_furtherWords extended).strict⟩

end Standard

end ResponseService.Json
