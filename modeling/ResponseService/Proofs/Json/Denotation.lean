import ResponseService.Proofs.Json.Nesting
import ResponseService.Proofs.Json.Scalars
import ResponseService.Proofs.Schema.Naming

/-!
# The reader reads what a text denotes

The tokens of written documents and the dialect are two accounts of the same
texts: a text spells the tokens of a written document exactly if it denotes
what the written document stands for (`denotes_iff`).

The reader is known to accept the tokens of documents that are not nested too
deeply.  So it reads a text whose brackets are not nested too deeply exactly if
the text denotes a document (`parse_eq_ok_iff_denotes`).
-/

namespace ResponseService.Json.Dialect

/-! ## Tokens -/

theorem blank_iff {point : CodePoint} :
    point.value ∈ [0x20, 0x09, 0x0A, 0x0D] ↔ isBlank point = true := by
  simp [isBlank, or_assoc]

theorem eq_of_punctuation? {left right : CodePoint} {token : Token}
    (leftKnown : punctuation? left = some token)
    (rightKnown : punctuation? right = some token) : left = right := by
  apply CodePoint.eq_of_value_eq
  simp only [punctuation?] at leftKnown rightKnown
  split_ifs at leftKnown <;> cases leftKnown <;>
    split_ifs at rightKnown <;> first | omega | cases rightKnown

theorem eq_mark_of_spelled {token : Token} {spelling : Text}
    (spelled : token.Spelled spelling) {character : Char}
    (known : punctuation? character = some token) :
    spelling = mark character := by
  have noText (value : Text) : punctuation? character ≠ some (.text value) := by
    simp only [punctuation?]
    split_ifs <;> simp
  have noScalar (value : Json) :
      punctuation? character ≠ some (.scalar value) := by
    simp only [punctuation?]
    split_ifs <;> simp
  cases spelled with
  | mark other => rw [eq_of_punctuation? other known, mark]
  | quoted inside => exact absurd known (noText _)
  | word listed => exact absurd known (noScalar _)
  | number wellFormed valued => exact absurd known (noScalar _)

theorem inside_of_spelled {value spelling : Text}
    (spelled : (Token.text value).Spelled spelling) :
    ∃ inside, spelling = quoted inside ∧ Inside inside value := by
  rcases exists_units_of_spelled spelled with ⟨units, inside, rfl, inner, rfl⟩
  exact ⟨inside, rfl, inside_of_units inner⟩

theorem spelled_of_inside {inside value : Text}
    (between : Inside inside value) :
    (Token.text value).Spelled (quoted inside) := by
  rcases units_of_inside between with ⟨units, spelled, rfl⟩
  exact .quoted spelled

theorem writes_of_spelled {value : Json} {spelling : Text}
    (spelled : (Token.scalar value).Spelled spelling) :
    Writes spelling value := by
  generalize same : Token.scalar value = token at spelled
  cases spelled with
  | mark known =>
      subst same
      simp only [punctuation?] at known
      split_ifs at known <;> cases known
  | quoted inside => cases same
  | word known =>
      cases same
      simp only [words, List.mem_cons, Prod.mk.injEq, List.not_mem_nil,
        or_false] at known
      rcases known with ⟨rfl, rfl⟩ | ⟨rfl, rfl⟩ | ⟨rfl, rfl⟩ | ⟨rfl, rfl⟩ |
        ⟨rfl, rfl⟩ | ⟨rfl, rfl⟩
      · exact .null
      · exact .yes
      · exact .no
      · exact .notANumber
      · exact .infinity
      · exact .negativeInfinity
  | number wellFormed valued =>
      cases same
      exact .number (numeral_iff.mpr ⟨_, wellFormed, valued, rfl⟩)

theorem blanks_of_lexes {text : Text} (lexes : Lexes text []) : Blanks text := by
  generalize same : ([] : List Token) = tokens at lexes
  induction lexes with
  | nil => exact nofun
  | blank blank _ ih =>
      have later := ih same
      intro point member
      rcases List.mem_cons.mp member with rfl | behind
      · exact blank_iff.mpr blank
      · exact later point behind
  | token head _ _ => cases same

theorem lexes_of_blanks {blanks : Text} (blank : Blanks blanks) :
    Lexes blanks [] := by
  induction blanks with
  | nil => exact .nil
  | cons point rest ih =>
      rw [Blanks, List.forall_mem_cons] at blank
      exact .blank (blank_iff.mp blank.1) (ih blank.2)

theorem Blanks.lexes {blanks text : Text} {tokens : List Token}
    (blank : Blanks blanks) (lexes : Lexes text tokens) :
    Lexes (blanks ++ text) tokens :=
  (lexes_of_blanks blank).append lexes

theorem exists_first {text : Text} {token : Token} {more : List Token}
    (lexes : Lexes text (token :: more)) :
    ∃ before spelling after, text = before ++ (spelling ++ after) ∧
      Blanks before ∧ token.Spelled spelling ∧ Lexes after more := by
  generalize same : token :: more = tokens at lexes
  induction lexes with
  | nil => cases same
  | @blank point rest tokens blank _ ih =>
      rcases ih same with ⟨before, spelling, after, rfl, blanks, spelled, tail⟩
      refine ⟨point :: before, spelling, after, rfl, ?_, spelled, tail⟩
      rw [Blanks, List.forall_mem_cons]
      exact ⟨blank_iff.mpr blank, blanks⟩
  | token head tail _ =>
      cases same
      exact ⟨[], _, _, rfl, nofun, head, tail⟩

theorem exists_mark {text : Text} {token : Token} {more : List Token}
    (character : Char) (known : punctuation? character = some token)
    (lexes : Lexes text (token :: more)) :
    ∃ before after, text = before ++ (mark character ++ after) ∧
      Blanks before ∧ Lexes after more := by
  rcases exists_first lexes with
    ⟨before, spelling, after, split, blanks, spelled, tail⟩
  rw [eq_mark_of_spelled spelled known] at split
  exact ⟨before, after, split, blanks, tail⟩

/-! ## What tokens denote -/

theorem writes_of_scalar {text : Text} {value : Json} {more : List Token}
    (lexes : Lexes text (.scalar value :: more)) :
    ∃ before written after, text = before ++ (written ++ after) ∧
      Blanks before ∧ Writes written value ∧ Lexes after more := by
  rcases exists_first lexes with
    ⟨before, spelling, after, split, blanks, spelled, tail⟩
  exact ⟨before, spelling, after, split, blanks, writes_of_spelled spelled,
    tail⟩

/-- Where a text begins with the tokens of the written document, it begins with
a value that denotes what the document stands for. -/
def Denoted (tree : Json) : Prop :=
  ∀ (text : Text) (more : List Token), Lexes text (lexemes tree ++ more) →
    ∃ before written after, text = before ++ (written ++ after) ∧
      Blanks before ∧ Writes written (settled tree) ∧ Lexes after more

theorem writesEntry_of_lexes {name : Text} {value : Json}
    (denoted : Denoted value) {text : Text} {more : List Token}
    (lexes : Lexes text (.text name :: .colon :: (lexemes value ++ more))) :
    ∃ before written after, text = before ++ (written ++ after) ∧
      Blanks before ∧ WritesEntry written name (settled value) ∧
      Lexes after more := by
  rcases exists_first lexes with
    ⟨before, spelling, behind, rfl, blanks, spelled, named⟩
  rcases inside_of_spelled spelled with ⟨inside, rfl, between⟩
  rcases exists_mark ':' rfl named with
    ⟨beforeColon, behind, rfl, blanksColon, tail⟩
  rcases denoted _ _ tail with
    ⟨afterColon, written, after, rfl, blanksAfter, body, ending⟩
  refine ⟨before,
    quoted inside ++ (beforeColon ++ (mark ':' ++ (afterColon ++ written))),
    after, ?_, blanks, .colon between blanksColon blanksAfter body, ending⟩
  simp

mutual

theorem denoted (tree : Json) : Denoted tree := by
  intro text more lexes
  cases tree with
  | text value =>
      rcases exists_first lexes with
        ⟨before, spelling, after, split, blanks, spelled, tail⟩
      rcases inside_of_spelled spelled with ⟨inside, rfl, between⟩
      exact ⟨before, quoted inside, after, split, blanks, .text between, tail⟩
  | array items =>
      rw [lexemes_array, List.cons_append, List.append_assoc] at lexes
      rcases exists_mark '[' rfl lexes with
        ⟨before, behind, rfl, blanks, tail⟩
      rcases writesItems_of_lexes items tail with
        ⟨inside, after, rfl, listed, rest⟩
      refine ⟨before, mark '[' ++ (inside ++ mark ']'), after, ?_, blanks,
        .array listed, rest⟩
      simp
  | object members =>
      rw [lexemes_object, List.cons_append, List.append_assoc] at lexes
      rcases exists_mark '\x7b' rfl lexes with
        ⟨before, behind, rfl, blanks, tail⟩
      rcases writesEntries_of_lexes members tail with
        ⟨inside, after, rfl, listed, rest⟩
      refine ⟨before, mark '\x7b' ++ (inside ++ mark '\x7d'), after, ?_, blanks,
        .object listed (merges_iff.mpr rfl), rest⟩
      simp
  | foreign value => exact value.elim
  | _ => exact writes_of_scalar lexes

theorem writesItems_of_lexes (items : List Json) {text : Text}
    {more : List Token}
    (lexes : Lexes text (itemLexemes items ++ ([.closeArray] ++ more))) :
    ∃ inside after, text = inside ++ (mark ']' ++ after) ∧
      WritesItems inside (settledItems items) ∧ Lexes after more := by
  cases items with
  | nil =>
      rcases exists_mark ']' rfl lexes with
        ⟨before, after, rfl, blanks, tail⟩
      exact ⟨before, after, rfl, .none blanks, tail⟩
  | cons item rest =>
      rw [itemLexemes, List.append_assoc] at lexes
      rcases denoted item _ _ lexes with
        ⟨before, first, behind, rfl, blanks, written, tail⟩
      rcases writesLaterItems_of_lexes rest tail with
        ⟨later, after, rfl, listed, ending⟩
      refine ⟨before ++ (first ++ later), after, ?_,
        .some blanks written listed, ending⟩
      simp

theorem writesLaterItems_of_lexes (items : List Json) {text : Text}
    {more : List Token}
    (lexes : Lexes text (laterItems items ++ ([.closeArray] ++ more))) :
    ∃ later after, text = later ++ (mark ']' ++ after) ∧
      WritesLaterItems later (settledItems items) ∧ Lexes after more := by
  cases items with
  | nil =>
      rcases exists_mark ']' rfl lexes with
        ⟨before, after, rfl, blanks, tail⟩
      exact ⟨before, after, rfl, .done blanks, tail⟩
  | cons item rest =>
      rw [laterItems, List.cons_append, List.append_assoc] at lexes
      rcases exists_mark ',' rfl lexes with
        ⟨before, behind, rfl, blanks, separated⟩
      rcases denoted item _ _ separated with
        ⟨between, first, behind, rfl, blanksAfter, written, tail⟩
      rcases writesLaterItems_of_lexes rest tail with
        ⟨later, after, rfl, listed, ending⟩
      refine ⟨before ++ (mark ',' ++ (between ++ (first ++ later))), after, ?_,
        .comma blanks blanksAfter written listed, ending⟩
      simp

theorem writesEntries_of_lexes (members : List (Text × Json)) {text : Text}
    {more : List Token}
    (lexes : Lexes text (memberLexemes members ++ ([.closeObject] ++ more))) :
    ∃ inside after, text = inside ++ (mark '\x7d' ++ after) ∧
      WritesEntries inside (settledMembers members) ∧ Lexes after more := by
  cases members with
  | nil =>
      rcases exists_mark '\x7d' rfl lexes with
        ⟨before, after, rfl, blanks, tail⟩
      exact ⟨before, after, rfl, .none blanks, tail⟩
  | cons member rest =>
      rcases member with ⟨name, value⟩
      rw [memberLexemes, List.cons_append, List.cons_append,
        List.append_assoc] at lexes
      rcases writesEntry_of_lexes (denoted value) lexes with
        ⟨before, first, behind, rfl, blanks, written, tail⟩
      rcases writesLaterEntries_of_lexes rest tail with
        ⟨later, after, rfl, listed, ending⟩
      refine ⟨before ++ (first ++ later), after, ?_,
        .some blanks written listed, ending⟩
      simp

theorem writesLaterEntries_of_lexes (members : List (Text × Json))
    {text : Text} {more : List Token}
    (lexes : Lexes text (laterMembers members ++ ([.closeObject] ++ more))) :
    ∃ later after, text = later ++ (mark '\x7d' ++ after) ∧
      WritesLaterEntries later (settledMembers members) ∧
      Lexes after more := by
  cases members with
  | nil =>
      rcases exists_mark '\x7d' rfl lexes with
        ⟨before, after, rfl, blanks, tail⟩
      exact ⟨before, after, rfl, .done blanks, tail⟩
  | cons member rest =>
      rcases member with ⟨name, value⟩
      rw [laterMembers, List.cons_append, List.cons_append, List.cons_append,
        List.append_assoc] at lexes
      rcases exists_mark ',' rfl lexes with
        ⟨before, behind, rfl, blanks, separated⟩
      rcases writesEntry_of_lexes (denoted value) separated with
        ⟨between, first, behind, rfl, blanksAfter, written, tail⟩
      rcases writesLaterEntries_of_lexes rest tail with
        ⟨later, after, rfl, listed, ending⟩
      refine ⟨before ++ (mark ',' ++ (between ++ (first ++ later))), after, ?_,
        .comma blanks blanksAfter written listed, ending⟩
      simp

end

/-! ## Tokens of what denotes a document -/

theorem lexes_mark (character : Char) {token : Token} {text : Text}
    {tokens : List Token} (known : punctuation? character = some token)
    (lexes : Lexes text tokens) :
    Lexes (mark character ++ text) (token :: tokens) :=
  .token (.mark known) lexes

theorem exists_tree_of_scalar {text : Text} {value : Json}
    (spelled : (Token.scalar value).Spelled text) :
    ∃ tree, Lexes text (lexemes tree) ∧ settled tree = value := by
  rcases Token.IsAtomic.lexemes_eq spelled.isAtomic with ⟨alone, same, _⟩
  refine ⟨value, ?_, same⟩
  rw [alone]
  exact .single spelled

/-- What denotes a document spells the tokens of a written document that stands
for it. -/
theorem Writes.exists_tree {text : Text} {document : Json}
    (written : Writes text document) :
    ∃ tree, Lexes text (lexemes tree) ∧ settled tree = document := by
  -- The induction is on all forms of the grammar at once, each with the tokens
  -- that it is spelled in.
  refine @Writes.rec
    (fun text document _ =>
      ∃ tree, Lexes text (lexemes tree) ∧ settled tree = document)
    (fun inside items _ =>
      ∃ trees, Lexes inside (itemLexemes trees) ∧ settledItems trees = items)
    (fun later items _ =>
      ∃ trees, Lexes later (laterItems trees) ∧ settledItems trees = items)
    (fun text name value _ =>
      ∃ tree, Lexes text (.text name :: .colon :: lexemes tree) ∧
        settled tree = value)
    (fun inside entries _ =>
      ∃ trees, Lexes inside (memberLexemes trees) ∧
        settledMembers trees = entries)
    (fun later entries _ =>
      ∃ trees, Lexes later (laterMembers trees) ∧
        settledMembers trees = entries)
    ?null ?yes ?no ?notANumber ?infinity ?negativeInfinity ?number ?text
    ?array ?object ?noItems ?items ?lastItem ?nextItem ?entry ?noEntries
    ?entries ?lastEntry ?nextEntry text document written
  case null => exact exists_tree_of_scalar (.word (by simp [words]))
  case yes => exact exists_tree_of_scalar (.word (by simp [words]))
  case no => exact exists_tree_of_scalar (.word (by simp [words]))
  case notANumber => exact exists_tree_of_scalar (.word (by simp [words]))
  case infinity => exact exists_tree_of_scalar (.word (by simp [words]))
  case negativeInfinity =>
    exact exists_tree_of_scalar (.word (by simp [words]))
  case number =>
    intro text value numeral
    rcases numeral_iff.mp numeral with ⟨number, wellFormed, valued, rfl⟩
    exact exists_tree_of_scalar (.number wellFormed valued)
  case text =>
    intro inside value between
    exact ⟨.text value, .single (spelled_of_inside between), rfl⟩
  case array =>
    rintro inside items - ⟨trees, lexes, rfl⟩
    refine ⟨.array trees, ?_, rfl⟩
    rw [lexemes_array]
    exact lexes_mark '[' rfl (lexes.append (.single (.mark rfl)))
  case object =>
    rintro inside entries members - merged ⟨trees, lexes, rfl⟩
    refine ⟨.object trees, ?_, ?_⟩
    · rw [lexemes_object]
      exact lexes_mark '\x7b' rfl (lexes.append (.single (.mark rfl)))
    · rw [settled, merges_iff.mp merged]
  case noItems =>
    intro inside blanks
    exact ⟨[], lexes_of_blanks blanks, rfl⟩
  case items =>
    rintro before first later item items blanks - - ⟨tree, lexes, rfl⟩
      ⟨trees, behind, rfl⟩
    exact ⟨tree :: trees, blanks.lexes (lexes.append behind), rfl⟩
  case lastItem =>
    intro later blanks
    exact ⟨[], lexes_of_blanks blanks, rfl⟩
  case nextItem =>
    rintro before after first later item items blanks blanksAfter - -
      ⟨tree, lexes, rfl⟩ ⟨trees, behind, rfl⟩
    exact ⟨tree :: trees, blanks.lexes (lexes_mark ',' rfl
      (blanksAfter.lexes (lexes.append behind))), rfl⟩
  case entry =>
    rintro inside before after written name value between blanks blanksAfter -
      ⟨tree, lexes, rfl⟩
    exact ⟨tree, .token (spelled_of_inside between)
      (blanks.lexes (lexes_mark ':' rfl (blanksAfter.lexes lexes))), rfl⟩
  case noEntries =>
    intro inside blanks
    exact ⟨[], lexes_of_blanks blanks, rfl⟩
  case entries =>
    rintro before first later name value entries blanks - - ⟨tree, lexes, rfl⟩
      ⟨trees, behind, rfl⟩
    exact ⟨(name, tree) :: trees, blanks.lexes (lexes.append behind), rfl⟩
  case lastEntry =>
    intro later blanks
    exact ⟨[], lexes_of_blanks blanks, rfl⟩
  case nextEntry =>
    rintro before after first later name value entries blanks blanksAfter - -
      ⟨tree, lexes, rfl⟩ ⟨trees, behind, rfl⟩
    exact ⟨(name, tree) :: trees, blanks.lexes (lexes_mark ',' rfl
      (blanksAfter.lexes (lexes.append behind))), rfl⟩

/-- A text denotes what the written document stands for whose tokens it
spells. -/
theorem denotes_iff {text : Text} {document : Json} :
    Denotes text document ↔
      ∃ tree, Lexes text (lexemes tree) ∧ settled tree = document := by
  constructor
  · rintro ⟨before, written, after, rfl, blanks, blanksAfter, writes⟩
    rcases writes.exists_tree with ⟨tree, lexes, same⟩
    refine ⟨tree, blanks.lexes ?_, same⟩
    simpa using lexes.append (lexes_of_blanks blanksAfter)
  · rintro ⟨tree, lexes, rfl⟩
    rw [← List.append_nil (lexemes tree)] at lexes
    rcases denoted tree _ _ lexes with
      ⟨before, written, after, split, blanks, writes, rest⟩
    exact ⟨before, written, after, split, blanks, blanks_of_lexes rest, writes⟩

/-! ## Reading -/

theorem denotes_of_readWithin {limit : Nat} {text : Text} {document : Json}
    (read : readWithin limit text = .ok document) : Denotes text document := by
  obtain ⟨tree, lexes, -, same⟩ := readWithin_eq_ok_iff.mp read
  exact denotes_iff.mpr ⟨tree, lexes, same⟩

/-- Where brackets are not nested too deeply, a text is read exactly if it
denotes a document, and what is read is that document. -/
theorem parse_eq_ok_iff_denotes {text : Text} (shallow : nesting text ≤ 300)
    {document : Json} :
    parse text = .ok document ↔ Denotes text document := by
  rw [parse_eq_ok_iff, read_eq_ok_iff, denotes_iff]
  constructor
  · rintro ⟨tree, lexes, _, same⟩
    exact ⟨tree, lexes, same⟩
  · rintro ⟨tree, lexes, same⟩
    rw [nesting_eq_depth lexes] at shallow
    refine ⟨tree, lexes, shallow.trans ?_, same⟩
    decide

/-- A name is escaped and repeated, a pair of surrogates is escaped with half a
pair behind it, and the last value is no integer. -/
def repeatedText : Text :=
  "\x7b\"\\u0061\": -0,\n\"b\":\"\\uD83D\\uDE00\\ud83d\",\"a\" :5e-1\x7d "

/-- What it denotes: one half, and a face with half a pair behind it. -/
def repeatedDocument : Json :=
  .object [("a", .float (.finite false (2 ^ 52) (-53))),
    ("b", .text [CodePoint.ofNat 0x1F600, CodePoint.ofNat 0xD83D])]

theorem numeral_half :
    Numeral ([] ++ (mark '5' ++ ([] ++
        (CodePoint.ofChar 'e' :: (mark '-' ++ mark '1')))))
      (.float (.finite false (2 ^ 52) (-53))) := by
  have five : Whole (mark '5') := ⟨⟨nofun, by decide⟩, by decide⟩
  have scaled : Exponent (CodePoint.ofChar 'e' :: (mark '-' ++ mark '1'))
      (-1 * numberOf (mark '1')) :=
    .digits (Or.inl rfl) (by simp) ⟨nofun, by decide⟩
  have rounded : Double.ofScaled false 5 (-1) =
      .finite false (2 ^ 52) (-53) := by decide +kernel
  have nearest := Double.ofScaled_rounds false 5 (-1)
  rw [rounded] at nearest
  exact .float .none five .none scaled nofun nearest

theorem denotes_repeated : Denotes repeatedText repeatedDocument := by
  have nothing : Blanks [] := nofun
  have space : Blanks (mark ' ') := by
    unfold Blanks
    decide
  have line : Blanks [CodePoint.ofNat 0x0A] := by
    unfold Blanks
    decide
  have letter : Escape ['\\', 'u', '0', '0', '6', '1'] (CodePoint.ofNat 0x61) :=
    escape_of_fourDigits? rfl
  have high : Escape ['\\', 'u', 'D', '8', '3', 'D'] (CodePoint.ofNat 0xD83D) :=
    escape_of_fourDigits? rfl
  have low : Escape ['\\', 'u', 'D', 'E', '0', '0'] (CodePoint.ofNat 0xDE00) :=
    escape_of_fourDigits? rfl
  have other : Escape ['\\', 'u', 'd', '8', '3', 'd'] (CodePoint.ofNat 0xD83D) :=
    escape_of_fourDigits? rfl
  have alone : ¬BeginsWithLow [] := by
    rintro ⟨_, _, _, split, ⟨⟩, _⟩
    cases split
  have escapedName := Inside.single letter (fun _ => alone) .nil
  have plainName : Inside (mark 'a') (mark 'a') :=
    .plain (by decide) (by decide) (by decide) .nil
  have secondName : Inside (mark 'b') (mark 'b') :=
    .plain (by decide) (by decide) (by decide) .nil
  have faces := Inside.pair high low (by decide) (by decide)
    (.single other (fun _ => alone) .nil)
  have zero : Numeral (mark '-' ++ mark '0') _ :=
    .integer .minus ⟨⟨nofun, by decide⟩, by decide⟩ (by decide)
  have listed := WritesEntries.some nothing
    (.colon escapedName nothing space (.number zero))
    (.comma nothing line (.colon secondName nothing nothing (.text faces))
      (.comma nothing nothing
        (.colon plainName space nothing (.number numeral_half))
        (.done nothing)))
  refine ⟨[], _, mark ' ', ?_, nothing, space,
    .object listed (merges_iff.mpr rfl)⟩
  decide +kernel

theorem parse_eq_ok_iff_denotes_repeated :
    nesting repeatedText ≤ 300 ∧ Denotes repeatedText repeatedDocument ∧
      parse repeatedText = .ok repeatedDocument := by
  have shallow : nesting repeatedText ≤ 300 := by decide +kernel
  exact ⟨shallow, denotes_repeated,
    (parse_eq_ok_iff_denotes shallow).mpr denotes_repeated⟩

end ResponseService.Json.Dialect
