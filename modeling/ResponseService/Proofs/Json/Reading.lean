import ResponseService.Proofs.Json.Machine
import ResponseService.Proofs.Json.Tokens

/-!
# The reader accepts the grammar

A text is read as a document exactly if it spells the tokens of a written
document that is not nested too deeply and stands for that document
(`readWithin_eq_ok_iff`).  The grammar of the texts leaves open where a number
ends; the tokens of a document never put two scalars side by side
(`separated_lexemes`), so no reading is lost.
-/

namespace ResponseService.Json

/-! ## The tokens of documents are separated -/

mutual

theorem separated_lexemes_append (tree : Json) (more : List Token)
    (mark : BeginsWithMark more) (separated : Separated more) :
    Separated (lexemes tree ++ more) := by
  have scalar (value : Json) : Separated ([.scalar value] ++ more) :=
    ⟨fun _ => mark, separated⟩
  cases tree with
  | null => exact scalar _
  | boolean value => exact scalar _
  | integer value => exact scalar _
  | float value => exact scalar _
  | text value => exact ⟨False.elim, separated⟩
  | foreign value => exact value.elim
  | array items =>
      cases items with
      | nil => exact ⟨False.elim, False.elim, separated⟩
      | cons item rest =>
          have close : Separated (.closeArray :: more) :=
            ⟨False.elim, separated⟩
          obtain ⟨laterMark, later⟩ := separated_laterItems_append rest
            (.closeArray :: more) (by rintro _ ⟨⟩; trivial) close
          have first := separated_lexemes_append item _ laterMark later
          rw [lexemes]
          simp only [List.cons_append, List.append_assoc]
          exact ⟨False.elim, first⟩
  | object members =>
      cases members with
      | nil => exact ⟨False.elim, False.elim, separated⟩
      | cons member rest =>
          rcases member with ⟨name, value⟩
          have close : Separated (.closeObject :: more) :=
            ⟨False.elim, separated⟩
          obtain ⟨laterMark, later⟩ := separated_laterMembers_append rest
            (.closeObject :: more) (by rintro _ ⟨⟩; trivial) close
          have first := separated_lexemes_append value _ laterMark later
          rw [lexemes]
          simp only [List.cons_append, List.append_assoc]
          exact ⟨False.elim, False.elim, False.elim, first⟩

theorem separated_laterItems_append (rest : List Json) (more : List Token)
    (mark : BeginsWithMark more) (separated : Separated more) :
    BeginsWithMark (laterItems rest ++ more) ∧
      Separated (laterItems rest ++ more) := by
  cases rest with
  | nil => exact ⟨mark, separated⟩
  | cons item rest =>
      rcases separated_laterItems_append rest more mark separated with
        ⟨laterMark, later⟩
      have first := separated_lexemes_append item _ laterMark later
      rw [laterItems]
      simp only [List.cons_append, List.append_assoc]
      refine ⟨?_, False.elim, first⟩
      rintro _ ⟨⟩
      trivial

theorem separated_laterMembers_append (rest : List (Text × Json))
    (more : List Token) (mark : BeginsWithMark more)
    (separated : Separated more) :
    BeginsWithMark (laterMembers rest ++ more) ∧
      Separated (laterMembers rest ++ more) := by
  cases rest with
  | nil => exact ⟨mark, separated⟩
  | cons member rest =>
      rcases member with ⟨name, value⟩
      rcases separated_laterMembers_append rest more mark separated with
        ⟨laterMark, later⟩
      have first := separated_lexemes_append value _ laterMark later
      rw [laterMembers]
      simp only [List.cons_append, List.append_assoc]
      refine ⟨?_, False.elim, False.elim, False.elim, first⟩
      rintro _ ⟨⟩
      trivial

end

/-- No two scalars stand side by side among the tokens of a document. -/
theorem separated_lexemes (tree : Json) : Separated (lexemes tree) := by
  have separated := separated_lexemes_append tree [] (by rintro _ ⟨⟩) trivial
  rwa [List.append_nil] at separated

/-! ## Scalars that are spelled -/

theorem isAtomic_of_punctuation? {point : CodePoint} {token : Token}
    (known : punctuation? point = some token) : token.IsAtomic := by
  simp only [punctuation?] at known
  split_ifs at known <;> cases known <;> trivial

theorem isAtomic_of_number {number : NumberSpelling} {value : Json}
    (valued : number.value = .ok value) : (Token.scalar value).IsAtomic := by
  unfold NumberSpelling.value at valued
  split at valued
  · split_ifs at valued
    all_goals cases valued; trivial
  · cases valued
    trivial

theorem Token.Spelled.isAtomic {token : Token} {spelling : Text}
    (spelled : token.Spelled spelling) : token.IsAtomic := by
  cases spelled with
  | mark known => exact isAtomic_of_punctuation? known
  | quoted inside => trivial
  | word known =>
      simp only [words, List.mem_cons, Prod.mk.injEq, List.not_mem_nil,
        or_false] at known
      rcases known with ⟨_, rfl⟩ | ⟨_, rfl⟩ | ⟨_, rfl⟩ | ⟨_, rfl⟩ | ⟨_, rfl⟩ |
        ⟨_, rfl⟩ <;> trivial
  | number wellFormed valued => exact isAtomic_of_number valued

theorem Lexes.isAtomic {text : Text} {tokens : List Token}
    (lexes : Lexes text tokens) : ∀ token ∈ tokens, token.IsAtomic := by
  induction lexes with
  | nil => simp
  | blank _ _ ih => exact ih
  | token head _ ih => simpa using ⟨head.isAtomic, ih⟩

/-! ## Reading -/

theorem finish_eq_ok_iff {state : State} {ending : Ending} {document : Json} :
    finish state ending = .ok document ↔
      ending.obstacle = none ∧ state = .complete document := by
  rcases ending with ⟨position, obstacle⟩
  cases obstacle with
  | none => cases state <;> simp [finish]
  | some obstacle =>
      cases obstacle <;> simp [finish] <;> split <;> simp

/-- The reader accepts exactly the texts of the grammar, and reads what they
stand for. -/
theorem readWithin_eq_ok_iff {limit : Nat} {text : Text} {document : Json} :
    readWithin limit text = .ok document ↔
      ∃ tree, Lexes text (lexemes tree) ∧ Value.depth tree ≤ limit ∧
        settled tree = document := by
  constructor
  · intro read
    unfold readWithin at read
    split at read
    · cases read
    · cases taken : run limit (.value []) (tokens text).1 with
      | error problem => simp [taken] at read
      | ok state =>
          simp only [taken, finish_eq_ok_iff] at read
          rcases read with ⟨complete, rfl⟩
          have lexes := lexes_of_tokens complete
          obtain ⟨tree, split, shallow, same⟩ :=
            (advanceAll_eq_complete_iff lexes.isAtomic).mp
              (run_eq_ok_iff.mp taken)
          rw [split] at lexes
          exact ⟨tree, lexes, shallow, same⟩
  · rintro ⟨tree, lexes, shallow, same⟩
    rcases tokens_of_lexes lexes (separated_lexemes tree) with ⟨cut, complete⟩
    have taken : run limit (.value []) (tokens text).1 =
        .ok (.complete document) := by
      rw [run_eq_ok_iff, cut, advanceAll_eq_complete_iff lexes.isAtomic]
      exact ⟨tree, rfl, shallow, same⟩
    rw [readWithin, if_neg (by simp [lexes.no_byteOrderMark]), taken]
    exact finish_eq_ok_iff.mpr ⟨complete, rfl⟩

/-- What is read of a text, in terms of the grammar. -/
theorem read_eq_ok_iff {text : Text} {document : Json} :
    read text = .ok document ↔
      ∃ tree, Lexes text (lexemes tree) ∧ Value.depth tree ≤ depthLimit ∧
        settled tree = document :=
  readWithin_eq_ok_iff

end ResponseService.Json
