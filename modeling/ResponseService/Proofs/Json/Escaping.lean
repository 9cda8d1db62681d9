import ResponseService.Proofs.Json.Reading
import ResponseService.Proofs.Json.Texts

/-!
# Documents behind escaped surrogates

A body is sent with its surrogates written as escapes.  Inside a JSON text a
surrogate stands between quotes only, so the escaped text spells the same
tokens, with the pairs of surrogates in each text joined (`Lexes.escape`).

What is read of it is the document with the pairs in all its texts joined
(`read_escapeSurrogates`), as long as no two names of one object become equal
in this way.
-/

namespace ResponseService.Json

/-! ## Texts without surrogates -/

theorem isSurrogate_of_blank {point : CodePoint}
    (blank : isBlank point = true) : point.isSurrogate = false := by
  apply isSurrogate_eq_false_of_ascii
  simp only [isBlank, Bool.or_eq_true, decide_eq_true_eq] at blank
  omega

theorem isSurrogate_of_punctuation? {point : CodePoint} {token : Token}
    (known : punctuation? point = some token) : point.isSurrogate = false := by
  apply isSurrogate_eq_false_of_ascii
  simp only [punctuation?] at known
  split_ifs at known <;> omega

theorem isSurrogate_of_inScalar {point : CodePoint}
    (inside : InScalar point) : point.isSurrogate = false := by
  apply isSurrogate_eq_false_of_ascii
  unfold InScalar BeginsScalar at inside
  omega

/-! ## Tokens and texts -/

/-- With its surrogates escaped, a token has the pairs in its text joined. -/
theorem Token.Spelled.escape {token : Token} {spelling : Text}
    (spelled : token.Spelled spelling) :
    (token.mapText Text.joinPairs).Spelled spelling.escapeSurrogates := by
  cases spelled with
  | mark known =>
      rw [Text.escapeSurrogates_of_scalar
        (by simpa using isSurrogate_of_punctuation? known)]
      have same : token.mapText Text.joinPairs = token := by
        simp only [punctuation?] at known
        split_ifs at known <;> cases known <;> rfl
      rw [same]
      exact .mark known
  | @quoted units inside inner =>
      have mark : quoteMark.isSurrogate = false := rfl
      have ending : Text.escapeSurrogates [quoteMark] = [quoteMark] := rfl
      rw [Text.escapeSurrogates_cons_of_scalar _ mark,
        Text.escapeSurrogates_append, ending, Token.mapText,
        ← joinUnits_map_escapeSurrogate]
      exact .quoted (unitsSpelled_escapeSurrogates inner)
  | word known =>
      rw [Text.escapeSurrogates_of_scalar fun point member =>
        isSurrogate_of_inScalar (inScalar_of_word known point member)]
      exact .word known
  | number formed valued =>
      rw [Text.escapeSurrogates_of_scalar fun point member =>
        isSurrogate_of_inScalar (inScalar_of_number formed point member)]
      exact .number formed valued

/-- With its surrogates escaped, a text spells the same tokens with the pairs
in their texts joined. -/
theorem Lexes.escape {text : Text} {tokens : List Token}
    (lexes : Lexes text tokens) :
    Lexes text.escapeSurrogates
      (tokens.map (Token.mapText Text.joinPairs)) := by
  induction lexes with
  | nil => exact .nil
  | blank blank _ ih =>
      rw [Text.escapeSurrogates_cons_of_scalar _ (isSurrogate_of_blank blank)]
      exact .blank blank ih
  | token head _ ih =>
      rw [Text.escapeSurrogates_append]
      exact .token head.escape ih

/-- What is read of a text whose surrogates are escaped is the document of the
text with the pairs joined, names that stay different provided. -/
theorem read_escapeSurrogates {text : Text} {document : Json}
    (taken : read text = .ok document)
    (apart : NamesApart Text.joinPairs document) :
    read text.escapeSurrogates = .ok (mapTexts Text.joinPairs document) := by
  rcases read_eq_ok_iff.mp taken with ⟨tree, lexes, shallow, same⟩
  subst same
  rw [read_eq_ok_iff]
  refine ⟨mapTexts Text.joinPairs tree, ?_, ?_, settled_mapTexts tree apart⟩
  · rw [lexemes_mapTexts]
    exact lexes.escape
  · rwa [depth_mapTexts]

end ResponseService.Json
