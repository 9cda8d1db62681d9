import ResponseService.Json.Printer
import ResponseService.Proofs.Json.Reading
import ResponseService.Proofs.Json.Texts
import ResponseService.Proofs.Number.Decimal

/-!
# Printed documents are read back

The text of a document spells the tokens of the document, with every text in
it as the quotations of the format let it be recovered (`lexes_print`).  So the
document that is read back is the one that these texts stand for
(`read_print`); in the formats that write all characters as they are, every
text is recovered as it is.

Documents with doubles are left out: whether their digits are read back as the
same double is a matter of arithmetic and not of the grammar.
-/

namespace ResponseService.Json

/-! ## Integers -/

theorem isDigits_ofNat (number : Nat) :
    IsDigits (Decimal.ofNat number) ∧
      ∀ point ∈ (Decimal.ofNat number).head?, point.value = 0x30 →
        (Decimal.ofNat number).length = 1 := by
  have value {digit : Nat} (below : digit < 10) :
      (Decimal.digitPoint digit).value = 0x30 + digit := by
    rw [Decimal.digitPoint, CodePoint.value_ofNat]
    omega
  refine ⟨⟨by simpa [Decimal.ofNat] using Decimal.digits_ne_nil number, ?_⟩, ?_⟩
  · intro point member
    rcases List.mem_map.mp member with ⟨digit, listed, rfl⟩
    have below := Decimal.digits_lt number digit listed
    simp only [CodePoint.isDigit, value below, Bool.and_eq_true,
      decide_eq_true_eq]
    omega
  · intro point member zero
    by_cases positive : 0 < number
    · simp only [Decimal.ofNat, List.head?_map, Option.mem_def,
        Option.map_eq_some_iff] at member
      rcases member with ⟨digit, first, rfl⟩
      have below := Decimal.digits_lt number digit (List.mem_of_head? first)
      have other := Decimal.digits_head_ne_zero positive digit first
      rw [value below] at zero
      omega
    · rw [Nat.eq_zero_of_not_pos positive]
      simp [Decimal.ofNat, Decimal.digits]

theorem signed_spelled (negative : Bool) {number : Nat}
    (short : (Decimal.ofNat number).length ≤ digitLimit) :
    (Token.scalar (.integer (if negative then -(number : Int) else number))).Spelled
      (signText negative ++ Decimal.ofNat number) := by
  rcases isDigits_ofNat number with ⟨all, leading⟩
  have formed :
      (NumberSpelling.mk negative (Decimal.ofNat number) none
        none).WellFormed :=
    ⟨all, leading, by simp, by simp⟩
  have spelled := Token.Spelled.number formed (by
    simp only [NumberSpelling.value, if_neg (Nat.not_lt.mpr short),
      Decimal.read_ofNat]
    rfl)
  rw [NumberSpelling.text_eq] at spelled
  simpa [fractionText, exponentText] using spelled

theorem integer_spelled {value : Int}
    (short : (Decimal.ofNat value.natAbs).length ≤ digitLimit) :
    (Token.scalar (.integer value)).Spelled (Decimal.ofInt value) := by
  cases value with
  | ofNat number => exact signed_spelled false short
  | negSucc number => exact signed_spelled true short

theorem null_spelled : (Token.scalar .null).Spelled "null" :=
  .word (by simp [words])

theorem boolean_spelled (value : Bool) :
    (Token.scalar (.boolean value)).Spelled (if value then "true" else "false") := by
  cases value <;> exact .word (by simp [words])

/-! ## Documents -/

mutual

/-- Every number of the document is an integer of not too many digits. -/
def IsExact : Json → Prop
  | .integer value => (Decimal.ofNat value.natAbs).length ≤ digitLimit
  | .float _ => False
  | .array items => ItemsExact items
  | .object members => MembersExact members
  | _ => True

/-- Every number of the items is such an integer. -/
def ItemsExact : List Json → Prop
  | [] => True
  | item :: rest => IsExact item ∧ ItemsExact rest

/-- Every number of the members is such an integer. -/
def MembersExact : List (Text × Json) → Prop
  | [] => True
  | (_, value) :: rest => IsExact value ∧ MembersExact rest

end

theorem membersExact_iff {members : List (Text × Json)} :
    MembersExact members ↔ ∀ member ∈ members, IsExact member.2 := by
  induction members with
  | nil => simp [MembersExact]
  | cons member rest ih => simp [MembersExact, ih]

/-- The separators of the format are a comma and a colon, with blanks at most,
and its quotations stand for what `recovered` makes of a text. -/
structure Format.Recovers (format : Format) (recovered : Text → Text) :
    Prop where
  items : Lexes format.itemSeparator [.comma]
  names : Lexes format.nameSeparator [.colon]
  texts : ∀ text,
    (Token.text (recovered text)).Spelled (quote format.asciiOnly text)

theorem mark_spelled (character : Char) {token : Token}
    (known : punctuation? character = some token) :
    token.Spelled [CodePoint.ofChar character] :=
  .mark known

/-- Bodies are recovered as they are. -/
theorem Format.compact_recovers : Format.compact.Recovers id where
  items := .single (mark_spelled ',' rfl)
  names := .single (mark_spelled ':' rfl)
  texts := quote_spelled

/-- Headers are recovered with the pairs in their texts joined. -/
theorem Format.header_recovers : Format.header.Recovers Text.joinPairs where
  items := .single (mark_spelled ',' rfl)
  names := .single (mark_spelled ':' rfl)
  texts := quote_ascii_spelled

/-- Lines are recovered as they are; each separator ends with a blank. -/
theorem Format.line_recovers : Format.line.Recovers id where
  items := .token (mark_spelled ',' rfl) (.blank rfl .nil)
  names := .token (mark_spelled ':' rfl) (.blank rfl .nil)
  texts := quote_spelled

section Printing

variable {format : Format} {recovered : Text → Text}

mutual

/-- The text of a document spells its tokens. -/
theorem lexes_print (recovers : format.Recovers recovered) (document : Json)
    (exact : IsExact document) :
    Lexes (document.print format)
      (lexemes (mapTexts recovered document)) := by
  cases document with
  | null => exact .single null_spelled
  | boolean value =>
      cases value with
      | true => exact .single (boolean_spelled true)
      | false => exact .single (boolean_spelled false)
  | integer value => exact .single (integer_spelled exact)
  | float value => exact exact.elim
  | text value => exact .single (recovers.texts value)
  | foreign value => exact value.elim
  | array items =>
      have inside := lexes_printItems recovers items exact
      rw [print, mapTexts, lexemes_array, List.append_assoc]
      exact .token (mark_spelled '[' rfl)
        (inside.append (.single (mark_spelled ']' rfl)))
  | object members =>
      have inside := lexes_printMembers recovers members exact
      rw [print, mapTexts, lexemes_object, List.append_assoc]
      exact .token (mark_spelled '\x7b' rfl)
        (inside.append (.single (mark_spelled '\x7d' rfl)))

theorem lexes_printItems (recovers : format.Recovers recovered)
    (items : List Json) (exact : ItemsExact items) :
    Lexes (printItems format items)
      (itemLexemes (mapItems recovered items)) := by
  cases items with
  | nil => exact .nil
  | cons item rest =>
      have first := lexes_print recovers item exact.1
      cases rest with
      | nil => simpa [printItems, mapItems, itemLexemes, laterItems] using first
      | cons next rest =>
          have later := lexes_printItems recovers (next :: rest) exact.2
          have all := (first.append recovers.items).append later
          simpa [printItems, mapItems, itemLexemes, laterItems] using all

theorem lexes_printMembers (recovers : format.Recovers recovered)
    (members : List (Text × Json)) (exact : MembersExact members) :
    Lexes (printMembers format members)
      (memberLexemes (mapMembers recovered members)) := by
  cases members with
  | nil => exact .nil
  | cons member rest =>
      rcases member with ⟨name, value⟩
      have first : Lexes
          (quote format.asciiOnly name ++ format.nameSeparator ++
            print format value)
          ([.text (recovered name)] ++ [.colon] ++
            lexemes (mapTexts recovered value)) :=
        ((Lexes.single (recovers.texts name)).append recovers.names).append
          (lexes_print recovers value exact.1)
      cases rest with
      | nil =>
          simpa [printMembers, mapMembers, memberLexemes, laterMembers]
            using first
      | cons next rest =>
          rcases next with ⟨nextName, nextValue⟩
          have later :=
            lexes_printMembers recovers ((nextName, nextValue) :: rest) exact.2
          have all := (first.append recovers.items).append later
          simpa [printMembers, mapMembers, memberLexemes, laterMembers]
            using all

end

/-- A printed document is read back as what its recovered texts stand for. -/
theorem read_print (recovers : format.Recovers recovered) {document : Json}
    (exact : IsExact document) (shallow : Value.depth document ≤ depthLimit) :
    read (document.print format) =
      .ok (settled (mapTexts recovered document)) := by
  rw [read_eq_ok_iff]
  refine ⟨mapTexts recovered document, lexes_print recovers document exact,
    ?_, rfl⟩
  rwa [depth_mapTexts]

end Printing

/-! ## Documents that print alike -/

section Alike

variable {format : Format} {change : Text → Text}

mutual

/-- A change that no quotation shows does not show in the text of a document. -/
theorem print_mapTexts
    (alike : ∀ text, quote format.asciiOnly (change text) =
      quote format.asciiOnly text)
    (document : Json) :
    (mapTexts change document).print format = document.print format := by
  cases document with
  | text value => exact alike value
  | array items =>
      rw [mapTexts, print, print, printItems_mapItems alike items]
  | object members =>
      rw [mapTexts, print, print, printMembers_mapMembers alike members]
  | _ => rfl

theorem printItems_mapItems
    (alike : ∀ text, quote format.asciiOnly (change text) =
      quote format.asciiOnly text)
    (items : List Json) :
    printItems format (mapItems change items) = printItems format items := by
  cases items with
  | nil => rfl
  | cons item rest =>
      have first := print_mapTexts alike item
      cases rest with
      | nil => exact first
      | cons next rest =>
          have later := printItems_mapItems alike (next :: rest)
          simp only [mapItems] at later ⊢
          rw [printItems, printItems, first, later]

theorem printMembers_mapMembers
    (alike : ∀ text, quote format.asciiOnly (change text) =
      quote format.asciiOnly text)
    (members : List (Text × Json)) :
    printMembers format (mapMembers change members) =
      printMembers format members := by
  cases members with
  | nil => rfl
  | cons member rest =>
      rcases member with ⟨name, value⟩
      have first := print_mapTexts alike value
      cases rest with
      | nil =>
          simp only [mapMembers]
          rw [printMembers, printMembers, alike, first]
      | cons next rest =>
          rcases next with ⟨nextName, nextValue⟩
          have later :=
            printMembers_mapMembers alike ((nextName, nextValue) :: rest)
          simp only [mapMembers] at later ⊢
          rw [printMembers, printMembers, alike, first, later]

end

end Alike

end ResponseService.Json
