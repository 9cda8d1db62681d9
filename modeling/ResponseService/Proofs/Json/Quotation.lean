import Mathlib.Tactic.SplitIfs
import ResponseService.Json.Printer
import ResponseService.Proofs.Json.Grammar
import ResponseService.Proofs.Text.Surrogates

/-!
# Quoted texts

The scanner of quoted texts reads exactly the units that the grammar allows,
up to the first quote that is not part of one (`scanText_eq_ok_iff`).

What the units stand for depends on which surrogates are escaped.  If none is,
the text is the sequence of their code points (`joinUnits_of_plain`); if all
are, adjacent halves of a pair are joined (`joinUnits_of_escaped`).
-/

namespace ResponseService.Json

/-! ## Scanning -/

theorem shorthand?_eq_none_of_u {letter : CodePoint}
    (u : letter.value = 0x75) : shorthand? letter = none := by
  simp [shorthand?, u]

/-- Scanning a unit leaves what stands behind it to be scanned. -/
theorem scanText_unit {unit : TextUnit} {spelling rest : Text}
    (spelled : unit.Spelled spelling) (more : rest ≠ [])
    (opening position : Nat) :
    scanText opening position (spelling ++ rest) =
      (scanText opening (position + spelling.length) rest).cons unit := by
  cases spelled with
  | plain visible noQuote noBackslash =>
      rw [List.singleton_append, scanText.eq_def]
      simp [noQuote, noBackslash, Nat.not_lt.mpr visible]
  | @shorthand letter value named =>
      have other : letter.value ≠ 0x75 := by
        intro u
        rw [shorthand?_eq_none_of_u u] at named
        cases named
      have backslash : (CodePoint.ofChar '\\').value = 0x5C := rfl
      rw [List.cons_append, List.singleton_append, scanText.eq_def]
      simp [backslash, other, named]
  | numbered digits =>
      have backslash : (CodePoint.ofChar '\\').value = 0x5C := rfl
      have u : (CodePoint.ofChar 'u').value = 0x75 := rfl
      cases rest with
      | nil => exact absurd rfl more
      | cons next tail =>
          simp only [List.cons_append, List.nil_append]
          rw [scanText.eq_def]
          simp [backslash, u, digits]

/-- Scanning ends at the first quote that is not part of a unit. -/
theorem scanText_of_unitsSpelled {units : List TextUnit} {inside : Text}
    (spelled : UnitsSpelled units inside)
    (opening position : Nat) (after : Text) :
    scanText opening position (inside ++ quoteMark :: after) =
      .ok (units, position + inside.length + 1, after) := by
  induction spelled generalizing position with
  | nil =>
      have quote : quoteMark.value = 0x22 := rfl
      rw [List.nil_append, scanText.eq_def]
      simp [quote]
  | cons head _ ih =>
      rw [List.append_assoc, scanText_unit head (by simp), ih]
      simp [Scanned.cons, Nat.add_assoc]

theorem Scanned.cons_eq_ok {unit : TextUnit} {scanned : Scanned}
    {units : List TextUnit} {next : Nat} {after : Text}
    (done : scanned.cons unit = .ok (units, next, after)) :
    ∃ others, units = unit :: others ∧ scanned = .ok (others, next, after) := by
  cases scanned with
  | error problem => cases done
  | ok reached =>
      rcases reached with ⟨others, place, rest⟩
      cases done
      exact ⟨others, rfl, rfl⟩

/-- The scanned units, put behind one more, are spelled behind it. -/
theorem unitsSpelled_cons_of_scanned {unit : TextUnit}
    {spelling rest after : Text} {units : List TextUnit} {position next : Nat}
    (spelled : unit.Spelled spelling)
    (scanned : ∃ inside,
      UnitsSpelled units inside ∧ rest = inside ++ quoteMark :: after ∧
        next = position + spelling.length + inside.length + 1) :
    ∃ inside,
      UnitsSpelled (unit :: units) inside ∧
        spelling ++ rest = inside ++ quoteMark :: after ∧
        next = position + inside.length + 1 := by
  rcases scanned with ⟨inside, tail, split, place⟩
  refine ⟨spelling ++ inside, .cons spelled tail, ?_, ?_⟩
  · rw [split, List.append_assoc]
  · rw [place, List.length_append]
    omega

/-- What was scanned is spelled before the quote where scanning ended. -/
theorem unitsSpelled_of_scanText {opening position next : Nat}
    {text after : Text} {units : List TextUnit}
    (scanned : scanText opening position text = .ok (units, next, after)) :
    ∃ inside,
      UnitsSpelled units inside ∧ text = inside ++ quoteMark :: after ∧
        next = position + inside.length + 1 := by
  fun_induction scanText opening position text generalizing units next with
  | case2 position point rest quote =>
      cases scanned
      have mark : point = quoteMark := CodePoint.eq_of_value_eq quote
      exact ⟨[], .nil, by simp [mark], by simp⟩
  | case4 position point _ backslash letter u first second third fourth
      following tail number digits ih =>
      rcases Scanned.cons_eq_ok scanned with ⟨others, rfl, inner⟩
      have mark : point = CodePoint.ofChar '\\' :=
        CodePoint.eq_of_value_eq backslash
      have sign : letter = CodePoint.ofChar 'u' := CodePoint.eq_of_value_eq u
      rw [mark, sign]
      exact unitsSpelled_cons_of_scanned (.numbered digits) (ih inner)
  | case7 position point _ backslash letter rest _ value named ih =>
      rcases Scanned.cons_eq_ok scanned with ⟨others, rfl, inner⟩
      have mark : point = CodePoint.ofChar '\\' :=
        CodePoint.eq_of_value_eq backslash
      rw [mark]
      exact unitsSpelled_cons_of_scanned (.shorthand named) (ih inner)
  | case10 position point rest noQuote noBackslash visible ih =>
      rcases Scanned.cons_eq_ok scanned with ⟨others, rfl, inner⟩
      exact unitsSpelled_cons_of_scanned
        (.plain (Nat.not_lt.mp visible) noQuote noBackslash) (ih inner)
  | _ => cases scanned

/-- The scanner reads what the grammar spells. -/
theorem scanText_eq_ok_iff {opening position next : Nat}
    {text after : Text} {units : List TextUnit} :
    scanText opening position text = .ok (units, next, after) ↔
      ∃ inside,
        UnitsSpelled units inside ∧ text = inside ++ quoteMark :: after ∧
          next = position + inside.length + 1 := by
  constructor
  · exact unitsSpelled_of_scanText
  · rintro ⟨inside, spelled, rfl, rfl⟩
    exact scanText_of_unitsSpelled spelled opening position after

/-- A text is spelled by its units between quotes and in no other way. -/
theorem exists_units_of_spelled {value spelling : Text}
    (spelled : (Token.text value).Spelled spelling) :
    ∃ units inside, spelling = quoteMark :: (inside ++ [quoteMark]) ∧
      UnitsSpelled units inside ∧ joinUnits units = value := by
  generalize same : Token.text value = token at spelled
  cases spelled with
  | mark known =>
      subst same
      simp only [punctuation?] at known
      split_ifs at known <;> cases known
  | @quoted units inside inner =>
      cases same
      exact ⟨units, inside, rfl, inner, rfl⟩
  | word known => cases same
  | number wellFormed valued => cases same

/-! ## What units stand for -/

/-- A surrogate among the units is not escaped. -/
def TextUnit.KeepsSurrogate (unit : TextUnit) : Prop :=
  ∀ point, unit = .escaped point → point.isSurrogate = false

/-- A surrogate among the units is escaped. -/
def TextUnit.EscapesSurrogate (unit : TextUnit) : Prop :=
  ∀ point, unit = .plain point → point.isSurrogate = false

theorem joinUnits_cons_plain (point : CodePoint) (rest : List TextUnit) :
    joinUnits (.plain point :: rest) = point :: joinUnits rest := by
  simp [joinUnits, TextUnit.point]

theorem joinUnits_cons_of_not_high {unit : TextUnit} (rest : List TextUnit)
    (single : unit.point.isHighSurrogate = false) :
    joinUnits (unit :: rest) = unit.point :: joinUnits rest := by
  cases unit with
  | plain point => exact joinUnits_cons_plain point rest
  | escaped point =>
      cases rest with
      | nil => simp [joinUnits, TextUnit.point]
      | cons next rest =>
          cases next with
          | plain other => simp [joinUnits, TextUnit.point]
          | escaped other =>
              simp only [TextUnit.point] at single
              simp [joinUnits, TextUnit.point, single]

/-- Where no surrogate is escaped, every code point is kept. -/
theorem joinUnits_of_plain {units : List TextUnit}
    (plain : ∀ unit ∈ units, unit.KeepsSurrogate) :
    joinUnits units = units.map TextUnit.point := by
  induction units with
  | nil => rfl
  | cons unit rest ih =>
      have tail := ih fun other member => plain other (by simp [member])
      cases unit with
      | plain point => rw [joinUnits_cons_plain, tail]; rfl
      | escaped point =>
          have scalar : (TextUnit.escaped point).point.isSurrogate = false :=
            plain (.escaped point) (by simp) point rfl
          rw [joinUnits_cons_of_not_high rest
            (CodePoint.isHighSurrogate_eq_false scalar), tail]
          rfl

/-- Where every surrogate is escaped, adjacent halves are joined. -/
theorem joinUnits_of_escaped {units : List TextUnit}
    (escaped : ∀ unit ∈ units, unit.EscapesSurrogate) :
    joinUnits units = Text.joinPairs (units.map TextUnit.point) := by
  fun_induction joinUnits units with
  | case1 => rfl
  | case2 high low rest pair ih =>
      rw [Bool.and_eq_true] at pair
      rw [ih fun other member => escaped other (by simp [member])]
      exact (Text.joinPairs_pair _ pair.1 pair.2).symm
  | case3 high low rest apart ih =>
      rw [ih fun other member => escaped other (by simp [member])]
      simp [TextUnit.point, Text.joinPairs, apart]
  | case4 unit rest noPair ih =>
      rw [ih fun other member => escaped other (by simp [member])]
      cases unit with
      | plain point =>
          have scalar := escaped (.plain point) (by simp) point rfl
          exact (Text.joinPairs_cons_of_not_high _
            (CodePoint.isHighSurrogate_eq_false scalar)).symm
      | escaped point =>
          cases rest with
          | nil => rfl
          | cons next rest =>
              cases next with
              | escaped low => exact absurd rfl (noPair point low rest rfl)
              | plain low =>
                  have scalar := escaped (.plain low) (by simp) low rfl
                  exact (Text.joinPairs_cons_cons_of_not_low point _
                    (CodePoint.isLowSurrogate_eq_false scalar)).symm

/-! ## Writing escapes -/

theorem hexValue?_ofNat_digit {digit : Nat} (below : digit < 16) :
    (CodePoint.ofNat
      (if digit < 10 then 0x30 + digit else 0x57 + digit)).hexValue? =
        some digit := by
  revert digit
  decide

theorem unicodeEscape_spelled {number : Nat} (below : number < 0x10000) :
    (TextUnit.escaped (CodePoint.ofNat number)).Spelled
      (Text.unicodeEscape number) := by
  have first := hexValue?_ofNat_digit
    (Nat.mod_lt (number / 16 / 16 / 16) (show 0 < 16 by decide))
  have second := hexValue?_ofNat_digit
    (Nat.mod_lt (number / 16 / 16) (show 0 < 16 by decide))
  have third := hexValue?_ofNat_digit
    (Nat.mod_lt (number / 16) (show 0 < 16 by decide))
  have fourth := hexValue?_ofNat_digit
    (Nat.mod_lt number (show 0 < 16 by decide))
  apply TextUnit.Spelled.numbered
  simp only [fourDigits?, first, second, third, fourth, Option.bind_eq_bind,
    Option.bind_some, Option.pure_def, Option.some.injEq]
  omega

theorem isSurrogate_eq_false_of_ascii {point : CodePoint}
    (ascii : point.value < 0x80) : point.isSurrogate = false := by
  rw [CodePoint.isSurrogate_eq_false_iff]
  omega

theorem ascii_of_hexValue? {point : CodePoint} {digit : Nat}
    (valued : point.hexValue? = some digit) : point.value < 0x80 := by
  unfold CodePoint.hexValue? at valued
  split at valued
  · omega
  · split at valued
    · omega
    · split at valued
      · omega
      · cases valued

theorem ascii_of_fourDigits? {first second third fourth : CodePoint}
    {number : Nat} (digits : fourDigits? first second third fourth = some number) :
    ∀ point ∈ [first, second, third, fourth], point.value < 0x80 := by
  simp only [fourDigits?, Option.bind_eq_bind, Option.bind_eq_some_iff]
    at digits
  rcases digits with ⟨_, one, _, two, _, three, _, four, _⟩
  simp [ascii_of_hexValue? one, ascii_of_hexValue? two,
    ascii_of_hexValue? three, ascii_of_hexValue? four]

theorem shorthand?_ascii {letter value : CodePoint}
    (named : shorthand? letter = some value) :
    letter.value < 0x80 ∧ value.value < 0x80 := by
  unfold shorthand? at named
  simp only at named
  split at named
  · next self =>
      cases named
      omega
  · repeat' split at named
    all_goals cases named
    all_goals exact ⟨by omega, by decide⟩

/-! ## Quoting -/

theorem exists_shorthand (letter value : CodePoint) {point : CodePoint}
    (named : shorthand? letter = some value)
    (same : point.value = value.value) :
    ∃ unit : TextUnit,
      unit.Spelled ['\\', letter] ∧ unit.point = point ∧
        unit.KeepsSurrogate := by
  refine ⟨.escaped value, .shorthand named, ?_, ?_⟩
  · exact (CodePoint.eq_of_value_eq same).symm
  · intro other equal
    cases equal
    exact isSurrogate_eq_false_of_ascii (shorthand?_ascii named).2

theorem quotePoint_spelled (point : CodePoint) :
    ∃ unit : TextUnit,
      unit.Spelled (quotePoint false point) ∧ unit.point = point ∧
        unit.KeepsSurrogate := by
  simp only [quotePoint, Bool.false_and, Bool.false_eq_true, if_false]
  split_ifs with quote backslash feed carriage tab form back control
  · exact exists_shorthand '"' '"' rfl quote
  · exact exists_shorthand '\\' '\\' rfl backslash
  · exact exists_shorthand 'n' (CodePoint.ofNat 0x0A) rfl feed
  · exact exists_shorthand 'r' (CodePoint.ofNat 0x0D) rfl carriage
  · exact exists_shorthand 't' (CodePoint.ofNat 0x09) rfl tab
  · exact exists_shorthand 'f' (CodePoint.ofNat 0x0C) rfl form
  · exact exists_shorthand 'b' (CodePoint.ofNat 0x08) rfl back
  · have escape := unicodeEscape_spelled (show point.value < 0x10000 by omega)
    rw [CodePoint.ofNat_value] at escape
    refine ⟨.escaped point, escape, rfl, ?_⟩
    intro other equal
    cases equal
    exact isSurrogate_eq_false_of_ascii (by omega)
  · refine ⟨.plain point, ?_, rfl, nofun⟩
    exact .plain (Nat.not_lt.mp control) quote backslash

theorem quoteBody_spelled (text : Text) :
    ∃ units,
      UnitsSpelled units (quoteBody false text) ∧
        units.map TextUnit.point = text ∧
        ∀ unit ∈ units, unit.KeepsSurrogate := by
  induction text with
  | nil => exact ⟨[], .nil, rfl, by simp⟩
  | cons point rest ih =>
      rcases quotePoint_spelled point with ⟨unit, head, same, keeps⟩
      rcases ih with ⟨units, tail, others, keepAll⟩
      refine ⟨unit :: units, ?_, ?_, ?_⟩
      · rw [quoteBody, List.flatMap_cons]
        exact .cons head tail
      · rw [List.map_cons, same, others]
      · simpa using ⟨keeps, keepAll⟩

/-- A quoted text is the text, whatever it holds. -/
theorem quote_spelled (text : Text) :
    (Token.text text).Spelled (quote false text) := by
  rcases quoteBody_spelled text with ⟨units, spelled, same, keeps⟩
  have quoted := Token.Spelled.quoted spelled
  rw [joinUnits_of_plain keeps, same] at quoted
  exact quoted

/-! ## Escaping the surrogates of a spelling -/

/-- The same unit, with an escape if it is a surrogate. -/
def TextUnit.escapeSurrogate : TextUnit → TextUnit
  | .plain point =>
      if point.isSurrogate then .escaped point else .plain point
  | .escaped point => .escaped point

theorem TextUnit.point_escapeSurrogate (unit : TextUnit) :
    unit.escapeSurrogate.point = unit.point := by
  cases unit with
  | plain point =>
      by_cases surrogate : point.isSurrogate = true <;>
        simp [TextUnit.escapeSurrogate, TextUnit.point, surrogate]
  | escaped point => rfl

theorem TextUnit.escapesSurrogate_escapeSurrogate (unit : TextUnit) :
    unit.escapeSurrogate.EscapesSurrogate := by
  intro point same
  cases unit with
  | plain other =>
      by_cases surrogate : other.isSurrogate = true
      · simp [TextUnit.escapeSurrogate, surrogate] at same
      · simp only [TextUnit.escapeSurrogate, surrogate, Bool.false_eq_true,
          if_false, TextUnit.plain.injEq] at same
        simpa [same] using surrogate
  | escaped other => cases same

/-- Pairs may be joined among the units before they are joined in the text. -/
theorem joinPairs_joinUnits (units : List TextUnit) :
    Text.joinPairs (joinUnits units) =
      Text.joinPairs (units.map TextUnit.point) := by
  fun_induction joinUnits units with
  | case1 => rfl
  | case2 high low rest pair ih =>
      rw [Bool.and_eq_true] at pair
      have scalar := CodePoint.isSurrogate_joined pair.1 pair.2
      rw [Text.joinPairs_cons_of_not_high _
        (CodePoint.isHighSurrogate_eq_false scalar), ih]
      exact (Text.joinPairs_pair _ pair.1 pair.2).symm
  | case3 high low rest apart ih =>
      rw [Text.joinPairs_cons, ih]
      exact (Text.joinPairs_cons high _).symm
  | case4 unit rest noPair ih =>
      rw [Text.joinPairs_cons, ih, List.map_cons, Text.joinPairs_cons]

/-- Escaping surrogates turns the spelling of a unit into that of its escape. -/
theorem spelled_escapeSurrogate {unit : TextUnit} {spelling : Text}
    (spelled : unit.Spelled spelling) :
    unit.escapeSurrogate.Spelled spelling.escapeSurrogates := by
  cases spelled with
  | @plain point visible noQuote noBackslash =>
      by_cases surrogate : point.isSurrogate = true
      · have inside := CodePoint.isSurrogate_iff.mp surrogate
        have escape :=
          unicodeEscape_spelled (show point.value < 0x10000 by omega)
        rw [CodePoint.ofNat_value] at escape
        simpa [TextUnit.escapeSurrogate, surrogate,
          Text.escapeSurrogates_cons_of_surrogate] using escape
      · rw [Bool.not_eq_true] at surrogate
        rw [Text.escapeSurrogates_cons_of_scalar [] surrogate]
        simpa [TextUnit.escapeSurrogate, surrogate] using
          TextUnit.Spelled.plain visible noQuote noBackslash
  | @shorthand letter value named =>
      rw [Text.escapeSurrogates_of_scalar]
      · exact .shorthand named
      · have ascii := (shorthand?_ascii named).1
        simp only [List.mem_cons, List.not_mem_nil, or_false]
        rintro point (rfl | rfl)
        · rfl
        · exact isSurrogate_eq_false_of_ascii ascii
  | numbered digits =>
      rw [Text.escapeSurrogates_of_scalar]
      · exact .numbered digits
      · intro point member
        rw [List.mem_cons, List.mem_cons] at member
        rcases member with rfl | rfl | digit
        · rfl
        · rfl
        · exact isSurrogate_eq_false_of_ascii
            (ascii_of_fourDigits? digits point digit)

theorem unitsSpelled_escapeSurrogates {units : List TextUnit} {inside : Text}
    (spelled : UnitsSpelled units inside) :
    UnitsSpelled (units.map TextUnit.escapeSurrogate)
      inside.escapeSurrogates := by
  induction spelled with
  | nil => exact .nil
  | cons head _ ih =>
      rw [Text.escapeSurrogates_append]
      exact .cons (spelled_escapeSurrogate head) ih

/-- With all surrogates escaped, the pairs of a text are joined. -/
theorem joinUnits_map_escapeSurrogate (units : List TextUnit) :
    joinUnits (units.map TextUnit.escapeSurrogate) =
      Text.joinPairs (joinUnits units) := by
  have escaped : ∀ unit ∈ units.map TextUnit.escapeSurrogate,
      unit.EscapesSurrogate := by
    intro unit member
    rcases List.mem_map.mp member with ⟨source, _, rfl⟩
    exact source.escapesSurrogate_escapeSurrogate
  rw [joinUnits_of_escaped escaped, joinPairs_joinUnits, List.map_map]
  congr 1
  exact List.map_congr_left fun unit _ => unit.point_escapeSurrogate

/-! ## Quoting in ASCII -/

theorem quotePoint_of_surrogate {point : CodePoint}
    (surrogate : point.isSurrogate = true) :
    quotePoint true point = Text.unicodeEscape point.value := by
  have inside := CodePoint.isSurrogate_iff.mp surrogate
  rw [quotePoint]
  repeat rw [if_neg (by omega)]
  rw [if_pos (by simp; omega), if_pos (by omega)]

theorem quotePoint_joined {high low : CodePoint}
    (highHalf : high.isHighSurrogate = true)
    (lowHalf : low.isLowSurrogate = true) :
    quotePoint true (CodePoint.joined high low) =
      quotePoint true high ++ quotePoint true low := by
  have highInside := CodePoint.isHighSurrogate_iff.mp highHalf
  have lowInside := CodePoint.isLowSurrogate_iff.mp lowHalf
  have value := CodePoint.value_joined highHalf lowHalf
  have first : 0xD800 +
      ((CodePoint.joined high low).value - 0x10000) / 0x400 = high.value := by
    omega
  have second : 0xDC00 +
      ((CodePoint.joined high low).value - 0x10000) % 0x400 = low.value := by
    omega
  have joined : quotePoint true (CodePoint.joined high low) =
      pairEscape (CodePoint.joined high low).value := by
    rw [quotePoint]
    repeat rw [if_neg (by omega)]
    rw [if_pos (by simp; omega), if_neg (by omega)]
  rw [joined, pairEscape, first, second,
    quotePoint_of_surrogate (CodePoint.isSurrogate_iff.mpr (by omega)),
    quotePoint_of_surrogate (CodePoint.isSurrogate_iff.mpr (by omega))]

theorem TextUnit.escapesSurrogate_of_scalar {unit : TextUnit}
    (scalar : unit.point.isSurrogate = false) : unit.EscapesSurrogate := by
  rintro point rfl
  exact scalar

theorem UnitsSpelled.append {left right : List TextUnit}
    {leftText rightText : Text} (leftSpelled : UnitsSpelled left leftText)
    (rightSpelled : UnitsSpelled right rightText) :
    UnitsSpelled (left ++ right) (leftText ++ rightText) := by
  induction leftSpelled with
  | nil => exact rightSpelled
  | cons head _ ih =>
      rw [List.append_assoc]
      exact .cons head ih

theorem quotePoint_ascii_spelled {point : CodePoint}
    (below : point.value < 0x10000) :
    ∃ unit : TextUnit,
      unit.Spelled (quotePoint true point) ∧ unit.point = point ∧
        unit.EscapesSurrogate := by
  -- Nothing but the escapes of numbers differs from a quotation as it is.
  by_cases past : 0x7E < point.value
  · have escape := unicodeEscape_spelled below
    rw [CodePoint.ofNat_value] at escape
    refine ⟨.escaped point, ?_, rfl, nofun⟩
    rw [quotePoint]
    repeat rw [if_neg (by omega)]
    rw [if_pos (by simpa using past), if_pos below]
    exact escape
  · rcases quotePoint_spelled point with ⟨unit, spelled, same, _⟩
    have alike : quotePoint true point = quotePoint false point := by
      simp [quotePoint, past]
    refine ⟨unit, alike ▸ spelled, same, ?_⟩
    apply TextUnit.escapesSurrogate_of_scalar
    rw [same]
    exact isSurrogate_eq_false_of_ascii (by omega)

theorem quotePoint_supplementary {point : CodePoint}
    (past : 0x10000 ≤ point.value) :
    ∃ high low : CodePoint,
      high.isHighSurrogate = true ∧ low.isLowSurrogate = true ∧
        CodePoint.joined high low = point ∧
        UnitsSpelled [.escaped high, .escaped low] (quotePoint true point) := by
  have inside := point.isLt
  have highBelow : 0xD800 + (point.value - 0x10000) / 0x400 < 0x10000 := by
    omega
  have lowBelow : 0xDC00 + (point.value - 0x10000) % 0x400 < 0x10000 := by
    omega
  have highValue := CodePoint.value_ofNat (Nat.lt_trans highBelow (by decide))
  have lowValue := CodePoint.value_ofNat (Nat.lt_trans lowBelow (by decide))
  have highHalf : (CodePoint.ofNat
      (0xD800 + (point.value - 0x10000) / 0x400)).isHighSurrogate = true :=
    CodePoint.isHighSurrogate_iff.mpr (by omega)
  have lowHalf : (CodePoint.ofNat
      (0xDC00 + (point.value - 0x10000) % 0x400)).isLowSurrogate = true :=
    CodePoint.isLowSurrogate_iff.mpr (by omega)
  refine ⟨_, _, highHalf, lowHalf, ?_, ?_⟩
  · apply CodePoint.eq_of_value_eq
    rw [CodePoint.value_joined highHalf lowHalf, highValue, lowValue]
    omega
  · have written : quotePoint true point = pairEscape point.value := by
      rw [quotePoint]
      repeat rw [if_neg (by omega)]
      rw [if_pos (by simp; omega), if_neg (by omega)]
    rw [written, pairEscape, ← List.append_nil (Text.unicodeEscape
      (0xDC00 + (point.value - 0x10000) % 0x400))]
    exact .cons (unicodeEscape_spelled highBelow)
      (.cons (unicodeEscape_spelled lowBelow) .nil)

/-- In ASCII the inside of a quotation is written with every surrogate escaped;
it has the pairs that the text has, and those of its characters past
U+FFFF. -/
theorem quoteBody_ascii_spelled (text : Text) :
    ∃ units,
      UnitsSpelled units (quoteBody true text) ∧
        (∀ unit ∈ units, unit.EscapesSurrogate) ∧
        Text.joinPairs (units.map TextUnit.point) = text.joinPairs := by
  induction text with
  | nil => exact ⟨[], .nil, by simp, rfl⟩
  | cons point rest ih =>
      rcases ih with ⟨units, tail, escaped, joined⟩
      simp only [quoteBody, List.flatMap_cons] at tail ⊢
      by_cases below : point.value < 0x10000
      · rcases quotePoint_ascii_spelled below with ⟨unit, head, same, escapes⟩
        refine ⟨unit :: units, .cons head tail, by simpa using ⟨escapes, escaped⟩,
          ?_⟩
        rw [List.map_cons, Text.joinPairs_cons, joined, same,
          ← Text.joinPairs_cons]
      · rcases quotePoint_supplementary (Nat.not_lt.mp below) with
          ⟨high, low, highHalf, lowHalf, whole, head⟩
        have scalar := CodePoint.isSurrogate_joined highHalf lowHalf
        rw [whole] at scalar
        refine ⟨[.escaped high, .escaped low] ++ units, head.append tail, ?_, ?_⟩
        · intro unit member
          rcases List.mem_append.mp member with half | later
          · simp only [List.mem_cons, List.not_mem_nil, or_false] at half
            rcases half with rfl | rfl <;> exact nofun
          · exact escaped unit later
        · simp only [List.cons_append, List.nil_append, List.map_cons,
            TextUnit.point]
          rw [Text.joinPairs_pair _ highHalf lowHalf, whole, joined,
            Text.joinPairs_cons_of_not_high rest
              (CodePoint.isHighSurrogate_eq_false scalar)]

/-- A text that is quoted in ASCII is the text with its pairs joined. -/
theorem quote_ascii_spelled (text : Text) :
    (Token.text text.joinPairs).Spelled (quote true text) := by
  rcases quoteBody_ascii_spelled text with ⟨units, spelled, escaped, joined⟩
  have quoted := Token.Spelled.quoted spelled
  rw [joinUnits_of_escaped escaped, joined] at quoted
  exact quoted

/-- In ASCII nobody sees whether the pairs of a text were joined. -/
theorem quote_joinPairs (text : Text) :
    quote true text.joinPairs = quote true text := by
  suffices body : quoteBody true text.joinPairs = quoteBody true text by
    rw [quote, quote, body]
  fun_induction Text.joinPairs text with
  | case1 => rfl
  | case2 => rfl
  | case3 high low rest pair ih =>
      rw [Bool.and_eq_true] at pair
      simp only [quoteBody, List.flatMap_cons] at ih ⊢
      rw [quotePoint_joined pair.1 pair.2, ih, List.append_assoc]
  | case4 high low rest apart ih =>
      simp only [quoteBody, List.flatMap_cons] at ih ⊢
      rw [ih]

end ResponseService.Json
