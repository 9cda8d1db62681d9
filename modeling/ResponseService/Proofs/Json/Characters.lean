import ResponseService.Json.Printer
import ResponseService.Proofs.Text.Ascii

/-!
# The characters of printed documents

Numbers and words are written in visible characters of ASCII.  All else that
stands in the text of a document is a quotation or a separator.  So the text
stays in every class of code points that holds the visible characters of ASCII,
the separators of the format, and what the format writes for single code points
(`print_staysIn`).

The class is that of the visible characters itself where the format is that of
headers (`isVisible_print_header`), and all but the control characters in the
other formats (`uncontrolled_print`).
-/

namespace ResponseService

open Text

/-! ## Numbers -/

namespace Double

theorem isVisible_zeros (count : Nat) : IsVisible (zeros count) := by
  intro point member
  rw [List.eq_of_mem_replicate member]
  decide

theorem isVisible_exponentText (exponent : Int) :
    IsVisible (exponentText exponent) := by
  have digits := Decimal.isVisible_ofNat exponent.natAbs
  rw [exponentText, isVisible_cons]
  refine ⟨by split <;> decide, ?_⟩
  split
  · exact (isVisible_cons _ _).mpr ⟨by decide, digits⟩
  · exact digits

theorem isVisible_numeral {digits : Text} (visible : IsVisible digits)
    (point : Int) : IsVisible (numeral digits point) := by
  have whole := visible.subset (List.take_subset point.toNat digits)
  have fraction := visible.subset (List.drop_subset point.toNat digits)
  simp only [numeral]
  split
  · split
    · simp only [isVisible_append]
      exact ⟨⟨by decide, isVisible_zeros _⟩, visible⟩
    · simp only [isVisible_append]
      refine ⟨⟨⟨whole, isVisible_zeros _⟩, by decide⟩, ?_⟩
      split
      · exact isVisible_zeros 1
      · exact fraction
  · split
    · exact isVisible_nil
    · next digit =>
        simp only [isVisible_cons, isVisible_nil, and_true] at visible ⊢
        exact ⟨visible, by decide, isVisible_exponentText _⟩
    · next digit rest _ =>
        simp only [isVisible_cons, isVisible_append] at visible ⊢
        exact ⟨⟨⟨⟨visible.1, by decide⟩, visible.2⟩, by decide⟩,
          isVisible_exponentText _⟩

theorem isVisible_magnitudeText (significand : Nat) (exponent : Int) :
    IsVisible (magnitudeText significand exponent) := by
  rw [magnitudeText]
  split
  · decide
  · -- The search for the shortest digits is not to be run here.
    generalize shortest significand exponent = found
    rcases found with ⟨count, power⟩
    exact isVisible_numeral (Decimal.isVisible_ofNat _) _

theorem isVisible_finiteText (negative : Bool) (significand : Nat)
    (exponent : Int) : IsVisible (finiteText negative significand exponent) := by
  have magnitude := isVisible_magnitudeText significand exponent
  rw [finiteText]
  split
  · exact (isVisible_cons _ _).mpr ⟨by decide, magnitude⟩
  · exact magnitude

end Double

namespace Json

theorem isVisible_floatText (value : Double) : IsVisible (floatText value) := by
  match value with
  | .notANumber | .infinite false | .infinite true => decide
  | .finite negative significand exponent =>
      exact Double.isVisible_finiteText negative significand exponent

/-! ## Documents -/

/-- The class holds the visible characters of ASCII, what the format writes for
single code points, and its separators. -/
structure Format.StaysIn (format : Format) (allowed : CodePoint → Prop) :
    Prop where
  visible : ∀ point : CodePoint, point.IsVisible → allowed point
  quoted : ∀ point, ∀ written ∈ quotePoint format.asciiOnly point, allowed written
  items : ∀ point ∈ format.itemSeparator, allowed point
  names : ∀ point ∈ format.nameSeparator, allowed point

section StaysIn

variable {format : Format} {allowed : CodePoint → Prop}

theorem Format.StaysIn.of_isVisible (stays : format.StaysIn allowed)
    {text : Text} (visible : IsVisible text) : ∀ point ∈ text, allowed point :=
  fun point member => stays.visible point (visible point member)

theorem quote_staysIn (stays : format.StaysIn allowed) (text : Text) :
    ∀ point ∈ quote format.asciiOnly text, allowed point := by
  have mark := stays.visible ('"' : CodePoint) (by decide)
  rw [quote, List.forall_mem_cons, List.forall_mem_append]
  refine ⟨mark, ?_, stays.of_isVisible (by decide)⟩
  intro point member
  rcases List.mem_flatMap.mp member with ⟨source, _, inside⟩
  exact stays.quoted source point inside

mutual

/-- The text of a document stays in every such class. -/
theorem print_staysIn (stays : format.StaysIn allowed) (document : Json) :
    ∀ point ∈ document.print format, allowed point := by
  match document with
  | .null => exact stays.of_isVisible (show IsVisible "null" by decide)
  | .boolean true => exact stays.of_isVisible (show IsVisible "true" by decide)
  | .boolean false =>
      exact stays.of_isVisible (show IsVisible "false" by decide)
  | .integer value => exact stays.of_isVisible (Decimal.isVisible_ofInt value)
  | .float value => exact stays.of_isVisible (isVisible_floatText value)
  | .text value => exact quote_staysIn stays value
  | .array items =>
      simp only [print, List.forall_mem_append]
      exact ⟨⟨stays.of_isVisible (by decide), printItems_staysIn stays items⟩,
        stays.of_isVisible (by decide)⟩
  | .object members =>
      simp only [print, List.forall_mem_append]
      exact ⟨⟨stays.of_isVisible (by decide),
        printMembers_staysIn stays members⟩, stays.of_isVisible (by decide)⟩

theorem printItems_staysIn (stays : format.StaysIn allowed)
    (items : List Json) : ∀ point ∈ printItems format items, allowed point := by
  match items with
  | [] => exact List.forall_mem_nil _
  | [item] => exact print_staysIn stays item
  | item :: next :: rest =>
      simp only [printItems, List.forall_mem_append]
      exact ⟨⟨print_staysIn stays item, stays.items⟩,
        printItems_staysIn stays (next :: rest)⟩

theorem printMembers_staysIn (stays : format.StaysIn allowed)
    (members : List (Text × Json)) :
    ∀ point ∈ printMembers format members, allowed point := by
  match members with
  | [] => exact List.forall_mem_nil _
  | [(name, value)] =>
      simp only [printMembers, List.forall_mem_append]
      exact ⟨⟨quote_staysIn stays name, stays.names⟩, print_staysIn stays value⟩
  | (name, value) :: next :: rest =>
      simp only [printMembers, List.forall_mem_append]
      exact ⟨⟨⟨⟨quote_staysIn stays name, stays.names⟩,
        print_staysIn stays value⟩, stays.items⟩,
        printMembers_staysIn stays (next :: rest)⟩

end

end StaysIn

/-! ## Headers -/

/-- In headers, whatever is not visible in ASCII is escaped. -/
theorem isVisible_quotePoint (point : CodePoint) :
    IsVisible (quotePoint true point) := by
  simp only [quotePoint, Bool.true_and, decide_eq_true_eq]
  iterate 7 (split; · decide)
  split
  · exact isVisible_unicodeEscape _
  split
  · split
    · exact isVisible_unicodeEscape _
    · exact (isVisible_append _ _).mpr
        ⟨isVisible_unicodeEscape _, isVisible_unicodeEscape _⟩
  · simp only [isVisible_cons, isVisible_nil, and_true, CodePoint.IsVisible]
    omega

theorem Format.header_staysIn : Format.header.StaysIn CodePoint.IsVisible where
  visible _ visible := visible
  quoted := isVisible_quotePoint
  items := by decide
  names := by decide

theorem isVisible_print_header (document : Json) :
    IsVisible (document.print .header) :=
  print_staysIn Format.header_staysIn document

/-! ## Bodies and log lines -/

/-- The code point is no control character below the space. -/
def Uncontrolled (point : CodePoint) : Prop := 0x20 ≤ point.value

instance (point : CodePoint) : Decidable (Uncontrolled point) :=
  inferInstanceAs (Decidable (0x20 ≤ point.value))

theorem uncontrolled_of_isVisible {point : CodePoint}
    (visible : point.IsVisible) : Uncontrolled point := visible.1

/-- Control characters are escaped in every format. -/
theorem uncontrolled_quotePoint (asciiOnly : Bool) (point : CodePoint) :
    ∀ written ∈ quotePoint asciiOnly point, Uncontrolled written := by
  have of_isVisible {text : Text} (visible : IsVisible text) :
      ∀ written ∈ text, Uncontrolled written :=
    fun written member => uncontrolled_of_isVisible (visible written member)
  cases asciiOnly with
  | true => exact of_isVisible (isVisible_quotePoint point)
  | false =>
      simp only [quotePoint, Bool.false_and, Bool.false_eq_true, if_false]
      iterate 7 (split; · exact of_isVisible (by decide))
      split
      · exact of_isVisible (isVisible_unicodeEscape _)
      · next above =>
          intro written member
          rw [List.mem_singleton.mp member]
          exact Nat.le_of_not_lt above

/-- No control character stands in a document that is printed with separators
that have none. -/
theorem uncontrolled_print {format : Format} (document : Json)
    (items : ∀ point ∈ format.itemSeparator, Uncontrolled point)
    (names : ∀ point ∈ format.nameSeparator, Uncontrolled point) :
    ∀ point ∈ document.print format, Uncontrolled point :=
  print_staysIn
    ⟨fun _ visible => uncontrolled_of_isVisible visible,
      uncontrolled_quotePoint format.asciiOnly, items, names⟩
    document

end Json

end ResponseService
