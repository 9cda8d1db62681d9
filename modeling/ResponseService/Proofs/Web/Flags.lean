import ResponseService.Proofs.Ordered
import ResponseService.Proofs.Text.Spelling
import ResponseService.Web.Query

/-!
# Flags of a query

Every query asks for some format.  A flag is true exactly if the last of its
parameters spells the word `true` in letters of either case
(`Query.flag_eq_true_iff`).

So a flag depends on the parameters of its own name alone, and a query on those
of the two names, each for itself (`ResponseFormat.flags_of_query`).  Queries
are put together out of parameters without regard to what these are
(`Query.parameters_append`); where others are added, left out or moved, the
format stays the same.
-/

namespace ResponseService

namespace Text

theorem splitOn_eq (separator : CodePoint) (text : Text) :
    Text.splitOn separator text = List.splitOn separator text := by
  induction text with
  | nil => rfl
  | cons point rest ih =>
      rw [Text.splitOn, List.splitOn_cons_eq_if_modifyHead, ih]
      by_cases same : point = separator
      · simp [same]
      · obtain ⟨piece, pieces, split⟩ :=
          List.exists_cons_of_ne_nil (List.splitOn_ne_nil separator rest)
        simp [same, split]

end Text


namespace Query

/-! ## Parameters -/

/-- The parameters of two queries with an ampersand between them. -/
theorem parameters_append (left right : List UInt8) :
    parameters (left ++ 0x26 :: right) =
      parameters left ++ parameters right := by
  have mark : CodePoint.ofNat (0x26 : UInt8).toNat = ('&' : CodePoint) := rfl
  simp only [parameters, received, List.map_append, List.map_cons, mark,
    Text.splitOn_eq, List.splitOn_append_cons_self, List.filter_append]

/-- The value that counts is the last one given. -/
theorem value?_eq_some_iff {query : List UInt8} {name value : Text} :
    value? query name = some value ↔
      Ordered.GivenLast (parameters query) name value := by
  rw [value?, ← Ordered.lookup_ofList, Ordered.lookup_ofList_eq_some_iff]

/-- Parameters of other names do not count. -/
theorem value?_congr {left right : List UInt8} {name : Text}
    (same : (parameters left).filter (·.1 = name) =
      (parameters right).filter (·.1 = name)) :
    value? left name = value? right name := by
  have own (query : List UInt8) : value? query name =
      Ordered.lookup ((parameters query).filter (·.1 = name)).reverse name := by
    rw [value?, ← Ordered.lookup_filter, List.filter_reverse]
  rw [own, own, same]

/-! ## Flags -/

theorem lower_eq_true_iff (value : Text) :
    value.lower = "true" ↔ Text.Spells "true" value := by
  have own : ∀ letter ∈ Text.ofString "true", letter.IsOwnLetter := by decide
  exact Text.lower_eq_iff_spells own value

theorem flag_eq_true_iff {query : List UInt8} {name : Text} :
    flag (value? query name) = true ↔
      ∃ value, Ordered.GivenLast (parameters query) name value ∧
        Text.Spells "true" value := by
  simp only [← value?_eq_some_iff, ← lower_eq_true_iff]
  cases value? query name with
  | none => simp [flag]
  | some value => simp [flag]

end Query

namespace ResponseFormat

/-- JSON is asked for exactly if the last parameter `json` spells `true` in
letters of either case, and a schema is if the last `get_response_schema` does.
No other text becomes `true` when it is put into small letters.  Two queries ask
for the same if they have the same parameters of each of the two names, whatever
else they have and in whatever order the names are mixed; the parameters of
queries that are joined are those of both. -/
theorem flags_of_query (query : List UInt8) :
    ((ofQuery query).isJson = true ↔
      ∃ value, Ordered.GivenLast (Query.parameters query) "json" value ∧
        Text.Spells "true" value) ∧
    ((ofQuery query).wantsSchema = true ↔
      ∃ value, Ordered.GivenLast (Query.parameters query)
          "get_response_schema" value ∧
        Text.Spells "true" value) ∧
    (∀ value : Text, value.lower = "true" ↔ Text.Spells "true" value) ∧
    (∀ other,
      (∀ name ∈ [jsonName, schemaName],
        (Query.parameters other).filter (·.1 = name) =
          (Query.parameters query).filter (·.1 = name)) →
      ofQuery other = ofQuery query) ∧
    ∀ left right,
      Query.parameters (left ++ 0x26 :: right) =
        Query.parameters left ++ Query.parameters right := by
  refine ⟨Query.flag_eq_true_iff, Query.flag_eq_true_iff,
    Query.lower_eq_true_iff, ?_, Query.parameters_append⟩
  intro other same
  have json := Query.value?_congr (same jsonName (by simp))
  have schema := Query.value?_congr (same schemaName (by simp))
  rw [ofQuery, ofQuery, json, schema]

/-- A query with a second `json`, one letter of which is quoted. -/
def spelledQuery : List UInt8 :=
  Utf8.encode "json=no&get_response_schema=TRUE&json=t%52ue"

/-- The same parameters in another order, with blank ones and others between
them. -/
def mixedQuery : List UInt8 :=
  Utf8.encode "a&get_response%5Fschema=TRUE&+=%&json=no&&%6ason=t%52ue"

/-- Both queries ask for JSON and for its schema. -/
theorem flags_of_query_mixed :
    (∀ name ∈ [jsonName, schemaName],
      (Query.parameters mixedQuery).filter (·.1 = name) =
        (Query.parameters spelledQuery).filter (·.1 = name)) ∧
      ofQuery mixedQuery = ofQuery spelledQuery ∧
      (ofQuery spelledQuery).isJson = true ∧
      (ofQuery spelledQuery).wantsSchema = true := by
  have same : ∀ name ∈ [jsonName, schemaName],
      (Query.parameters mixedQuery).filter (·.1 = name) =
        (Query.parameters spelledQuery).filter (·.1 = name) := by
    decide +kernel
  have json : Ordered.GivenLast (Query.parameters spelledQuery) "json"
      "tRue" := by
    rw [← Query.value?_eq_some_iff]
    decide +kernel
  have schema : Ordered.GivenLast (Query.parameters spelledQuery)
      "get_response_schema" "TRUE" := by
    rw [← Query.value?_eq_some_iff]
    decide +kernel
  obtain ⟨asksJson, asksSchema, _, alike, _⟩ := flags_of_query spelledQuery
  exact ⟨same, alike mixedQuery same,
    asksJson.mpr ⟨"tRue", json, by decide⟩,
    asksSchema.mpr ⟨"TRUE", schema, by decide⟩⟩

end ResponseFormat

end ResponseService
