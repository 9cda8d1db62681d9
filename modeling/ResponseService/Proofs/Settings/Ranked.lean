import ResponseService.Proofs.Settings.Origin
import ResponseService.Proofs.Settings.References

/-!
# Sources and their ranks

The value that counts for a setting is that of the highest source that supplies
one: an argument, a variable of the environment, an entry of the settings file,
in this order (`Counts`).  It alone is read, and it alone can be wrong.

What a lower source says of a setting that a higher one supplies is hidden.  Two
inputs that differ in hidden values only have the same outcome, as long as no
reference in the settings file reads what differs (`ofSources_eq_of_hidden`).
The condition cannot be dropped: a reference carries a hidden value into the
entry it stands in (`hidden_shows_through_reference`).
-/

namespace ResponseService

/-- The kinds of sources. -/
inductive Rank where
  | argument
  | environment
  | file

namespace Rank

/-- The source goes before the other one. -/
inductive Outranks : Rank → Rank → Prop where
  | argumentEnvironment : Outranks .argument .environment
  | argumentFile : Outranks .argument .file
  | environmentFile : Outranks .environment .file

theorem outranks_total (rank other : Rank) :
    rank = other ∨ rank.Outranks other ∨ other.Outranks rank :=
  match rank, other with
  | .argument, .argument => .inl rfl
  | .argument, .environment => .inr (.inl .argumentEnvironment)
  | .argument, .file => .inr (.inl .argumentFile)
  | .environment, .argument => .inr (.inr .argumentEnvironment)
  | .environment, .environment => .inl rfl
  | .environment, .file => .inr (.inl .environmentFile)
  | .file, .argument => .inr (.inr .argumentFile)
  | .file, .environment => .inr (.inr .environmentFile)
  | .file, .file => .inl rfl

end Rank

namespace Sources

/-- Entries with their names in small letters. -/
def lowered {Value : Type} (entries : List (Text × Value)) :
    List (Text × Value) :=
  entries.map fun entry => (entry.1.lower, entry.2)

/-- The source of a rank supplies a value for the setting: an argument of its
name, or else of its name in other letters; a variable of its name in any
letters; an entry of its name in any letters that has a value.  Of several the
last one counts. -/
inductive Supplies (sources : Sources) (setting : Setting) :
    Rank → Argument → Prop where
  | exactly {value : Argument}
      (given : Ordered.GivenLast sources.arguments setting.name value) :
      Supplies sources setting .argument value
  | argument {value : Argument}
      (unnamed : setting.name ∉ Ordered.names sources.arguments)
      (given : Ordered.GivenLast (lowered sources.arguments) setting.name
        value) :
      Supplies sources setting .argument value
  | environment {text : Text}
      (given : Ordered.GivenLast (lowered sources.environment) setting.name
        text) :
      Supplies sources setting .environment (.text text)
  | file {text : Text}
      (given : Ordered.GivenLast
        (lowered (Dotenv.read sources.environment sources.file)) setting.name
        (some text)) :
      Supplies sources setting .file (.text text)

/-- The value that counts for a setting, or none where nothing is supplied. -/
inductive Counts (sources : Sources) (setting : Setting) :
    Option Argument → Prop where
  | supplied {rank : Rank} {value : Argument}
      (supplied : sources.Supplies setting rank value)
      (highest : ∀ higher, higher.Outranks rank →
        ∀ other, ¬sources.Supplies setting higher other) :
      Counts sources setting (some value)
  | default (unset : ∀ rank value, ¬sources.Supplies setting rank value) :
      Counts sources setting .none

section Counting

variable {sources : Sources} {setting : Setting}

theorem fromArguments?_eq_some_iff {value : Argument} :
    sources.fromArguments? setting = some value ↔
      sources.Supplies setting .argument value := by
  rw [fromArguments?, folded]
  constructor
  · intro found
    cases named : Ordered.lookup (Ordered.ofList sources.arguments)
        setting.name with
    | some own =>
        rw [named, Option.some_or] at found
        cases found
        exact .exactly (Ordered.lookup_ofList_eq_some_iff.mp named)
    | none =>
        rw [named, Option.none_or] at found
        have unnamed := Ordered.lookup_eq_none_iff.mp named
        rw [Ordered.mem_names_ofList] at unnamed
        exact .argument unnamed (Ordered.lookup_ofList_eq_some_iff.mp found)
  · intro supplied
    cases supplied with
    | exactly given =>
        rw [Ordered.lookup_ofList_eq_some_iff.mpr given, Option.some_or]
    | argument unnamed given =>
        rw [← Ordered.mem_names_ofList] at unnamed
        rw [Ordered.lookup_eq_none_iff.mpr unnamed, Option.none_or]
        exact Ordered.lookup_ofList_eq_some_iff.mpr given

/-- What the source of a rank gives for a setting. -/
def givenBy? (sources : Sources) (setting : Setting) : Rank → Option Argument
  | .argument => sources.fromArguments? setting
  | .environment => (sources.fromEnvironment? setting).map .text
  | .file => (sources.fromFile? setting).map .text

theorem givenBy?_eq_some_iff {rank : Rank} {value : Argument} :
    sources.givenBy? setting rank = some value ↔
      sources.Supplies setting rank value := by
  cases rank with
  | argument => exact fromArguments?_eq_some_iff
  | environment =>
      rw [givenBy?, Option.map_eq_some_iff]
      constructor
      · rintro ⟨text, found, rfl⟩
        exact .environment (Ordered.lookup_ofList_eq_some_iff.mp found)
      · rintro ⟨⟩
        next text given =>
          exact ⟨text, Ordered.lookup_ofList_eq_some_iff.mpr given, rfl⟩
  | file =>
      rw [givenBy?, Option.map_eq_some_iff]
      constructor
      · rintro ⟨text, found, rfl⟩
        rw [fromFile?, Option.join_eq_some_iff] at found
        exact .file (Ordered.lookup_ofList_eq_some_iff.mp found)
      · rintro ⟨⟩
        next text given =>
          refine ⟨text, ?_, rfl⟩
          rw [fromFile?, Option.join_eq_some_iff]
          exact Ordered.lookup_ofList_eq_some_iff.mpr given

theorem givenBy?_eq_none_iff {rank : Rank} :
    sources.givenBy? setting rank = .none ↔
      ∀ value, ¬sources.Supplies setting rank value := by
  simp only [Option.eq_none_iff_forall_ne_some, ne_eq, givenBy?_eq_some_iff]

theorem given?_eq (sources : Sources) (setting : Setting) :
    sources.given? setting =
      (sources.givenBy? setting .argument).or
        ((sources.givenBy? setting .environment).or
          (sources.givenBy? setting .file)) := by
  simp only [given?, givenBy?]
  cases sources.fromArguments? setting with
  | some value => rfl
  | none => cases sources.fromEnvironment? setting <;> rfl

/-- What a setting is given is the value that counts. -/
theorem counts_given? (sources : Sources) (setting : Setting) :
    sources.Counts setting (sources.given? setting) := by
  rw [given?_eq]
  cases argument : sources.givenBy? setting .argument with
  | some value =>
      exact .supplied (givenBy?_eq_some_iff.mp argument) nofun
  | none =>
      have unargued := givenBy?_eq_none_iff.mp argument
      cases environment : sources.givenBy? setting .environment with
      | some value =>
          refine .supplied (givenBy?_eq_some_iff.mp environment) ?_
          rintro _ ⟨⟩
          exact unargued
      | none =>
          have unvaried := givenBy?_eq_none_iff.mp environment
          cases file : sources.givenBy? setting .file with
          | some value =>
              refine .supplied (givenBy?_eq_some_iff.mp file) ?_
              rintro _ ⟨⟩
              · exact unargued
              · exact unvaried
          | none =>
              have unfiled := givenBy?_eq_none_iff.mp file
              refine .default fun rank => ?_
              cases rank with
              | argument => exact unargued
              | environment => exact unvaried
              | file => exact unfiled

theorem Supplies.unique {rank : Rank} {value other : Argument}
    (supplied : sources.Supplies setting rank value)
    (suppliedToo : sources.Supplies setting rank other) : value = other := by
  rw [← givenBy?_eq_some_iff] at supplied suppliedToo
  exact Option.some.inj (supplied.symm.trans suppliedToo)

/-- One value counts for a setting, or none. -/
theorem Counts.unique {counted other : Option Argument}
    (counts : sources.Counts setting counted)
    (countsToo : sources.Counts setting other) : counted = other := by
  cases counts with
  | default unset =>
      cases countsToo with
      | default _ => rfl
      | supplied supplied _ => exact absurd supplied (unset _ _)
  | @supplied rank value supplied highest =>
      cases countsToo with
      | default unset => exact absurd supplied (unset _ _)
      | @supplied otherRank _ suppliedToo highestToo =>
          rcases rank.outranks_total otherRank with rfl | above | below
          · exact congrArg some (supplied.unique suppliedToo)
          · exact absurd supplied (highestToo rank above value)
          · exact absurd suppliedToo (highest otherRank below _)

theorem counts_iff {counted : Option Argument} :
    sources.Counts setting counted ↔ sources.given? setting = counted :=
  ⟨fun counts => (counts_given? sources setting).unique counts,
    fun same => same ▸ counts_given? sources setting⟩

end Counting

end Sources

/-! ## What is read -/

theorem Setting.isName_name (setting : Setting) :
    isName setting.name = true := by
  cases setting <;> decide

theorem Setting.name_injective : Function.Injective Setting.name :=
  fun setting other same =>
    List.inj_on_of_nodup_map nodup_names setting.mem_all other.mem_all same

/-- What a setting becomes: its default where nothing counts, and else what is
read from the value that counts. -/
inductive Setting.Becomes : Setting → Option Argument → Argument → Prop where
  | defaultAnswer : Becomes .corsEnabled none (.boolean false)
  | defaultText {setting : Setting} (other : setting ≠ .corsEnabled) :
      Becomes setting none (.text (Settings.defaultText setting))
  | answer {value : Argument} {answer : Bool}
      (read : Settings.readBoolean value = .ok answer) :
      Becomes .corsEnabled (some value) (.boolean answer)
  | text {setting : Setting} (other : setting ≠ .corsEnabled) (text : Text) :
      Becomes setting (some (.text text))
        (.text (Settings.tidy setting text))
  | foreign {setting : Setting} {found : ForeignArgument} {text : Text}
      (other : setting ≠ .corsEnabled) (read : found.text = .ok text) :
      Becomes setting (some (.foreign found)) (.text text)

namespace Settings

variable {sources : Sources}

theorem becomes_booleanOf
    (accepts : ∀ value, sources.given? .corsEnabled = some value →
      Setting.Accepts .corsEnabled value) :
    Setting.Becomes .corsEnabled (sources.given? .corsEnabled)
      (.boolean (booleanOf sources .corsEnabled)) := by
  rw [booleanOf]
  cases given : sources.given? .corsEnabled with
  | none => exact .defaultAnswer
  | some value =>
      cases accepts value given with
      | answer read =>
          simp only [Option.map_some, read]
          exact .answer read
      | text other _ => exact absurd rfl other

theorem becomes_textOf {setting : Setting} (other : setting ≠ .corsEnabled)
    (accepts : ∀ value, sources.given? setting = some value →
      setting.Accepts value) :
    setting.Becomes (sources.given? setting)
      (.text (textOf sources setting)) := by
  rw [textOf]
  cases given : sources.given? setting with
  | none => exact .defaultText other
  | some value =>
      cases accepts value given with
      | answer _ => exact absurd rfl other
      | text _ read =>
          cases value with
          | text text => exact .text other text
          | foreign found =>
              change found.text = _ at read
              simp only [Option.map_some, textFrom, readText, read]
              exact .foreign other read
          | _ => cases read

/-- Every accepted setting comes of the value that counts for it. -/
theorem becomes_valueOf {settings : Settings}
    (accepted : ofSources sources = .ok settings) (setting : Setting) :
    setting.Becomes (sources.given? setting) (settings.valueOf setting) := by
  obtain ⟨sound, rfl⟩ := gather_of_ofSources accepted
  have accepts := sound.accepts setting
  cases setting with
  | corsEnabled => exact becomes_booleanOf accepts
  | _ => exact becomes_textOf nofun accepts

theorem name_not_mem_unknown (sources : Sources) (setting : Setting) :
    setting.name ∉ sources.unknown := by
  rw [Sources.unknown, List.mem_append, List.mem_filter]
  rintro (entry | ⟨argument, _⟩)
  · obtain ⟨_, _, _, extra⟩ := Sources.mem_unknownEntries_iff.mp entry
    exact extra setting rfl
  · exact (Sources.mem_unknownArguments_iff.mp argument).2 setting
      setting.lower_name.symm

/-- What is wrong with a setting is wrong with the value that counts for it. -/
theorem mem_issues_iff {setting : Setting} {problem : SettingProblem} :
    ⟨some setting.name, problem⟩ ∈ issues sources ↔
      ∃ value reason, sources.given? setting = some value ∧
        problemOf? setting value = some reason ∧
          problem = .unread reason := by
  rw [issues, List.mem_append]
  constructor
  · rintro (single | extra)
    · simp only [List.mem_filterMap, Option.bind_eq_some_iff,
        Option.map_eq_some_iff] at single
      obtain ⟨other, _, value, given, found, known, same⟩ := single
      obtain ⟨sameName, rfl⟩ := SettingIssue.mk.inj same
      obtain rfl := Setting.name_injective (Option.some.inj sameName)
      exact ⟨value, found, given, known, rfl⟩
    · obtain ⟨name, listed, same⟩ := List.mem_map.mp extra
      obtain ⟨sameName, _⟩ := SettingIssue.mk.inj same
      rw [Option.some.inj sameName] at listed
      exact absurd listed (name_not_mem_unknown sources setting)
  · rintro ⟨value, reason, given, known, rfl⟩
    refine Or.inl (List.mem_filterMap.mpr ⟨setting, setting.mem_all, ?_⟩)
    rw [given, Option.bind_some, known, Option.map_some]

/-- A failure names every problem of a value that counts, and no other problem
of a setting. -/
theorem mem_of_ofSources_eq_error_iff {found : List SettingIssue}
    (failed : ofSources sources = .error found) {setting : Setting}
    {problem : SettingProblem} :
    ⟨some setting.name, problem⟩ ∈ found ↔
      ∃ value reason, sources.given? setting = some value ∧
        problemOf? setting value = some reason ∧
          problem = .unread reason := by
  rw [← mem_issues_iff]
  by_cases sound : sources.IsSound
  · rw [issues_eq_nil_iff.mpr sound]
    rw [ofSources_of_sound sound] at failed
    split at failed
    · obtain rfl := Except.error.inj failed
      simp
    · cases failed
  · rw [ofSources_of_unsound sound] at failed
    rw [Except.error.inj failed]

end Settings

/-! ## What is hidden -/

namespace Sources

/-- A source of higher rank supplies a value for the setting of this name. -/
def Hides (sources : Sources) (rank : Rank) (name : Text) : Prop :=
  ∃ setting higher value, Setting.name setting = name ∧
    higher.Outranks rank ∧ sources.Supplies setting higher value

/-- Two inputs with the same arguments differ only in values that lower sources
give to settings which a higher source also supplies. -/
structure DifferHidden (left right : Sources) : Prop where
  arguments : left.arguments = right.arguments
  environment : Ordered.AgreeBut
    (fun name => left.Hides .environment name.lower)
    left.environment right.environment
  file : Ordered.AgreeBut (fun name => left.Hides .file name.lower)
    (Dotenv.bindings left.file) (Dotenv.bindings right.file)

/-- Moreover no reference in the settings file reads what differs, directly or
through the entries between. -/
structure DifferUnread (left right : Sources) : Prop
    extends left.DifferHidden right where
  unread : Dotenv.DifferUnread (fun name => left.Hides .file name.lower)
    (Dotenv.UnlikeIn left.environment right.environment)
    (Dotenv.bindings left.file) (Dotenv.bindings right.file)

variable {left right : Sources}

/-- Where nothing is referred to, nothing that differs is read. -/
theorem DifferHidden.differUnread (differ : left.DifferHidden right)
    (plain : ∀ binding ∈ Dotenv.bindings left.file, ∀ text ∈ binding.2,
      ∀ name, ¬Dotenv.Refers name text) : left.DifferUnread right :=
  ⟨differ, Dotenv.differUnread_of_agreeBut differ.file plain⟩

theorem not_hides_of_none {setting : Setting} {rank : Rank}
    (unset : ∀ higher, higher.Outranks rank →
      left.givenBy? setting higher = .none) :
    ¬left.Hides rank setting.name := by
  rintro ⟨other, higher, value, same, above, supplied⟩
  obtain rfl := Setting.name_injective same
  have given := givenBy?_eq_some_iff.mpr supplied
  rw [unset higher above] at given
  cases given

theorem DifferUnread.fileEntries_agreeBut (differ : left.DifferUnread right) :
    Ordered.AgreeBut (left.Hides .file) left.fileEntries right.fileEntries :=
  (differ.unread.read_agreeBut.rename).ofList

theorem DifferUnread.given?_eq (differ : left.DifferUnread right)
    (setting : Setting) : left.given? setting = right.given? setting := by
  have arguments : left.givenBy? setting .argument =
      right.givenBy? setting .argument := by
    simp only [givenBy?, fromArguments?, differ.arguments]
  rw [Sources.given?_eq, Sources.given?_eq, ← arguments]
  cases argument : left.givenBy? setting .argument with
  | some value => rfl
  | none =>
      have shown : ¬left.Hides .environment setting.name :=
        not_hides_of_none (by rintro _ ⟨⟩; exact argument)
      have environments : left.givenBy? setting .environment =
          right.givenBy? setting .environment := by
        simp only [givenBy?, fromEnvironment?]
        exact congrArg _ (differ.environment.rename.ofList.lookup_eq shown)
      rw [← environments]
      cases environment : left.givenBy? setting .environment with
      | some value => rfl
      | none =>
          have shownToo : ¬left.Hides .file setting.name :=
            not_hides_of_none (by
              rintro _ ⟨⟩
              · exact argument
              · exact environment)
          have files := differ.fileEntries_agreeBut.lookup_eq shownToo
          simp only [givenBy?, fromFile?, files]

theorem DifferUnread.unknown_eq (differ : left.DifferUnread right) :
    left.unknown = right.unknown := by
  have entries : left.unknownEntries = right.unknownEntries := by
    apply differ.fileEntries_agreeBut.filterMap_eq
    intro name value other same
    by_cases hidden : left.Hides .file name
    · have named : Setting.isName name = true := by
        obtain ⟨setting, _, _, rfl, _⟩ := hidden
        exact Setting.isName_name setting
      simp only [named, true_or, if_true]
    · rw [same hidden]
  simp only [unknown, entries, unknownArguments, differ.arguments]

end Sources

namespace Settings

/-- Settings depend on what their sources give and on the unknown names only. -/
theorem ofSources_congr {left right : Sources}
    (given : ∀ setting, left.given? setting = right.given? setting)
    (unknown : left.unknown = right.unknown) :
    ofSources left = ofSources right := by
  have found : issues left = issues right := by
    simp only [issues, given, unknown]
  have gathered : gather left = gather right := by
    simp only [gather, booleanOf, textOf, given]
  rw [ofSources, ofSources, found, gathered]

/-- One value counts for every setting: accepted settings come of it, and what
is wrong with a setting is wrong with it.  Inputs that differ in hidden values
only, which no reference reads, have the same outcome. -/
theorem ofSources_eq_of_hidden :
    (∀ (sources : Sources) setting, ∃! counted,
      sources.Counts setting counted) ∧
    (∀ (sources : Sources) settings, ofSources sources = .ok settings →
      ∀ setting counted, sources.Counts setting counted →
        setting.Becomes counted (settings.valueOf setting)) ∧
    (∀ (sources : Sources) found, ofSources sources = .error found →
      ∀ setting problem, ⟨some setting.name, problem⟩ ∈ found ↔
        ∃ value reason, sources.Counts setting (some value) ∧
          problemOf? setting value = some reason ∧
            problem = .unread reason) ∧
    ∀ left right : Sources, left.DifferUnread right →
      ofSources left = ofSources right := by
  refine ⟨?_, ?_, ?_, ?_⟩
  · intro sources setting
    exact ⟨_, sources.counts_given? setting,
      fun other counts => counts.unique (sources.counts_given? setting)⟩
  · intro sources settings accepted setting counted counts
    rw [Sources.counts_iff] at counts
    rw [← counts]
    exact becomes_valueOf accepted setting
  · intro sources found failed setting problem
    simp only [Sources.counts_iff]
    exact mem_of_ofSources_eq_error_iff failed
  · intro left right differ
    exact ofSources_congr differ.given?_eq differ.unknown_eq

/-- An argument hides the variable that enables the policy, and a variable
hides the level in the file. -/
def veiledSources (answer level : Text) : Sources :=
  ⟨[("cors_enabled", .boolean false)],
    [("CORS_ENABLED", answer), ("Log_Level", "DEBUG")],
    "log_level=" ++ level ++ "\nSERVICE_VERSION=2\n"⟩

theorem differUnread_veiledSources :
    (veiledSources "true" "INFO").DifferUnread
      (veiledSources "perhaps" "") := by
  have leftBindings : Dotenv.bindings (veiledSources "true" "INFO").file =
      ([("log_level", some "INFO"), ("SERVICE_VERSION", some "2")] :
        List (Text × Option Text)) := by
    decide +kernel
  have rightBindings : Dotenv.bindings (veiledSources "perhaps" "").file =
      ([("log_level", some []), ("SERVICE_VERSION", some "2")] :
        List (Text × Option Text)) := by
    decide +kernel
  have argued : (veiledSources "true" "INFO").Hides .environment
      (Text.lower "CORS_ENABLED") :=
    ⟨.corsEnabled, .argument, .boolean false, by decide +kernel,
      .argumentEnvironment, .exactly ⟨[], [], rfl, nofun⟩⟩
  have varied : (veiledSources "true" "INFO").Hides .file
      (Text.lower "log_level") :=
    ⟨.logLevel, .environment, .text "DEBUG", by decide +kernel,
      .environmentFile, .environment ⟨[("cors_enabled", "true")], [],
        by decide +kernel, nofun⟩⟩
  refine Sources.DifferHidden.differUnread ⟨rfl, ?_, ?_⟩ ?_
  · exact .cons ⟨rfl, fun shown => absurd argued shown⟩
      (.cons ⟨rfl, fun _ => rfl⟩ .nil)
  · rw [leftBindings, rightBindings]
    exact .cons ⟨rfl, fun shown => absurd varied shown⟩
      (.cons ⟨rfl, fun _ => rfl⟩ .nil)
  · rw [leftBindings]
    simp only [List.forall_mem_cons, Option.mem_some_iff, forall_eq']
    exact ⟨fun _ => Dotenv.not_refers_of_plain (by decide +kernel),
      fun _ => Dotenv.not_refers_of_plain (by decide +kernel), nofun⟩

theorem ofSources_eq_of_hidden_veiled :
    (veiledSources "true" "INFO").DifferUnread (veiledSources "perhaps" "") ∧
      ofSources (veiledSources "true" "INFO") =
        ofSources (veiledSources "perhaps" "") :=
  ⟨differUnread_veiledSources,
    ofSources_eq_of_hidden.2.2.2 _ _ differUnread_veiledSources⟩

/-- The commit is an argument, and the version in the file refers to the
variable of its name. -/
def referringToVariable (commit : Text) : Sources :=
  ⟨[("commit_id", .text "a")], [("COMMIT_ID", commit)],
    "SERVICE_VERSION=$\x7bCOMMIT_ID\x7d\n"⟩

/-- The commit is a variable, and the version in the file refers to the entry of
its name. -/
def referringToEntry (commit : Text) : Sources :=
  ⟨[], [("COMMIT_ID", "a")],
    "COMMIT_ID=" ++ commit ++ "\nSERVICE_VERSION=$\x7bCOMMIT_ID\x7d\n"⟩

/-- A reference shows a hidden variable and a hidden entry. -/
theorem hidden_shows_through_reference :
    ((referringToVariable "x").DifferHidden (referringToVariable "y") ∧
      ofSources (referringToVariable "x") ≠
        ofSources (referringToVariable "y")) ∧
    (referringToEntry "x").DifferHidden (referringToEntry "y") ∧
      ofSources (referringToEntry "x") ≠ ofSources (referringToEntry "y") := by
  have argued : (referringToVariable "x").Hides .environment
      (Text.lower "COMMIT_ID") :=
    ⟨.commitId, .argument, .text "a", by decide +kernel, .argumentEnvironment,
      .exactly ⟨[], [], rfl, nofun⟩⟩
  have varied : (referringToEntry "x").Hides .file (Text.lower "COMMIT_ID") :=
    ⟨.commitId, .environment, .text "a", by decide +kernel, .environmentFile,
      .environment ⟨[], [], by decide +kernel, nofun⟩⟩
  have leftBindings : Dotenv.bindings (referringToEntry "x").file =
      ([("COMMIT_ID", some "x"),
        ("SERVICE_VERSION", some "$\x7bCOMMIT_ID\x7d")] :
        List (Text × Option Text)) := by
    decide +kernel
  have rightBindings : Dotenv.bindings (referringToEntry "y").file =
      ([("COMMIT_ID", some "y"),
        ("SERVICE_VERSION", some "$\x7bCOMMIT_ID\x7d")] :
        List (Text × Option Text)) := by
    decide +kernel
  refine ⟨⟨⟨rfl, ?_, ?_⟩, by decide +kernel⟩, ⟨rfl, ?_, ?_⟩, by decide +kernel⟩
  · exact .cons ⟨rfl, fun shown => absurd argued shown⟩ .nil
  · exact List.forall₂_same.mpr fun _ _ => ⟨rfl, fun _ => rfl⟩
  · exact .cons ⟨rfl, fun _ => rfl⟩ .nil
  · rw [leftBindings, rightBindings]
    exact .cons ⟨rfl, fun shown => absurd varied shown⟩
      (.cons ⟨rfl, fun _ => rfl⟩ .nil)

end Settings

end ResponseService
