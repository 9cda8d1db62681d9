import ResponseService.Proofs.Ordered
import ResponseService.Proofs.Text.Blank
import ResponseService.Settings.Basic

/-!
# The rule on the origin

Settings that are accepted keep the rule on the origin, whichever source gives
it: an enabled policy names an origin, and the texts of the policy are trimmed
if they are given by values that documents have.  Settings with trimmed texts,
and no others, are accepted as they are when they are given as arguments,
whatever the environment says (`construct_arguments_iff`).

Sources are sound if every value that counts is accepted by its setting and no
name is left over.  Sound sources fail exactly where an enabled policy is given
no origin, and for that reason alone; of other sources the rule says nothing
(`construct_keeps_origin`).

A text that is read from a value of another kind is not trimmed, so that blanks
are an origin there, and an option among the arguments may leave a source out
(`octets_and_options`).
-/

namespace ResponseService

/-- The policy sends no header, or all three with a trimmed origin that is not
empty. -/
def CorsPolicy.SendsNoneOrAll (policy : CorsPolicy) : Prop :=
  policy.headers = [] ∨
    policy.headers =
        [(HeaderName.allowOrigin, policy.allowOrigin),
          (HeaderName.exposeHeaders, policy.exposeHeaders),
          (HeaderName.allowCredentials, "true")] ∧
      policy.allowOrigin ≠ [] ∧ policy.allowOrigin.IsTrimmed

/-! ## Sound sources -/

/-- The setting can be read from the value. -/
inductive Setting.Accepts : Setting → Argument → Prop where
  | answer {value : Argument} {answer : Bool}
      (read : Settings.readBoolean value = .ok answer) :
      Accepts .corsEnabled value
  | text {setting : Setting} {value : Argument} {text : Text}
      (other : setting ≠ .corsEnabled)
      (read : Settings.readText value = .ok text) :
      Accepts setting value

theorem Settings.problemOf?_eq_none_iff {setting : Setting}
    {value : Argument} :
    problemOf? setting value = none ↔ setting.Accepts value := by
  by_cases same : setting = .corsEnabled
  · subst same
    cases read : readBoolean value with
    | error problem =>
        simp only [problemOf?, read, reduceCtorEq, false_iff]
        intro accepts
        cases accepts with
        | answer readToo => rw [read] at readToo; cases readToo
        | text other _ => exact other rfl
    | ok answer =>
        simp only [problemOf?, read, true_iff]
        exact .answer read
  · have texts : problemOf? setting value = none ↔
        ∃ text, readText value = .ok text := by
      cases setting with
      | corsEnabled => exact absurd rfl same
      | _ => cases read : readText value <;> simp [problemOf?, read]
    rw [texts]
    constructor
    · rintro ⟨text, read⟩
      exact .text same read
    · rintro (_ | ⟨_, read⟩)
      · exact absurd rfl same
      · exact ⟨_, read⟩

namespace Sources

variable {sources : Sources}

/-- Some argument, or some entry of the settings file with a value, has a name
that no setting has. -/
inductive HasExtra (sources : Sources) : Prop where
  | argument {name : Text} {value : Argument}
      (given : (name, value) ∈ sources.arguments)
      (extra : ∀ setting, Setting.name setting ≠ name.lower)
  | entry {name value : Text}
      (given : (name, some value) ∈ sources.fileEntries)
      (valued : value ≠ []) (extra : ∀ setting, Setting.name setting ≠ name)

/-- A value gives no origin: it is a text of blanks, or of another kind and read
as the empty text. -/
inductive GivesNoOrigin : Argument → Prop where
  | blank {text : Text} (blanks : ∀ point ∈ text, point.isBlank = true) :
      GivesNoOrigin (.text text)
  | empty {found : ForeignArgument} (read : found.text = .ok []) :
      GivesNoOrigin (.foreign found)

/-- An enabled policy is given no origin. -/
structure LacksOrigin (sources : Sources) : Prop where
  enabled : ∃ value, sources.given? .corsEnabled = some value ∧
    Settings.readBoolean value = .ok true
  unnamed : ∃ value, sources.given? .corsOrigin = some value ∧
    GivesNoOrigin value

/-- The setting is given, if at all, by a value that documents have. -/
def GivesDocument (sources : Sources) (setting : Setting) : Prop :=
  ∀ found, sources.given? setting ≠ some (.foreign found)

/-- No argument is an option: the names of options begin with a low line. -/
def IsOptionless (sources : Sources) : Prop :=
  ∀ argument ∈ sources.arguments, argument.1.head? ≠ some ('_' : CodePoint)

instance (sources : Sources) : Decidable sources.IsOptionless :=
  inferInstanceAs (Decidable (∀ argument ∈ sources.arguments,
    argument.1.head? ≠ some ('_' : CodePoint)))

/-- Every value that counts is accepted, and no name is left over. -/
structure IsSound (sources : Sources) : Prop where
  accepts : ∀ setting value, sources.given? setting = some value →
    setting.Accepts value
  named : ¬sources.HasExtra

end Sources

theorem Setting.mem_all (setting : Setting) : setting ∈ all := by
  cases setting <;> decide

theorem Setting.nodup_names : (all.map Setting.name).Nodup := by
  decide

theorem Setting.lower_name (setting : Setting) :
    setting.name.lower = setting.name := by
  cases setting <;> decide +kernel

theorem Setting.isName_eq_false_iff {name : Text} :
    isName name = false ↔ ∀ setting, Setting.name setting ≠ name := by
  simp only [isName, List.any_eq_false, decide_eq_true_eq]
  exact ⟨fun other setting => other setting setting.mem_all,
    fun other setting _ => other setting⟩

namespace Sources

variable {sources : Sources}

theorem mem_unknownEntries_iff {name : Text} :
    name ∈ sources.unknownEntries ↔
      ∃ value, (name, some value) ∈ sources.fileEntries ∧ value ≠ [] ∧
        ∀ setting, Setting.name setting ≠ name := by
  have listed (entry : Text × Option Text) :
      (if Setting.isName entry.1 ∨ (entry.2.getD []).isEmpty then .none
        else some entry.1) = some name ↔
      ∃ value, entry = (name, some value) ∧ value ≠ [] ∧
        Setting.isName name = false := by
    rcases entry with ⟨entryName, _ | value⟩
    · simp
    · constructor
      · intro kept
        split at kept
        · cases kept
        · next left =>
            obtain rfl := Option.some.inj kept
            simp only [not_or, Bool.not_eq_true, Option.getD_some,
              List.isEmpty_eq_false_iff] at left
            exact ⟨value, rfl, left.2, left.1⟩
      · rintro ⟨_, same, valued, extra⟩
        cases same
        simp [extra, valued]
  simp only [unknownEntries, List.mem_filterMap, ← Setting.isName_eq_false_iff]
  constructor
  · rintro ⟨entry, given, kept⟩
    obtain ⟨value, rfl, rest⟩ := (listed entry).mp kept
    exact ⟨value, given, rest⟩
  · rintro ⟨value, given, rest⟩
    exact ⟨_, given, (listed _).mpr ⟨value, rfl, rest⟩⟩

theorem mem_unknownArguments_iff {name : Text} :
    name ∈ sources.unknownArguments ↔
      (∃ value, (name, value) ∈ sources.arguments) ∧
        ∀ setting, Setting.name setting ≠ name.lower := by
  rw [unknownArguments, List.mem_filter, Ordered.mem_names_ofList,
    Bool.not_eq_true', Setting.isName_eq_false_iff, Ordered.names]
  simp

theorem unknown_eq_nil_iff : sources.unknown = [] ↔ ¬sources.HasExtra := by
  rw [unknown, List.append_eq_nil_iff]
  constructor
  · rintro ⟨entries, arguments⟩ (⟨given, extra⟩ | ⟨given, valued, extra⟩)
    · have left := mem_unknownArguments_iff.mpr ⟨⟨_, given⟩, extra⟩
      rw [entries] at arguments
      exact List.filter_eq_nil_iff.mp arguments _ left rfl
    · have left := mem_unknownEntries_iff.mpr ⟨_, given, valued, extra⟩
      rw [entries] at left
      cases left
  · intro named
    have entries : sources.unknownEntries = [] := by
      rw [List.eq_nil_iff_forall_not_mem]
      intro name left
      obtain ⟨value, given, valued, extra⟩ := mem_unknownEntries_iff.mp left
      exact named (.entry given valued extra)
    have arguments : sources.unknownArguments = [] := by
      rw [List.eq_nil_iff_forall_not_mem]
      intro name left
      obtain ⟨⟨value, given⟩, extra⟩ := mem_unknownArguments_iff.mp left
      exact named (.argument given extra)
    exact ⟨entries, by rw [arguments]; rfl⟩

end Sources

namespace Settings

variable {sources : Sources}

/-! ## Accepted settings -/

theorem issues_eq_nil_iff : issues sources = [] ↔ sources.IsSound := by
  rw [issues, List.append_eq_nil_iff, List.map_eq_nil_iff,
    Sources.unknown_eq_nil_iff]
  have accepts : (Setting.all.filterMap fun setting =>
      (sources.given? setting).bind fun value =>
        (problemOf? setting value).map fun problem =>
          SettingIssue.mk (some setting.name) (.unread problem)) = [] ↔
      ∀ setting value, sources.given? setting = some value →
        setting.Accepts value := by
    simp only [List.filterMap_eq_nil_iff, Option.bind_eq_none_iff,
      Option.map_eq_none_iff, problemOf?_eq_none_iff]
    exact ⟨fun all setting => all setting setting.mem_all,
      fun all setting _ => all setting⟩
  rw [accepts]
  exact ⟨fun ⟨all, named⟩ => ⟨all, named⟩,
    fun sound => ⟨sound.accepts, sound.named⟩⟩

theorem booleanOf_eq_true_iff {setting : Setting} :
    booleanOf sources setting = true ↔
      ∃ value, sources.given? setting = some value ∧
        readBoolean value = .ok true := by
  rw [booleanOf]
  cases sources.given? setting with
  | none => simp
  | some value =>
      cases read : readBoolean value with
      | error problem => simp [read]
      | ok answer => simp [read]

theorem givesNoOrigin_iff {value : Argument} :
    Sources.GivesNoOrigin value ↔ textFrom .corsOrigin value = .ok [] := by
  constructor
  · rintro (blanks | read)
    · exact congrArg Except.ok (Text.strip_eq_nil_iff.mpr blanks)
    · exact read
  · intro read
    cases value with
    | text own => exact .blank (Text.strip_eq_nil_iff.mp (Except.ok.inj read))
    | foreign found => exact .empty read
    | _ => cases read

theorem textOf_corsOrigin_eq_nil_iff :
    textOf sources .corsOrigin = [] ↔
      ∃ value, sources.given? .corsOrigin = some value ∧
        Sources.GivesNoOrigin value := by
  have default : defaultText .corsOrigin ≠ [] := by decide
  simp only [givesNoOrigin_iff]
  rw [textOf]
  cases given : sources.given? .corsOrigin with
  | none => simp [default]
  | some value =>
      cases read : textFrom .corsOrigin value <;> simp [read, default]

theorem isTrimmed_textOf {setting : Setting}
    (sent : setting = .corsOrigin ∨ setting = .corsExposeHeaders)
    (known : sources.GivesDocument setting) :
    (textOf sources setting).IsTrimmed := by
  have tidied (text : Text) : (tidy setting text).IsTrimmed := by
    rcases sent with rfl | rfl <;> exact text.isTrimmed_strip
  have default : (defaultText setting).IsTrimmed := by
    rcases sent with rfl | rfl <;> exact ⟨by decide, by decide⟩
  rw [textOf]
  cases given : sources.given? setting with
  | none => exact default
  | some value =>
      cases value with
      | text text => exact tidied text
      | foreign found => exact absurd given (known found)
      | _ => exact default

theorem lacksOrigin_iff :
    sources.LacksOrigin ↔
      (gather sources).corsEnabled = true ∧
        (gather sources).corsOrigin = [] := by
  constructor
  · rintro ⟨enabled, unnamed⟩
    exact ⟨booleanOf_eq_true_iff.mpr enabled,
      textOf_corsOrigin_eq_nil_iff.mpr unnamed⟩
  · rintro ⟨enabled, empty⟩
    exact ⟨booleanOf_eq_true_iff.mp enabled,
      textOf_corsOrigin_eq_nil_iff.mp empty⟩

/-! ## What becomes of sources -/

theorem ofSources_of_sound (sound : sources.IsSound) :
    ofSources sources =
      if (gather sources).corsEnabled && (gather sources).corsOrigin.isEmpty then
        .error [⟨none, .originMissing⟩]
      else .ok (gather sources) := by
  simp only [ofSources, issues_eq_nil_iff.mpr sound]

theorem ofSources_of_lacksOrigin (sound : sources.IsSound)
    (lacks : sources.LacksOrigin) :
    ofSources sources = .error [⟨none, .originMissing⟩] := by
  obtain ⟨enabled, origin⟩ := lacksOrigin_iff.mp lacks
  rw [ofSources_of_sound sound, if_pos (by simp [enabled, origin])]

theorem ofSources_of_not_lacksOrigin (sound : sources.IsSound)
    (origin : ¬sources.LacksOrigin) :
    ofSources sources = .ok (gather sources) := by
  rw [lacksOrigin_iff] at origin
  rw [ofSources_of_sound sound, if_neg (by simpa using origin)]

theorem ofSources_of_unsound (unsound : ¬sources.IsSound) :
    ofSources sources = .error (issues sources) := by
  rw [ofSources]
  split
  · next clear => exact absurd (issues_eq_nil_iff.mp clear) unsound
  · rfl

/-- Settings come of sound sources. -/
theorem gather_of_ofSources {settings : Settings}
    (accepted : ofSources sources = .ok settings) :
    sources.IsSound ∧ gather sources = settings := by
  by_cases sound : sources.IsSound
  · rw [ofSources_of_sound sound] at accepted
    split at accepted
    · cases accepted
    · exact ⟨sound, Except.ok.inj accepted⟩
  · rw [ofSources_of_unsound sound] at accepted
    cases accepted

/-- What is wrong with single settings and with names has a name, and is not
the rule on the origin. -/
theorem named_of_mem_issues {issue : SettingIssue}
    (found : issue ∈ issues sources) :
    issue.name ≠ none ∧ issue.problem ≠ .originMissing := by
  rw [issues, List.mem_append] at found
  rcases found with single | extra
  · simp only [List.mem_filterMap, Option.bind_eq_some_iff,
      Option.map_eq_some_iff] at single
    obtain ⟨setting, _, value, _, problem, _, rfl⟩ := single
    exact ⟨nofun, nofun⟩
  · obtain ⟨name, _, rfl⟩ := List.mem_map.mp extra
    exact ⟨nofun, nofun⟩

/-! ## Settings given as arguments -/

/-- The value of a setting. -/
def valueOf (settings : Settings) : Setting → Argument
  | .corsEnabled => .boolean settings.corsEnabled
  | .corsOrigin => .text settings.corsOrigin
  | .corsExposeHeaders => .text settings.corsExposeHeaders
  | .serviceVersion => .text settings.serviceVersion
  | .commitId => .text settings.commitId
  | .logLevel => .text settings.logLevel
  | .logFormat => .text settings.logFormat

/-- All settings as arguments of their names. -/
def arguments (settings : Settings) : List (Text × Argument) :=
  [("cors_enabled", .boolean settings.corsEnabled),
    ("cors_origin", .text settings.corsOrigin),
    ("cors_expose_headers", .text settings.corsExposeHeaders),
    ("service_version", .text settings.serviceVersion),
    ("commit_id", .text settings.commitId),
    ("log_level", .text settings.logLevel),
    ("log_format", .text settings.logFormat)]

/-- The texts of the policy are trimmed, and an enabled policy has an origin. -/
structure IsKept (settings : Settings) : Prop where
  origin : settings.corsOrigin.IsTrimmed
  exposeHeaders : settings.corsExposeHeaders.IsTrimmed
  named : settings.corsEnabled = true → settings.corsOrigin ≠ []

theorem names_arguments (settings : Settings) :
    Ordered.names settings.arguments = Setting.all.map Setting.name := rfl

theorem mem_arguments (settings : Settings) (setting : Setting) :
    (setting.name, settings.valueOf setting) ∈ settings.arguments := by
  cases setting <;> simp [arguments, Setting.name, valueOf]

theorem given?_arguments (settings : Settings)
    (environment : List (Text × Text)) (setting : Setting) :
    Sources.given? ⟨settings.arguments, environment, []⟩ setting =
      some (settings.valueOf setting) := by
  have distinct : (Ordered.names settings.arguments).Nodup := by
    rw [names_arguments]
    exact Setting.nodup_names
  have found : Ordered.lookup settings.arguments setting.name =
      some (settings.valueOf setting) :=
    (Ordered.lookup_eq_some_iff distinct).mpr (settings.mem_arguments setting)
  rw [Sources.given?, Sources.fromArguments?, Ordered.ofList_of_nodup distinct,
    found]
  rfl

theorem isSound_arguments (settings : Settings)
    (environment : List (Text × Text)) :
    Sources.IsSound ⟨settings.arguments, environment, []⟩ := by
  constructor
  · intro setting value given
    rw [given?_arguments] at given
    obtain rfl := Option.some.inj given
    cases setting with
    | corsEnabled => exact .answer rfl
    | _ => exact .text nofun rfl
  · rintro (⟨given, extra⟩ | ⟨given, _, _⟩)
    · have listed := List.mem_map_of_mem (f := Prod.fst) given
      rw [← Ordered.names, names_arguments] at listed
      obtain ⟨setting, _, rfl⟩ := List.mem_map.mp listed
      exact extra setting setting.lower_name.symm
    · cases given

theorem givesDocument_arguments (settings : Settings)
    (environment : List (Text × Text)) (setting : Setting) :
    Sources.GivesDocument ⟨settings.arguments, environment, []⟩ setting := by
  intro found
  rw [given?_arguments]
  cases setting <;> nofun

theorem gather_arguments {settings : Settings} (kept : settings.IsKept)
    (environment : List (Text × Text)) :
    gather ⟨settings.arguments, environment, []⟩ = settings := by
  simp only [gather, booleanOf, textOf, given?_arguments, valueOf, readBoolean,
    textFrom, Option.map_some, tidy, Text.strip_of_isTrimmed kept.origin,
    Text.strip_of_isTrimmed kept.exposeHeaders]

/-- Settings that keep the rule are accepted as they are. -/
theorem ofSources_arguments {settings : Settings} (kept : settings.IsKept)
    (environment : List (Text × Text)) :
    ofSources ⟨settings.arguments, environment, []⟩ = .ok settings := by
  have same := gather_arguments kept environment
  rw [ofSources_of_not_lacksOrigin (isSound_arguments settings environment),
    same]
  rw [lacksOrigin_iff, same]
  exact fun lacks => kept.named lacks.1 lacks.2

/-! ## The rule -/

/-- Accepted settings with an enabled policy name an origin. -/
theorem named_of_ofSources {settings : Settings}
    (accepted : ofSources sources = .ok settings)
    (enabled : settings.corsEnabled = true) : settings.corsOrigin ≠ [] := by
  obtain ⟨sound, rfl⟩ := gather_of_ofSources accepted
  intro empty
  have lacks := lacksOrigin_iff.mpr ⟨enabled, empty⟩
  rw [ofSources_of_lacksOrigin sound lacks] at accepted
  cases accepted

theorem sendsNoneOrAll_of_isTrimmed {settings : Settings}
    (trimmed : settings.corsOrigin.IsTrimmed)
    (named : settings.corsEnabled = true → settings.corsOrigin ≠ []) :
    settings.corsPolicy.SendsNoneOrAll := by
  cases enabled : settings.corsEnabled with
  | false => exact Or.inl (by simp [corsPolicy, CorsPolicy.headers, enabled])
  | true =>
      exact Or.inr ⟨by simp [corsPolicy, CorsPolicy.headers, enabled],
        named enabled, trimmed⟩

/-- Sources without options are what settings are made of. -/
theorem construct_of_optionless (optionless : sources.IsOptionless) :
    construct sources = ofSources sources := by
  have absent : Ordered.lookup (Ordered.ofList sources.arguments)
      Sources.fileOption = none := by
    rw [Ordered.lookup_eq_none_iff, Ordered.mem_names_ofList, Ordered.names]
    intro listed
    obtain ⟨argument, given, name⟩ := List.mem_map.mp listed
    exact optionless argument given (by rw [name]; rfl)
  rw [construct, Sources.withoutOption, absent]

theorem optionless_arguments (settings : Settings)
    (environment : List (Text × Text)) :
    Sources.IsOptionless ⟨settings.arguments, environment, []⟩ := by
  have names : ∀ name ∈ Setting.all.map Setting.name,
      name.head? ≠ some ('_' : CodePoint) := by decide
  intro argument given
  have listed := List.mem_map_of_mem (f := Prod.fst) given
  rw [← Ordered.names, names_arguments] at listed
  exact names _ listed

/-- Settings that name an origin where they need one are accepted as they are,
given as arguments, exactly if the texts of the policy are trimmed. -/
theorem construct_arguments_iff {settings : Settings}
    (named : settings.corsEnabled = true → settings.corsOrigin ≠ [])
    (environment : List (Text × Text)) :
    construct ⟨settings.arguments, environment, []⟩ = .ok settings ↔
      settings.corsOrigin.IsTrimmed ∧
        settings.corsExposeHeaders.IsTrimmed := by
  rw [construct_of_optionless (optionless_arguments settings environment)]
  constructor
  · intro accepted
    have same := (gather_of_ofSources accepted).2
    have known := givesDocument_arguments settings environment
    have origin := isTrimmed_textOf (.inl rfl) (known .corsOrigin)
    have exposed := isTrimmed_textOf (.inr rfl) (known .corsExposeHeaders)
    rw [← same]
    exact ⟨origin, exposed⟩
  · rintro ⟨origin, exposed⟩
    exact ofSources_arguments ⟨origin, exposed, named⟩ environment

/-- Let no argument be an option.  Accepted settings name an origin where the
policy is enabled.  Their texts are trimmed if they are given by values that
documents have; and if they are trimmed the settings are accepted again as they
are, given as arguments.  Sound sources fail exactly if an enabled policy is
given no origin, and then with that one problem, which is of no single setting.
Sources that are not sound fail without it, whatever they give. -/
theorem construct_keeps_origin {sources : Sources}
    (optionless : sources.IsOptionless) :
    (∀ settings, construct sources = .ok settings →
      (sources.GivesDocument .corsOrigin → settings.corsOrigin.IsTrimmed) ∧
      (sources.GivesDocument .corsExposeHeaders →
        settings.corsExposeHeaders.IsTrimmed) ∧
      (settings.corsEnabled = true → settings.corsOrigin ≠ []) ∧
      (settings.corsOrigin.IsTrimmed → settings.corsPolicy.SendsNoneOrAll) ∧
      ∀ environment,
        construct ⟨settings.arguments, environment, []⟩ = .ok settings ↔
          settings.corsOrigin.IsTrimmed ∧
            settings.corsExposeHeaders.IsTrimmed) ∧
    (sources.IsSound →
      ((∃ issues, construct sources = .error issues) ↔ sources.LacksOrigin) ∧
      ∀ issues, construct sources = .error issues →
        issues = [⟨none, .originMissing⟩]) ∧
    (¬sources.IsSound →
      ∃ issues, construct sources = .error issues ∧
        ∀ issue ∈ issues, issue.name ≠ none ∧
          issue.problem ≠ .originMissing) := by
  rw [construct_of_optionless optionless]
  refine ⟨?_, ?_, ?_⟩
  · intro settings accepted
    have named := named_of_ofSources accepted
    have same := (gather_of_ofSources accepted).2
    refine ⟨?_, ?_, named,
      fun trimmed => sendsNoneOrAll_of_isTrimmed trimmed named,
      construct_arguments_iff named⟩ <;> rw [← same]
    · exact isTrimmed_textOf (.inl rfl)
    · exact isTrimmed_textOf (.inr rfl)
  · intro sound
    by_cases lacks : sources.LacksOrigin
    · rw [ofSources_of_lacksOrigin sound lacks]
      exact ⟨⟨fun _ => lacks, fun _ => ⟨_, rfl⟩⟩,
        fun issues failed => (Except.error.inj failed).symm⟩
    · rw [ofSources_of_not_lacksOrigin sound lacks]
      exact ⟨⟨fun ⟨_, failed⟩ => (nomatch failed),
        fun present => absurd present lacks⟩, nofun⟩
  · intro unsound
    exact ⟨issues sources, ofSources_of_unsound unsound,
      fun issue found => named_of_mem_issues found⟩

/-- The policy is enabled by an argument, and a variable of the environment
gives an origin of blanks. -/
def blankOrigin : Sources :=
  ⟨[("cors_enabled", .boolean true)], [("Cors_Origin", "\t ")], []⟩

theorem construct_keeps_origin_blank :
    blankOrigin.IsOptionless ∧ blankOrigin.IsSound ∧
      blankOrigin.LacksOrigin ∧
      construct blankOrigin = .error [⟨none, .originMissing⟩] := by
  have optionless : blankOrigin.IsOptionless := by decide
  have sound : blankOrigin.IsSound :=
    issues_eq_nil_iff.mp (by decide +kernel)
  have failed : construct blankOrigin = .error [⟨none, .originMissing⟩] := by
    decide +kernel
  exact ⟨optionless, sound,
    ((construct_keeps_origin optionless).2.1 sound).1.mp ⟨_, failed⟩, failed⟩

/-- An enabled policy is given its origin as octets. -/
def octetOrigin (octets : List UInt8) : Sources :=
  ⟨[("cors_enabled", .boolean true),
    ("cors_origin", .foreign (.ofOctets octets))], [], []⟩

/-- A file gives an origin of blanks. -/
def blankFile (arguments : List (Text × Argument)) : Sources :=
  ⟨("cors_enabled", .boolean true) :: arguments, [], "CORS_ORIGIN=\" \"\n"⟩

/-- An origin that is given as octets is kept with the blanks around it, also
if it has nothing else; and with an option among the arguments the blank origin
of the file is no fault. -/
theorem octets_and_options :
    (∃ settings, construct (octetOrigin [0x20, 0x78, 0x20]) = .ok settings ∧
        settings.corsOrigin = " x ") ∧
      (∃ settings, construct (octetOrigin [0x20, 0x20]) = .ok settings ∧
        settings.corsEnabled = true ∧
          ∀ point ∈ settings.corsOrigin, point.isBlank = true) ∧
      construct (blankFile []) = .error [⟨none, .originMissing⟩] ∧
      ∃ settings,
        construct (blankFile [("_env_file", .null)]) = .ok settings := by
  have spaced : construct (octetOrigin [0x20, 0x78, 0x20]) =
      .ok ⟨true, " x ", "User-Task-ID", "unknown", "unknown", "INFO",
        "json"⟩ := by
    decide +kernel
  have blank : construct (octetOrigin [0x20, 0x20]) =
      .ok ⟨true, "  ", "User-Task-ID", "unknown", "unknown", "INFO",
        "json"⟩ := by
    decide +kernel
  have masked : construct (blankFile [("_env_file", .null)]) =
      .ok ⟨true, "*", "User-Task-ID", "unknown", "unknown", "INFO",
        "json"⟩ := by
    decide +kernel
  exact ⟨⟨_, spaced, rfl⟩, ⟨_, blank, rfl, by decide⟩, by decide +kernel,
    _, masked⟩

end Settings

end ResponseService
