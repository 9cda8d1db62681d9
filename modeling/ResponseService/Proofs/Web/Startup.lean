import Mathlib.Data.List.Nodup
import ResponseService.Proofs.Logging.Handlers
import ResponseService.Proofs.Web.Served
import ResponseService.Web.Lifespan

/-!
# Which services start

The name of a level is looked up in capitals.  One of the table means its level,
and one that stands for nothing means that of ordinary information
(`Level.Means`).  The lookup finds more than levels, though: two names are
reserved, and what they stand for cannot be set (`Level.ofName_cases`).

So a set-up ends well exactly if the name is not reserved, and an application
starts exactly if it has a version and its settings name no such level
(`startup_outcome`).  Where the level cannot be set, the handler of the service
is in place and the old level is still in force.
-/

namespace ResponseService

namespace Logging.Level

/-! ## Levels of names -/

/-- Where no key stands twice, what is found under a key is what is listed with
it. -/
theorem find?_eq_some_iff {Entry Key : Type} [DecidableEq Key]
    {key : Entry → Key} {entries : List Entry}
    (distinct : (entries.map key).Nodup) {sought : Key} {entry : Entry} :
    entries.find? (key · = sought) = some entry ↔
      entry ∈ entries ∧ key entry = sought := by
  constructor
  · intro found
    have same : key entry = sought := by simpa using List.find?_some found
    exact ⟨List.mem_of_find?_eq_some found, same⟩
  · rintro ⟨listed, rfl⟩
    have present : (entries.find? (key · = key entry)).isSome :=
      List.find?_isSome.mpr ⟨entry, listed, by simp⟩
    obtain ⟨other, found⟩ := Option.isSome_iff_exists.mp present
    have same : key other = key entry := by simpa using List.find?_some found
    rwa [List.inj_on_of_nodup_map distinct (List.mem_of_find?_eq_some found)
      listed same] at found

/-- The level that a name in capitals means. -/
inductive Means (capitals : Text) : Int → Prop where
  | known {level : Int} (listed : (level, capitals) ∈ named ++ aliases) :
      Means capitals level
  | unknown (unlisted : ∀ level, (level, capitals) ∉ named ++ aliases) :
      Means capitals info

/-- A name in capitals that stands for something else than a level. -/
def IsReserved (capitals : Text) : Prop := capitals ∈ Ordered.names reserved

theorem ofCapitals?_eq_some_iff {capitals : Text} {level : Int} :
    ofCapitals? capitals = some level ↔
      (level, capitals) ∈ named ++ aliases := by
  have distinct : ((named ++ aliases).map Prod.snd).Nodup := by decide
  simp only [ofCapitals?, Option.map_eq_some_iff, find?_eq_some_iff distinct]
  constructor
  · rintro ⟨⟨_, _⟩, ⟨listed, rfl⟩, rfl⟩
    exact listed
  · intro listed
    exact ⟨_, ⟨listed, rfl⟩, rfl⟩

/-- No level has a reserved name. -/
theorem unlisted_of_isReserved {capitals : Text}
    (isReserved : IsReserved capitals) (level : Int) :
    (level, capitals) ∉ named ++ aliases := by
  have apart : ∀ capitals ∈ Ordered.names reserved,
      ∀ entry ∈ named ++ aliases, entry.2 ≠ capitals := by
    decide
  exact fun listed => apart capitals isReserved _ listed rfl

/-- A name either means a level or is reserved. -/
theorem ofName_cases (name : Text) :
    (¬IsReserved name.upper ∧ ∃ level, Means name.upper level ∧
        ofName name = .ok level) ∨
      ∃ problem, (name.upper, problem) ∈ reserved ∧
        ofName name = .error problem := by
  have distinct : (reserved.map Prod.fst).Nodup := by decide
  generalize capitalsEq : name.upper = capitals
  rw [ofName, capitalsEq]
  cases known : ofCapitals? capitals with
  | some level =>
      have listed := ofCapitals?_eq_some_iff.mp known
      have free : ¬IsReserved capitals :=
        fun isReserved => unlisted_of_isReserved isReserved level listed
      exact Or.inl ⟨free, level, .known listed, rfl⟩
  | none =>
      have unlisted : ∀ level, (level, capitals) ∉ named ++ aliases := by
        intro level listed
        rw [ofCapitals?_eq_some_iff.mpr listed] at known
        cases known
      cases other : reserved.find? (·.1 = capitals) with
      | some entry =>
          obtain ⟨listed, rfl⟩ := (find?_eq_some_iff distinct).mp other
          exact Or.inr ⟨entry.2, listed, rfl⟩
      | none =>
          refine Or.inl
            ⟨fun isReserved => ?_, info, .unknown unlisted, rfl⟩
          obtain ⟨entry, listed, same⟩ := List.mem_map.mp isReserved
          exact List.find?_eq_none.mp other entry listed (by simpa using same)

end Logging.Level

namespace Logging.Root

/-! ## Set-ups -/

variable (root : Root) (levelName format : Text)

/-- A set-up sets the level that the name means, unless the name is reserved;
then it gives up with the handler in place. -/
theorem setUp_cases :
    (¬Level.IsReserved levelName.upper ∧ ∃ level,
        Level.Means levelName.upper level ∧
          root.setUp levelName format =
            ({ root.equip format with level := level }, none)) ∨
      ∃ problem, (levelName.upper, problem) ∈ Level.reserved ∧
        root.setUp levelName format = (root.equip format, some problem) := by
  rw [setUp]
  rcases Level.ofName_cases levelName with
    ⟨free, level, means, found⟩ | ⟨problem, listed, found⟩ <;> rw [found]
  · exact Or.inl ⟨free, level, means, rfl⟩
  · exact Or.inr ⟨problem, listed, rfl⟩

theorem exists_level_setUp_iff :
    (∃ level, Level.Means levelName.upper level ∧
        root.setUp levelName format =
          ({ root.equip format with level := level }, none)) ↔
      ¬Level.IsReserved levelName.upper := by
  rcases root.setUp_cases levelName format with
    ⟨free, level, means, done⟩ | ⟨problem, listed, done⟩
  · exact iff_of_true ⟨level, means, done⟩ free
  · have isReserved : Level.IsReserved levelName.upper :=
      List.mem_map_of_mem listed
    simp [done, isReserved]

theorem setUp_eq_problem_iff (problem : LevelProblem) :
    root.setUp levelName format = (root.equip format, some problem) ↔
      (levelName.upper, problem) ∈ Level.reserved := by
  have distinct : (Level.reserved.map Prod.fst).Nodup := by decide
  rcases root.setUp_cases levelName format with
    ⟨free, level, means, done⟩ | ⟨other, listed, done⟩
  · have unlisted : (levelName.upper, problem) ∉ Level.reserved :=
      fun listed => free (List.mem_map_of_mem listed)
    simp [done, unlisted]
  · rw [done, Prod.mk.injEq, Option.some.injEq]
    constructor
    · rintro ⟨_, rfl⟩
      exact listed
    · intro same
      exact ⟨rfl, congrArg Prod.snd
        (List.inj_on_of_nodup_map distinct listed same rfl)⟩

theorem ending_eq_none_iff :
    (root.setUp levelName format).2 = none ↔
      ¬Level.IsReserved levelName.upper := by
  rcases root.setUp_cases levelName format with
    ⟨free, level, means, done⟩ | ⟨problem, listed, done⟩
  · simp [done, free]
  · have isReserved : Level.IsReserved levelName.upper :=
      List.mem_map_of_mem listed
    simp [done, isReserved]

end Logging.Root

namespace Application

open Logging

/-- The application comes to the end of its start. -/
def Starts (settings : Settings) (root : Root) : Prop :=
  ∃ moment ∈ life settings root, moment.phase = .started

theorem starts_iff (settings : Settings) (root : Root) :
    Starts settings root ↔ ¬Level.IsReserved settings.logLevel.upper := by
  rw [← root.ending_eq_none_iff settings.logLevel settings.logFormat, Starts,
    life]
  rcases root.setUp settings.logLevel settings.logFormat with
    ⟨equipped, _ | problem⟩ <;> simp

end Application

/-! ## Starts -/

/-- A set-up sets the level that the name means, which is that of ordinary
information for an unknown name, exactly if the name is not reserved.  If it is,
the set-up gives up with the problem of that name, behind the change of handlers
and with the old level in force.  An application comes up exactly if it has a
version and the level of its settings is not reserved. -/
theorem startup_outcome (root : Logging.Root) (levelName format : Text)
    (framework : Framework) (settings : Settings) (further : List Route) :
    ((∃ level, Logging.Level.Means levelName.upper level ∧
        root.setUp levelName format =
          ({ root.equip format with level := level }, none)) ↔
      ¬Logging.Level.IsReserved levelName.upper) ∧
    (∀ problem,
      root.setUp levelName format = (root.equip format, some problem) ↔
        (levelName.upper, problem) ∈ Logging.Level.reserved) ∧
    (root.equip format).level = root.level ∧
    ((∃ application,
          Application.create framework settings further = .ok application) ∧
        Application.Starts settings root ↔
      settings.serviceVersion ≠ [] ∧
        ¬Logging.Level.IsReserved settings.logLevel.upper) := by
  refine ⟨root.exists_level_setUp_iff levelName format,
    root.setUp_eq_problem_iff levelName format, root.level_equip format, ?_⟩
  have created : (∃ application,
      Application.create framework settings further = .ok application) ↔
        settings.serviceVersion ≠ [] := by
    simp [Application.create_eq_ok_iff]
  rw [created, Application.starts_iff]

/-- A level whose name stands for the text of a log line. -/
def basicFormatSources : Sources :=
  ⟨[("log_level", .text "basic_format")], [], []⟩

/-- The settings with this level. -/
def basicFormatSettings : Settings :=
  ⟨false, "*", "User-Task-ID", "unknown", "unknown", "basic_format", "json"⟩

/-- The name means no level, and still the level of ordinary information is not
set; with these settings, which are accepted, the application does not start. -/
theorem unstarted_basicFormat :
    (∀ level, (level, Text.upper "basic_format") ∉
        Logging.Level.named ++ Logging.Level.aliases) ∧
      (Logging.Root.bare.setUp "basic_format" "json").2 =
        some (.unknown "%(levelname)s:%(name)s:%(message)s") ∧
      (Logging.Root.bare.setUp "basic_format" "json").1.level =
        Logging.Level.warning ∧
      Settings.ofSources basicFormatSources = .ok basicFormatSettings ∧
      (∃ application,
        Application.create .plain basicFormatSettings [] =
          .ok application) ∧
      ¬Application.Starts basicFormatSettings .bare := by
  have capitals : Text.upper "basic_format" = "BASIC_FORMAT" := by
    decide +kernel
  have accepted :
      Settings.ofSources basicFormatSources = .ok basicFormatSettings := by
    decide +kernel
  have listed : (Text.upper "basic_format",
      LevelProblem.unknown "%(levelname)s:%(name)s:%(message)s") ∈
        Logging.Level.reserved := by
    rw [capitals]
    decide
  have ended :=
    (Logging.Root.bare.setUp_eq_problem_iff _ "json" _).mpr listed
  have isReserved : Logging.Level.IsReserved (Text.upper "basic_format") :=
    List.mem_map_of_mem listed
  refine ⟨Logging.Level.unlisted_of_isReserved isReserved, by rw [ended],
    by rw [ended]; rfl, accepted, ⟨_, rfl⟩, ?_⟩
  rw [Application.starts_iff]
  exact fun free => free isReserved

end ResponseService
