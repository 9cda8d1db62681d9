import ResponseService.Settings.Argument
import ResponseService.Settings.Dotenv

/-!
# Sources of settings

A setting is given by an argument, by a variable of the environment or by an
entry of a settings file, in this order of rank.  Names are compared in small
letters.  Arguments and entries that no setting has the name of are unknown;
variables of the environment may be meant for others and are not.

Merging the sources is the work of the library that the settings are built on,
and is stated here as that library does it for settings whose names may be
written in any case: of entries whose names differ in their case alone the last
one counts, except that an argument under the exact name of a setting goes
before all others; an entry of the settings file without a value is passed
over.  Of the options that the library takes among the arguments only the one
that leaves the settings file out is known here (`Sources.withoutOption`); any
other one would be an unknown argument.
-/

namespace ResponseService

/-- What can be set. -/
inductive Setting where
  | corsEnabled
  | corsOrigin
  | corsExposeHeaders
  | serviceVersion
  | commitId
  | logLevel
  | logFormat
  deriving DecidableEq, Repr

namespace Setting

/-- All settings, in their order. -/
def all : List Setting :=
  [.corsEnabled, .corsOrigin, .corsExposeHeaders, .serviceVersion, .commitId,
    .logLevel, .logFormat]

/-- The name of a setting, in small letters. -/
def name : Setting → Text
  | .corsEnabled => "cors_enabled"
  | .corsOrigin => "cors_origin"
  | .corsExposeHeaders => "cors_expose_headers"
  | .serviceVersion => "service_version"
  | .commitId => "commit_id"
  | .logLevel => "log_level"
  | .logFormat => "log_format"

/-- Some setting has this name. -/
def isName (name : Text) : Bool := all.any fun setting => setting.name = name

end Setting

/-- Where settings come from. -/
structure Sources where
  /-- What is given to the service directly. -/
  arguments : List (Text × Argument)
  /-- The variables of the environment. -/
  environment : List (Text × Text)
  /-- The text of a settings file. -/
  file : Text

namespace Sources

/-- Nothing is set. -/
def none : Sources := ⟨[], [], []⟩

/-- Entries under names in small letters; of several the last one counts. -/
def folded {Value : Type} (entries : List (Text × Value)) :
    List (Text × Value) :=
  Ordered.ofList (entries.map fun entry => (entry.1.lower, entry.2))

/-- The entries of the settings file under names in small letters. -/
def fileEntries (sources : Sources) : List (Text × Option Text) :=
  folded (Dotenv.read sources.environment sources.file)

/-- The argument for a setting; its exact name goes before others. -/
def fromArguments? (sources : Sources) (setting : Setting) : Option Argument :=
  (Ordered.lookup (Ordered.ofList sources.arguments) setting.name).or
    (Ordered.lookup (folded sources.arguments) setting.name)

/-- The variable of the environment for a setting. -/
def fromEnvironment? (sources : Sources) (setting : Setting) : Option Text :=
  Ordered.lookup (folded sources.environment) setting.name

/-- The entry of the settings file for a setting. -/
def fromFile? (sources : Sources) (setting : Setting) : Option Text :=
  (Ordered.lookup sources.fileEntries setting.name).join

/-- What the source of the highest rank gives for a setting. -/
def given? (sources : Sources) (setting : Setting) : Option Argument :=
  match sources.fromArguments? setting with
  | some value => some value
  | .none =>
      match sources.fromEnvironment? setting with
      | some text => some (.text text)
      | .none => (sources.fromFile? setting).map .text

/-- The names of entries of the settings file that mean no setting; an entry
without a value is passed over. -/
def unknownEntries (sources : Sources) : List Text :=
  sources.fileEntries.filterMap fun entry =>
    if Setting.isName entry.1 ∨ (entry.2.getD []).isEmpty then .none
    else some entry.1

/-- The names of arguments that mean no setting. -/
def unknownArguments (sources : Sources) : List Text :=
  (Ordered.names (Ordered.ofList sources.arguments)).filter fun name =>
    !Setting.isName name.lower

/-- The names that mean no setting, each once. -/
def unknown (sources : Sources) : List Text :=
  let entries := sources.unknownEntries
  entries ++ sources.unknownArguments.filter (!entries.contains ·)

/-- The name of the argument that decides on the settings file. -/
def fileOption : Text := "_env_file"

/-- The sources as an option among the arguments leaves them: null in its place
means that there is no settings file. -/
def withoutOption (sources : Sources) : Sources :=
  match Ordered.lookup (Ordered.ofList sources.arguments) fileOption with
  | some .null =>
      { sources with
        arguments :=
          sources.arguments.filter fun argument => argument.1 ≠ fileOption
        file := [] }
  | _ => sources

end Sources

end ResponseService
