import ResponseService.Response.Header
import ResponseService.Settings.Sources
import ResponseService.Text.Blank

/-!
# Settings

Settings are read from their sources (`Settings.ofSources`).  Every setting is
read from what the highest source gives, or has its default.  The two that are
sent as headers lose the blanks around them if they are given as texts.  If a
policy for other origins is enabled its origin must not be empty; this is
looked at only when nothing else is wrong.

An option among the arguments may leave the settings file out
(`Settings.construct`).
-/

namespace ResponseService

/-- A problem with the setting of a name, or with all settings together. -/
structure SettingIssue where
  name : Option Text
  problem : SettingProblem
  deriving DecidableEq

/-- The settings of a service. -/
structure Settings where
  corsEnabled : Bool
  corsOrigin : Text
  corsExposeHeaders : Text
  serviceVersion : Text
  commitId : Text
  logLevel : Text
  logFormat : Text
  deriving DecidableEq

namespace Settings

/-- What the text of a setting becomes. -/
def tidy : Setting → Text → Text
  | .corsOrigin, text | .corsExposeHeaders, text => text.strip
  | _, text => text

/-- The text that a value gives a setting.  Only a text is tidied: what is read
from a value of another kind stays as it is. -/
def textFrom (setting : Setting) (value : Argument) :
    Except ReadProblem Text :=
  match value with
  | .text text => .ok (tidy setting text)
  | value => readText value

/-- The text of a setting that nothing gives. -/
def defaultText : Setting → Text
  | .corsOrigin => CorsPolicy.defaultOrigin
  | .corsExposeHeaders => CorsPolicy.defaultExposeHeaders
  | .serviceVersion | .commitId => "unknown"
  | .logLevel => "INFO"
  | .logFormat => "json"
  | .corsEnabled => "false"

/-- What is wrong with what a setting is given. -/
def problemOf? (setting : Setting) (value : Argument) : Option ReadProblem :=
  match setting with
  | .corsEnabled =>
      match readBoolean value with
      | .error problem => some problem
      | .ok _ => none
  | _ =>
      match readText value with
      | .error problem => some problem
      | .ok _ => none

/-- What is wrong with single settings, and then with their names. -/
def issues (sources : Sources) : List SettingIssue :=
  (Setting.all.filterMap fun setting =>
    (sources.given? setting).bind fun value =>
      (problemOf? setting value).map fun problem =>
        ⟨some setting.name, .unread problem⟩) ++
    sources.unknown.map fun name => ⟨some name, .unknownName⟩

/-- The truth value of a setting, its default being no. -/
def booleanOf (sources : Sources) (setting : Setting) : Bool :=
  match (sources.given? setting).map readBoolean with
  | some (.ok value) => value
  | _ => false

/-- The text of a setting. -/
def textOf (sources : Sources) (setting : Setting) : Text :=
  match (sources.given? setting).map (textFrom setting) with
  | some (.ok text) => text
  | _ => defaultText setting

/-- The settings of sources in which no single setting is wrong. -/
def gather (sources : Sources) : Settings where
  corsEnabled := booleanOf sources .corsEnabled
  corsOrigin := textOf sources .corsOrigin
  corsExposeHeaders := textOf sources .corsExposeHeaders
  serviceVersion := textOf sources .serviceVersion
  commitId := textOf sources .commitId
  logLevel := textOf sources .logLevel
  logFormat := textOf sources .logFormat

/-- The settings of sources, or all that is wrong with them. -/
def ofSources (sources : Sources) : Except (List SettingIssue) Settings :=
  match issues sources with
  | [] =>
      let settings := gather sources
      if settings.corsEnabled && settings.corsOrigin.isEmpty then
        .error [⟨none, .originMissing⟩]
      else .ok settings
  | found => .error found

/-- The settings that are made of sources, options among them. -/
def construct (sources : Sources) : Except (List SettingIssue) Settings :=
  ofSources sources.withoutOption

/-- The policy for other origins. -/
def corsPolicy (settings : Settings) : CorsPolicy :=
  ⟨settings.corsEnabled, settings.corsOrigin, settings.corsExposeHeaders⟩

/-- The identity of the service. -/
def serviceIdentity (settings : Settings) : ServiceIdentity :=
  ⟨settings.serviceVersion, settings.commitId⟩

end Settings

end ResponseService
