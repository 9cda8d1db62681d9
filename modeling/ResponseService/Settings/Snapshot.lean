import ResponseService.Settings.Basic

/-!
# The settings in force

Settings are read from the environment and the settings file when they are
first asked for, and kept from then on.  A failure is not kept: the next
question reads again.
-/

namespace ResponseService

/-- The surroundings of the service and the settings read from them. -/
structure Snapshot where
  environment : List (Text × Text)
  file : Text
  kept : Option Settings

namespace Snapshot

/-- Nothing is set and nothing has been read. -/
def initial : Snapshot := ⟨[], [], none⟩

/-- Replace the environment, and the file if a new one is given. -/
def surround
    (snapshot : Snapshot)
    (environment : List (Text × Text))
    (file : Option Text) :
    Snapshot :=
  { snapshot with environment := environment, file := file.getD snapshot.file }

/-- Forget the settings. -/
def clear (snapshot : Snapshot) : Snapshot := { snapshot with kept := none }

/-- The settings, and whether they had been kept. -/
def get (snapshot : Snapshot) :
    Snapshot × Except (List SettingIssue) (Settings × Bool) :=
  match snapshot.kept with
  | some settings => (snapshot, .ok (settings, true))
  | none =>
      match Settings.ofSources ⟨[], snapshot.environment, snapshot.file⟩ with
      | .error issues => (snapshot, .error issues)
      | .ok settings =>
          ({ snapshot with kept := some settings }, .ok (settings, false))

end Snapshot

end ResponseService
