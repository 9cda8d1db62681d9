import ResponseService.Logging.Root
import ResponseService.Settings.Basic
import ResponseService.Web.Application

/-!
# The life of an application

When an application starts it sets up logging as its settings say and logs
that it has started; when it stops it logs that too.  If logging cannot be set
up the start fails, and there is no stop.
-/

namespace ResponseService.Application

open Logging

/-- The title of the service. -/
def title : Text := "Cruise Control Response API"

/-- The name of the application's logger. -/
def lifespanLoggerName : Text := "cruise_response.main"

/-- A moment in the life of an application. -/
inductive Phase where
  | started
  | startFailed (problem : LevelProblem)
  | stopped
  deriving DecidableEq, Repr

namespace Phase

/-- The name of a phase. -/
def name : Phase → Text
  | .started => "lifespan.startup.complete"
  | .startFailed _ => "lifespan.startup.failed"
  | .stopped => "lifespan.shutdown.complete"

end Phase

/-- A phase, where records go in it, and the one that tells of it. -/
structure Moment where
  phase : Phase
  root : Root
  record : Option Record

/-- What is logged at the start. -/
def startRecord (settings : Settings) : Record :=
  .plain Level.info lifespanLoggerName
    ("Cruise Control response API started (version=" ++
      settings.serviceVersion ++ ", commit=" ++ settings.commitId ++ ")") []

/-- What is logged at the end. -/
def stopRecord : Record :=
  .plain Level.info lifespanLoggerName
    "Cruise Control response API shutting down" []

/-- The life of an application, from a root on. -/
def life (settings : Settings) (root : Root) : List Moment :=
  match root.setUp settings.logLevel settings.logFormat with
  | (equipped, some problem) => [⟨.startFailed problem, equipped, none⟩]
  | (equipped, none) =>
      [⟨.started, equipped, some (startRecord settings)⟩,
        ⟨.stopped, equipped, some stopRecord⟩]

end ResponseService.Application
