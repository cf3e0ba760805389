import Allotment.Arguments
import Allotment.Config.Loading
import Allotment.Logging
import Allotment.Scenario

/-!
# The program

A run reads its arguments, the configuration and the scenario, with logging made ready before
the scenario is touched, and answers with the result laid out over several lines. The first
failure ends it, and its status says whether the failure is reported.
-/

namespace Allotment

inductive ProgramError where
  | arguments (error : ArgumentError)
  | config (path : String) (error : ConfigError)
  | logging (error : LoggingError)
  | scenario (error : ScenarioError)
  | unknownPool (error : UnknownPool)

namespace ProgramError

def message : ProgramError → String
  | arguments e => e.message
  | config path _ => "failed to load config from " ++ path
  | logging _ => "failed to initialize logging"
  | scenario e => e.message
  | unknownPool e => e.message

/-- The run breaks off without a report: a filter could not be cut into its parts. -/
def isAbrupt : ProgramError → Bool
  | logging (.invalidFilter _ .splitCharacter) => true
  | _ => false

/-- The status that a failed run exits with. -/
def exitStatus (e : ProgramError) : UInt32 := if e.isAbrupt then 101 else 1

/-- What lies behind a failure, where its message does not say. -/
def cause? : ProgramError → Option String
  | config _ e => some e.message
  | logging e => some e.message
  | arguments _ | scenario _ | unknownPool _ => none

end ProgramError

namespace Program

/-- The answer to a command. -/
def answer (args : Arguments) (config : Config) (scenario : Scenario) :
    Except ProgramError Document :=
  match args.command with
  | .select => .ok (selectionDocument (scenario.select config).result)
  | .validate =>
      match scenario.validate args.caller with
      | .ok outcomes => .ok (.ofList RequestOutcome.toDocument outcomes)
      | .error e => .error (.unknownPool e)

variable {m : Type → Type} [Monad m] [MonadFiles m]

/-- The text that a run prints. -/
def run (words : List String) : m (Except ProgramError String) := do
  match Arguments.read words with
  | .error e => return .error (.arguments e)
  | .ok args =>
      match ← Config.loadOrDefault args.configPath with
      | .error e => return .error (.config args.configPath e)
      | .ok config =>
          match ← Logging.start config.logging with
          | .error e => return .error (.logging e)
          | .ok _ =>
              match ← Scenario.load args.scenarioPath with
              | .error e => return .error (.scenario e)
              | .ok scenario =>
                  return (answer args config scenario).map fun d => d.lay ++ "\n"

end Program

end Allotment
