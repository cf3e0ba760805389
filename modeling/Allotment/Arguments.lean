import Allotment.Caller

/-!
# Arguments

The words of a command line: one command, and flags, each with the word behind it as its value,
whatever that word looks like. Flags may be repeated and stand in any order; the last value of a
flag counts.
-/

namespace Allotment

inductive Command where
  | select
  | validate
  deriving DecidableEq, Repr

namespace Command

def word : Command → String
  | select => "select"
  | validate => "validate"

def ofWord? : String → Option Command
  | "select" => some select
  | "validate" => some validate
  | _ => none

/-- As whom a command asks, unless told otherwise. -/
def defaultCaller : Command → Caller
  | select => .bestPools
  | validate => .bind

theorem ofWord?_word (command : Command) : ofWord? command.word = some command := by
  cases command <;> rfl

end Command

inductive Flag where
  | config
  | scenario
  | caller
  deriving DecidableEq, Repr

namespace Flag

def word : Flag → String
  | config => "--config"
  | scenario => "--scenario"
  | caller => "--caller"

def ofWord? : String → Option Flag
  | "--config" => some config
  | "--scenario" => some scenario
  | "--caller" => some caller
  | _ => none

theorem ofWord?_word (flag : Flag) : ofWord? flag.word = some flag := by
  cases flag <;> rfl

end Flag

structure Arguments where
  configPath : String
  command : Command
  scenarioPath : String
  caller : Caller
  deriving DecidableEq, Repr

inductive ArgumentError where
  | missingValue (flag : Flag)
  | unrecognisedCaller (error : Caller.Unrecognised)
  /-- A word that is no flag, and no command or a second one. -/
  | unknownArgument (word : String)
  | missingCommand
  | missingScenario
  deriving DecidableEq, Repr

namespace ArgumentError

def usage : String :=
  "usage: entitler [--config <path>] <select|validate> --scenario <path> " ++
    "[--caller bind|list_pools|best_pools|unknown]"

def message : ArgumentError → String
  | missingValue flag => "missing value for " ++ flag.word
  | unrecognisedCaller e => e.message
  | unknownArgument word => "unknown argument: " ++ word ++ ". " ++ usage
  | missingCommand => "missing command. " ++ usage
  | missingScenario => "missing --scenario <path>. " ++ usage

end ArgumentError

namespace Arguments

def defaultConfigPath : String := "./entitler.jsonc"

/-- What the words read so far have set. -/
structure Draft where
  configPath : Option String
  command : Option Command
  scenarioPath : Option String
  caller : Option Caller
  deriving DecidableEq, Repr

namespace Draft

def empty : Draft := ⟨none, none, none, none⟩

def setFlag (draft : Draft) (flag : Flag) (value : String) : Except ArgumentError Draft :=
  match flag with
  | .config => .ok { draft with configPath := some value }
  | .scenario => .ok { draft with scenarioPath := some value }
  | .caller =>
      match Caller.read value with
      | .ok caller => .ok { draft with caller := some caller }
      | .error e => .error (.unrecognisedCaller e)

/-- Takes a word as the command, where there is none yet. -/
def setCommand (draft : Draft) (word : String) : Except ArgumentError Draft :=
  match draft.command, Command.ofWord? word with
  | none, some command => .ok { draft with command := some command }
  | _, _ => .error (.unknownArgument word)

/-- Reads the words from the left. -/
def gather (draft : Draft) : List String → Except ArgumentError Draft
  | [] => .ok draft
  | word :: words =>
      match Flag.ofWord? word with
      | none =>
          match draft.setCommand word with
          | .ok draft => gather draft words
          | .error e => .error e
      | some flag =>
          match words with
          | [] => .error (.missingValue flag)
          | value :: words =>
              match draft.setFlag flag value with
              | .ok draft => gather draft words
              | .error e => .error e

/-- The arguments, where a command and a scenario have been given. -/
def complete (draft : Draft) : Except ArgumentError Arguments :=
  match draft.command, draft.scenarioPath with
  | none, _ => .error .missingCommand
  | some _, none => .error .missingScenario
  | some command, some scenarioPath =>
      .ok {
        configPath := draft.configPath.getD defaultConfigPath
        command
        scenarioPath
        caller := draft.caller.getD command.defaultCaller }

end Draft

def read (words : List String) : Except ArgumentError Arguments :=
  match Draft.empty.gather words with
  | .ok draft => draft.complete
  | .error e => .error e

end Arguments

end Allotment
