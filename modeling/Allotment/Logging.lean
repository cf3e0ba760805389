import Allotment.Config
import Allotment.Logging.Filter
import Allotment.Logging.Retention

/-!
# Logging

Before anything is logged the settings are checked, the log directory is made and swept, and the
filter is read, in this order: a filter that cannot be read does not save the old files.
-/

namespace Allotment

inductive LoggingError where
  | blankFilter
  | emptyDirectory
  | noDirectory (directory : String)
  | invalidFilter (filter : String) (fault : LogFilter.Fault)
  deriving DecidableEq, Repr

namespace LoggingError

def message : LoggingError → String
  | blankFilter => "logging.filter cannot be empty"
  | emptyDirectory => "logging.dir cannot be empty"
  | noDirectory directory => "failed to create logging directory " ++ directory
  | invalidFilter filter _ => "failed to parse logging.filter '" ++ filter ++ "'"

end LoggingError

namespace Logging

variable {m : Type → Type} [Monad m] [MonadFiles m]

/-- Makes logging ready and answers how many old files were removed. The log directory is seen
from the working directory. -/
def start (settings : LoggingSettings) : m (Except LoggingError Nat) := do
  if (Text.nonBlank? settings.filter).isNone then return .error .blankFilter
  if settings.directory = "" then return .error .emptyDirectory
  let directory := Path.join (← MonadFiles.currentDirectory) settings.directory
  if !(← makeDirectories directory) then return .error (.noDirectory directory)
  let removed ← Retention.sweep directory settings.retentionDays
  match LogFilter.check settings.filter with
  | .ok () => return .ok removed
  | .error fault => return .error (.invalidFilter settings.filter fault)

end Logging

end Allotment
