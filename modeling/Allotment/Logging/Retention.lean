import Allotment.Files

/-!
# Log retention

Old log files are removed when logging starts: the regular files that stand directly in the log
directory, have a name that begins like that of a log file, and were last changed at or before
the cutoff. The cutoff lies so many days before now; where that would be before all times that
the clock can tell, it is the epoch.
-/

namespace Allotment.Retention

/-- How the names of log files begin. -/
def logName : String := "entitler.log"

def nanosecondsPerSecond : Int := 1000000000

def secondsPerDay : Nat := 86400

/-- The seconds that files are kept, at most the greatest number of 64 bits. -/
def keptSeconds (days : UInt64) : Nat := min (days.toNat * secondsPerDay) (UInt64.size - 1)

/-- The earliest time that the clock can tell. -/
def earliest : Int := -9223372036854775808 * nanosecondsPerSecond

def cutoff (now : Int) (days : UInt64) : Int :=
  let time := now - keptSeconds days * nanosecondsPerSecond
  if time < earliest then 0 else time

def isExpired (cutoff : Int) (entry : DirectoryEntry) : Bool :=
  entry.isFile && logName.toList.isPrefixOf entry.name.toList && entry.modified ≤ cutoff

variable {m : Type → Type} [Monad m] [MonadFiles m]

/-- Removes files one after the other and counts those that could be removed. -/
def removeAll (directory : String) : List DirectoryEntry → m Nat
  | [] => return 0
  | entry :: entries => do
      let removed ← MonadFiles.removeFile (Path.join directory entry.name)
      let others ← removeAll directory entries
      return if removed then others + 1 else others

/-- Removes what has expired. A directory that cannot be listed is left as it is. -/
def sweep (directory : String) (days : UInt64) : m Nat := do
  let now ← MonadFiles.now
  match ← MonadFiles.entriesOf? directory with
  | none => return 0
  | some entries => removeAll directory (entries.filter (isExpired (cutoff now days)))

end Allotment.Retention
