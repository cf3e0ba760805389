import Allotment.Binding.Candidates
import Allotment.Policy.Native

/-!
# Configuration

What can be set for a run: where and how much is logged, how much content a certificate of
version 1 carries, and which policy is asked. Every section and every field may be left out and
then has its default.
-/

namespace Allotment

inductive LogRotation where
  | daily
  | hourly
  deriving DecidableEq, Repr

namespace LogRotation

def word : LogRotation → String
  | daily => "daily"
  | hourly => "hourly"

def ofWord? : String → Option LogRotation
  | "daily" => some daily
  | "hourly" => some hourly
  | _ => none

theorem ofWord?_word (rotation : LogRotation) : ofWord? rotation.word = some rotation := by
  cases rotation <;> rfl

end LogRotation

inductive PolicyMode where
  | native
  | unconfigured
  deriving DecidableEq, Repr

namespace PolicyMode

def word : PolicyMode → String
  | native => "native"
  | unconfigured => "unconfigured"

def ofWord? : String → Option PolicyMode
  | "native" => some native
  | "unconfigured" => some unconfigured
  | _ => none

theorem ofWord?_word (mode : PolicyMode) : ofWord? mode.word = some mode := by
  cases mode <;> rfl

end PolicyMode

structure LoggingSettings where
  directory : String
  filter : String
  rotation : LogRotation
  retentionDays : UInt64
  warnsOnStderr : Bool
  deriving DecidableEq, Repr

structure BindingSettings where
  contentLimit : UInt64
  deriving DecidableEq, Repr

structure PolicySettings where
  mode : PolicyMode
  native : NativeSettings
  deriving DecidableEq, Repr

structure Config where
  logging : LoggingSettings
  binding : BindingSettings
  policy : PolicySettings
  deriving DecidableEq, Repr

namespace LoggingSettings

def default : LoggingSettings where
  directory := "./logs/entitler"
  filter := "info"
  rotation := .daily
  retentionDays := 14
  warnsOnStderr := true

def ofDocument? (d : Document) : Option LoggingSettings := do
  let fields ← d.readMembers?
  let directory ← Document.optional "dir" fields default.directory Document.readText?
  let filter ← Document.optional "filter" fields default.filter Document.readText?
  let rotation ← Document.optional "rotation" fields default.rotation
    (Document.readWord? LogRotation.ofWord?)
  let retentionDays ←
    Document.optional "retention_days" fields default.retentionDays Document.readSize?
  let warnsOnStderr ←
    Document.optional "stderr_warn_enabled" fields default.warnsOnStderr Document.readBool?
  return { directory, filter, rotation, retentionDays, warnsOnStderr }

def toDocument (s : LoggingSettings) : Document :=
  .record [
    ("dir", .text s.directory),
    ("filter", .text s.filter),
    ("rotation", .text s.rotation.word),
    ("retention_days", .ofSize s.retentionDays),
    ("stderr_warn_enabled", .bool s.warnsOnStderr)]

end LoggingSettings

namespace BindingSettings

def default : BindingSettings := ⟨defaultContentLimit⟩

def ofDocument? (d : Document) : Option BindingSettings := do
  let fields ← d.readMembers?
  let contentLimit ←
    Document.optional "v1_content_limit" fields default.contentLimit Document.readSize?
  return { contentLimit }

def toDocument (s : BindingSettings) : Document :=
  .record [("v1_content_limit", .ofSize s.contentLimit)]

end BindingSettings

namespace NativeSettings

def ofDocument? (d : Document) : Option NativeSettings := do
  let fields ← d.readMembers?
  let skipCoveredProducts ←
    Document.optional "skip_covered_products" fields default.skipCoveredProducts
      Document.readBool?
  return { skipCoveredProducts }

def toDocument (s : NativeSettings) : Document :=
  .record [("skip_covered_products", .bool s.skipCoveredProducts)]

end NativeSettings

namespace PolicySettings

def default : PolicySettings := ⟨.native, .default⟩

def ofDocument? (d : Document) : Option PolicySettings := do
  let fields ← d.readMembers?
  let mode ← Document.optional "mode" fields default.mode
    (Document.readWord? PolicyMode.ofWord?)
  let native ← Document.optional "native" fields default.native NativeSettings.ofDocument?
  return { mode, native }

def toDocument (s : PolicySettings) : Document :=
  .record [("mode", .text s.mode.word), ("native", s.native.toDocument)]

/-- The evaluator that the settings ask for. -/
def evaluator (s : PolicySettings) : PolicyEvaluator :=
  match s.mode with
  | .native => Native.evaluator s.native
  | .unconfigured => PolicyEvaluator.unconfigured

end PolicySettings

namespace Config

def default : Config := ⟨.default, .default, .default⟩

def ofDocument? (d : Document) : Option Config := do
  let fields ← d.readMembers?
  let logging ← Document.optional "logging" fields .default LoggingSettings.ofDocument?
  let binding ← Document.optional "autobind" fields .default BindingSettings.ofDocument?
  let policy ← Document.optional "policy" fields .default PolicySettings.ofDocument?
  return { logging, binding, policy }

def toDocument (c : Config) : Document :=
  .record [
    ("logging", c.logging.toDocument),
    ("autobind", c.binding.toDocument),
    ("policy", c.policy.toDocument)]

end Config

end Allotment
