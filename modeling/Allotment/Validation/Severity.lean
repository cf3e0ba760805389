import Allotment.Caller
import Allotment.Validation.Rule
import Allotment.Validation.Verdict

/-!
# Severity

Whether a finding blocks depends on its rule and, for five of the rules, on the caller: who only
lists pools is warned where others are refused.
-/

namespace Allotment

inductive Severity where
  | error
  | warning
  deriving DecidableEq, Repr

namespace Severity

/-- The name under which a severity is known to users. -/
def word : Severity → String
  | error => "error"
  | warning => "warning"

/-- The word that leads the resource keys of the severity. -/
def leader : Severity → String
  | error => "rulefailed"
  | warning => "rulewarning"

def classify (rule : Rule) (caller : Caller) : Severity :=
  match rule with
  | .coresCapability | .ramCapability | .instanceCapability | .derivedProductCapability
  | .instanceQuantityMismatch =>
      match caller with
      | .listPools => warning
      | .bind | .bestPools | .unknown => error
  | .manifestVirtRestriction | .quantityAvailable | .virtOnly | .physicalOnly => error
  | .socketCoverage | .architectureMismatch => warning

end Severity

namespace Finding

def severity (finding : Finding) (caller : Caller) : Severity :=
  Severity.classify finding.rule caller

def notice (finding : Finding) (caller : Caller) : Notice :=
  ⟨finding.rule.resourceKey (finding.severity caller).leader, finding.params⟩

end Finding

namespace Verdict

/-- Parts the findings by severity and keeps their order. -/
def ofFindings (findings : List Finding) (caller : Caller) : Verdict where
  errors := (findings.filter fun f => f.severity caller == .error).map (·.notice caller)
  warnings := (findings.filter fun f => f.severity caller == .warning).map (·.notice caller)

end Verdict

end Allotment
