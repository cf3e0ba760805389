import Allotment.Proofs.Validation.Severities

/-!
# Findings read back from a verdict

A verdict writes keys in place of rules and keeps errors and warnings apart, so the order in which the
findings were made is no longer to be seen in it. Still nothing is lost. The key of a notice gives away
the rule, whichever word leads it, and each rule finds one thing at most; so asking the notices for one
rule after the other, in the order of the catalogue, gives the findings back (`recovered_validate`).
Who asked need not be known for that. Verdicts are therefore as different as the findings they are made
of (`validate_eq_iff_findings_eq`).
-/

namespace Allotment

namespace Verdict

/-- What a verdict tells of a rule: the parameters of the first notice that bears a key of it. -/
def told? (verdict : Verdict) (rule : Rule) : Option Finding :=
  (verdict.notices.find? (·.concerns [rule])).map fun notice => ⟨rule, notice.params⟩

/-- All that a verdict tells, in the order of the catalogue. -/
def recovered (verdict : Verdict) : List Finding := Request.order.filterMap verdict.told?

end Verdict

namespace Request

variable {request : Request} {caller : Caller}

/-- The notice of a finding concerns the rule of the finding and no other rule. -/
theorem concerns_singleton_iff {finding : Finding} {rule : Rule} :
    (finding.notice caller).concerns [rule] = true ↔ finding.rule = rule := by
  rw [Finding.concerns_notice, List.contains_iff_mem, List.mem_singleton]

/-- A verdict tells of a rule what the check of the rule has found. -/
theorem told?_validate (rule : Rule) : (request.validate caller).told? rule = request.check rule := by
  rw [Verdict.told?]
  cases hfound : (request.validate caller).notices.find? (·.concerns [rule]) with
  | none =>
      rw [Option.map_none, eq_comm, Option.eq_none_iff_forall_ne_some]
      intro finding hcheck
      have hrule := rule_of_check hcheck
      have hmem : finding.notice caller ∈ (request.validate caller).notices :=
        Verdict.mem_notices_ofFindings_iff.mpr
          ⟨finding, mem_findings_iff.mpr (hrule.symm ▸ hcheck), rfl⟩
      exact List.find?_eq_none.mp hfound _ hmem (concerns_singleton_iff.mpr hrule)
  | some notice =>
      obtain ⟨finding, hfinding, rfl⟩ :=
        Verdict.mem_notices_ofFindings_iff.mp (List.mem_of_find?_eq_some hfound)
      have hconcerns := List.find?_some hfound
      obtain rfl : finding.rule = rule := concerns_singleton_iff.mp hconcerns
      exact (mem_findings_iff.mp hfinding).symm

/-- The findings can be read back from the verdict. -/
theorem recovered_validate (request : Request) (caller : Caller) :
    (request.validate caller).recovered = request.findings :=
  List.filterMap_congr fun rule _ => told?_validate rule

/-- The findings of a request are of rules in the order of the catalogue, each rule once. A verdict has
one notice for each finding, no more and no fewer, under the key that the severity for the caller gives;
and the findings can be read back from it, with their parameters and in their order. So two requests of
one caller meet the same verdict exactly if the rules find the same. -/
theorem validate_eq_iff_findings_eq (request : Request) (caller : Caller) :
    let verdict := request.validate caller
    (request.findings.map (·.rule)).Sublist order ∧ (request.findings.map (·.rule)).Nodup ∧
    verdict.errors.length + verdict.warnings.length = request.findings.length ∧
    (verdict.errors ++ verdict.warnings).Perm (request.findings.map (·.notice caller)) ∧
    verdict.recovered = request.findings ∧
    ∀ other : Request, verdict = other.validate caller ↔ request.findings = other.findings := by
  intro verdict
  refine ⟨?_, nodup_rules_findings request, ?_, Verdict.notices_perm request.findings caller,
    recovered_validate request caller, fun other => ⟨fun h => ?_, fun h => ?_⟩⟩
  · rw [rules_findings]
    exact List.filter_sublist
  · rw [← List.length_append]
    exact length_notices request caller
  · calc request.findings
        = verdict.recovered := (recovered_validate request caller).symm
      _ = (other.validate caller).recovered := by rw [h]
      _ = other.findings := recovered_validate other caller
  · exact congrArg (Verdict.ofFindings · caller) h

end Request

end Allotment
