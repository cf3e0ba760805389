import Allotment.Validation
import Mathlib.Data.List.Nodup

/-!
# Findings and the notices made of them

Each rule has one check, and what the check finds bears the name of the rule. So the findings of a
request can be asked for one rule at a time (`mem_findings_iff`), and so can the notices of its
verdict (`mem_noticesOf_iff`), since the resource keys of two rules differ whatever their severities
are (`rule_eq_of_resourceKey`). A verdict has one notice for each finding, and the notices of a
severity stand in the order of the catalogue (`notices_perm`, `keys_noticesOf_sublist`).
-/

namespace Allotment

namespace Request

/-- The check that belongs to a rule. -/
def check (request : Request) : Rule → Option Finding
  | .coresCapability => request.checkCores
  | .ramCapability => request.checkRam
  | .instanceCapability => request.checkInstances
  | .derivedProductCapability => request.checkDerivedProduct
  | .manifestVirtRestriction => request.checkManifest
  | .quantityAvailable => request.checkQuantity
  | .socketCoverage => request.checkSockets
  | .architectureMismatch => request.checkArchitecture
  | .virtOnly => request.checkVirtOnly
  | .physicalOnly => request.checkPhysicalOnly
  | .instanceQuantityMismatch => request.checkInstanceQuantity

/-- The rules in the order of the catalogue. -/
def order : List Rule :=
  [.socketCoverage, .coresCapability, .ramCapability, .instanceCapability,
   .derivedProductCapability, .architectureMismatch, .virtOnly, .physicalOnly,
   .instanceQuantityMismatch, .manifestVirtRestriction, .quantityAvailable]

variable {request : Request}

theorem findings_eq : request.findings = order.filterMap request.check := rfl

theorem mem_order (rule : Rule) : rule ∈ order := by
  cases rule <;> decide

theorem eq_of_ite_some {α : Type} {p : Prop} [Decidable p] {a b : α}
    (h : (if p then some a else none) = some b) : a = b := by
  split at h
  · exact Option.some.inj h
  · cases h

/-- What a check finds, it finds for its own rule. -/
theorem rule_of_check {rule : Rule} {finding : Finding} (h : request.check rule = some finding) :
    finding.rule = rule := by
  cases rule with
  | coresCapability => exact eq_of_ite_some h ▸ rfl
  | ramCapability => exact eq_of_ite_some h ▸ rfl
  | instanceCapability => exact eq_of_ite_some h ▸ rfl
  | derivedProductCapability => exact eq_of_ite_some h ▸ rfl
  | manifestVirtRestriction => exact eq_of_ite_some h ▸ rfl
  | virtOnly => exact eq_of_ite_some h ▸ rfl
  | physicalOnly => exact eq_of_ite_some h ▸ rfl
  | quantityAvailable =>
      change request.checkQuantity = some finding at h
      simp only [checkQuantity] at h
      split at h
      · cases h
      · exact eq_of_ite_some h ▸ rfl
  | socketCoverage =>
      change request.checkSockets = some finding at h
      unfold checkSockets at h
      split at h
      · cases h
      · obtain ⟨sockets, -, h⟩ := Option.bind_eq_some_iff.mp h
        obtain ⟨present, -, h⟩ := Option.bind_eq_some_iff.mp h
        exact eq_of_ite_some h ▸ rfl
  | architectureMismatch =>
      change request.checkArchitecture = some finding at h
      unfold checkArchitecture at h
      split at h
      · cases h
      · obtain ⟨supported, -, h⟩ := Option.bind_eq_some_iff.mp h
        obtain ⟨present, -, h⟩ := Option.bind_eq_some_iff.mp h
        dsimp only at h
        split at h
        · cases h
        · cases h
          rfl
  | instanceQuantityMismatch =>
      change request.checkInstanceQuantity = some finding at h
      unfold checkInstanceQuantity at h
      split at h
      · cases h
      · obtain ⟨multiplier, -, h⟩ := Option.bind_eq_some_iff.mp h
        split at h
        · cases h
        · cases h
          rfl

/-- A finding is found exactly if the check of its rule finds it. -/
theorem mem_findings_iff {finding : Finding} :
    finding ∈ request.findings ↔ request.check finding.rule = some finding := by
  rw [findings_eq, List.mem_filterMap]
  constructor
  · rintro ⟨rule, -, h⟩
    rw [rule_of_check h]
    exact h
  · exact fun h => ⟨finding.rule, mem_order _, h⟩

/-- The rules that find something stand in the order of the catalogue, each once. -/
theorem rules_findings (request : Request) :
    request.findings.map (·.rule) = order.filter fun rule => (request.check rule).isSome := by
  rw [findings_eq, List.map_filterMap, ← List.filterMap_eq_filter]
  refine List.filterMap_congr fun rule _ => ?_
  cases hcheck : request.check rule with
  | none => simp [Option.guard, hcheck]
  | some finding => simp [Option.guard, hcheck, rule_of_check hcheck]

theorem nodup_rules_findings (request : Request) : (request.findings.map (·.rule)).Nodup := by
  rw [rules_findings]
  exact List.Nodup.filter _ (by decide)

end Request

/-! ## Notices -/

/-- The key of a notice gives away the rule. All pairs of keys are compared. -/
theorem rule_eq_of_resourceKey {rule other : Rule} {severity severity' : Severity}
    (h : rule.resourceKey severity.leader = other.resourceKey severity'.leader) :
    rule = other := by
  revert h
  cases rule <;> cases other <;> first
    | exact fun _ => rfl
    | (cases severity <;> cases severity' <;> decide)

namespace Verdict

/-- The notices of a severity. -/
def noticesOf (verdict : Verdict) : Severity → List Notice
  | .error => verdict.errors
  | .warning => verdict.warnings

/-- All notices of a verdict, whether they block or not. -/
def notices (verdict : Verdict) : List Notice := verdict.errors ++ verdict.warnings

/-- One of the notices bears the key of the rule, whichever word leads the key. -/
def Reports (verdict : Verdict) (rule : Rule) : Prop :=
  ∃ notice ∈ verdict.notices, ∃ severity : Severity, notice.key = rule.resourceKey severity.leader

theorem noticesOf_ofFindings (findings : List Finding) (caller : Caller) (severity : Severity) :
    (ofFindings findings caller).noticesOf severity =
      (findings.filter fun f => f.severity caller == severity).map (·.notice caller) := by
  cases severity <;> rfl

/-- Every finding makes one notice. -/
theorem notices_perm (findings : List Finding) (caller : Caller) :
    (ofFindings findings caller).notices.Perm (findings.map (·.notice caller)) := by
  have hwarning (f : Finding) :
      (f.severity caller == .warning) = !(f.severity caller == .error) := by
    cases f.severity caller <;> rfl
  rw [notices, ofFindings, ← List.map_append]
  simp only [hwarning]
  exact (List.filter_append_perm _ _).map _

theorem mem_notices_ofFindings_iff {findings : List Finding} {caller : Caller} {notice : Notice} :
    notice ∈ (ofFindings findings caller).notices ↔
      ∃ finding ∈ findings, finding.notice caller = notice := by
  rw [(notices_perm findings caller).mem_iff, List.mem_map]

end Verdict

namespace Request

variable {request : Request}

/-- What a verdict holds: the notices of a severity are of the rules that have this severity for
the caller and find something. -/
theorem mem_noticesOf_iff {caller : Caller} {severity : Severity} {notice : Notice} :
    notice ∈ (request.validate caller).noticesOf severity ↔
      ∃ rule finding, request.check rule = some finding ∧
        Severity.classify rule caller = severity ∧
        notice = ⟨rule.resourceKey severity.leader, finding.params⟩ := by
  rw [validate, Verdict.noticesOf_ofFindings, List.mem_map]
  simp only [List.mem_filter, beq_iff_eq]
  constructor
  · rintro ⟨finding, ⟨hfinding, rfl⟩, rfl⟩
    exact ⟨finding.rule, finding, mem_findings_iff.mp hfinding, rfl, rfl⟩
  · rintro ⟨rule, finding, hcheck, rfl, rfl⟩
    obtain rfl := rule_of_check hcheck
    exact ⟨finding, ⟨mem_findings_iff.mpr hcheck, rfl⟩, rfl⟩

/-- The notices of a severity stand in the order of the catalogue. -/
theorem keys_noticesOf_sublist (request : Request) (caller : Caller) (severity : Severity) :
    (((request.validate caller).noticesOf severity).map (·.key)).Sublist
      (order.map (·.resourceKey severity.leader)) := by
  have hkeys : ((request.validate caller).noticesOf severity).map (·.key) =
      ((request.findings.filter fun f => f.severity caller == severity).map (·.rule)).map
        (·.resourceKey severity.leader) := by
    rw [validate, Verdict.noticesOf_ofFindings, List.map_map, List.map_map]
    refine List.map_congr_left fun f hf => ?_
    have hseverity : f.severity caller = severity := beq_iff_eq.mp (List.mem_filter.mp hf).2
    simp [Finding.notice, hseverity]
  rw [hkeys]
  refine List.Sublist.map _ ((List.filter_sublist.map _).trans ?_)
  rw [rules_findings]
  exact List.filter_sublist

/-- No key stands twice in a verdict. -/
theorem nodup_keys_notices (request : Request) (caller : Caller) :
    ((request.validate caller).notices.map (·.key)).Nodup := by
  have hkeys : (request.findings.map (·.notice caller)).map (·.key) =
      (request.findings.map (·.rule)).map fun rule =>
        rule.resourceKey (Severity.classify rule caller).leader := by
    rw [List.map_map, List.map_map]
    rfl
  rw [validate, ((Verdict.notices_perm request.findings caller).map _).nodup_iff, hkeys]
  exact (nodup_rules_findings request).map fun _ _ => rule_eq_of_resourceKey

theorem length_notices (request : Request) (caller : Caller) :
    (request.validate caller).notices.length = request.findings.length := by
  rw [validate, (Verdict.notices_perm request.findings caller).length_eq, List.length_map]

/-- A request succeeds exactly if no rule that blocks for the caller finds anything. -/
theorem isSuccessful_validate_iff {caller : Caller} :
    (request.validate caller).isSuccessful = true ↔
      ∀ rule, Severity.classify rule caller = .error → request.check rule = none := by
  have herrors : (request.validate caller).isSuccessful = true ↔
      ∀ notice, notice ∉ (request.validate caller).noticesOf .error := by
    rw [Verdict.isSuccessful, List.isEmpty_iff, List.eq_nil_iff_forall_not_mem]
    rfl
  rw [herrors]
  simp only [mem_noticesOf_iff]
  constructor
  · intro h rule hseverity
    cases hcheck : request.check rule with
    | none => rfl
    | some finding => exact absurd ⟨rule, finding, hcheck, hseverity, rfl⟩ (h _)
  · rintro h notice ⟨rule, finding, hcheck, hseverity, -⟩
    rw [h rule hseverity] at hcheck
    cases hcheck

/-- The verdict reports a rule exactly if the check of the rule finds something. -/
theorem reports_iff {rule : Rule} {caller : Caller} :
    (request.validate caller).Reports rule ↔ request.check rule ≠ none := by
  rw [Option.ne_none_iff_exists']
  constructor
  · rintro ⟨notice, hmem, severity, hkey⟩
    obtain ⟨finding, hfinding, rfl⟩ := Verdict.mem_notices_ofFindings_iff.mp hmem
    exact ⟨finding, rule_eq_of_resourceKey hkey ▸ mem_findings_iff.mp hfinding⟩
  · rintro ⟨finding, hfinding⟩
    have hrule := rule_of_check hfinding
    refine ⟨finding.notice caller, Verdict.mem_notices_ofFindings_iff.mpr
      ⟨finding, mem_findings_iff.mpr (hrule.symm ▸ hfinding), rfl⟩, finding.severity caller, ?_⟩
    rw [← hrule]
    rfl

/-- Where the check of a rule finds nothing, no notice bears a key of the rule. -/
theorem key_ne_of_check {rule : Rule} {caller : Caller} (h : request.check rule = none)
    {notice : Notice} (hnotice : notice ∈ (request.validate caller).notices)
    (severity : Severity) : notice.key ≠ rule.resourceKey severity.leader := by
  intro hkey
  exact reports_iff.mp ⟨notice, hnotice, severity, hkey⟩ h

end Request

end Allotment
