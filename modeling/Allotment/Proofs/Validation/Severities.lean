import Allotment.Proofs.Validation.Findings
import Mathlib.Data.List.Forall2

/-!
# What the caller changes

A verdict parts the findings of a request, and who asks decides only how it parts them. Those who
list pools are shown as warnings what five rules would otherwise block with; every other notice
stays where it is, and no notice is lost, doubled or moved past another one
(`validate_by_caller`).
-/

namespace Allotment

namespace Rule

/-- The rules whose findings warn who lists pools and block everybody else: the four that ask for
a capability, and the one that asks for multiples. -/
def lenient : List Rule :=
  [.coresCapability, .ramCapability, .instanceCapability, .derivedProductCapability,
   .instanceQuantityMismatch]

end Rule

namespace Severity

theorem classify_eq_bind {caller : Caller} (h : caller ≠ .listPools) (rule : Rule) :
    classify rule caller = classify rule .bind := by
  cases caller with
  | listPools => exact absurd rfl h
  | bind => rfl
  | bestPools => cases rule <;> rfl
  | unknown => cases rule <;> rfl

theorem classify_bind_of_lenient {rule : Rule} (h : rule ∈ Rule.lenient) :
    classify rule .bind = error := by
  revert h
  cases rule <;> decide

theorem classify_listPools_of_lenient {rule : Rule} (h : rule ∈ Rule.lenient) :
    classify rule .listPools = warning := by
  revert h
  cases rule <;> decide

/-- Of the other rules the severity is the same for everybody. -/
theorem classify_of_not_lenient {rule : Rule} (h : rule ∉ Rule.lenient) (caller other : Caller) :
    classify rule caller = classify rule other := by
  revert h
  cases rule <;> cases caller <;> cases other <;> decide

end Severity

/-! ## Notices of some rules -/

namespace Notice

/-- The key is that of one of the rules, whichever word leads it. -/
def concerns (notice : Notice) (rules : List Rule) : Bool :=
  rules.any fun rule =>
    notice.key == rule.resourceKey Severity.error.leader ||
      notice.key == rule.resourceKey Severity.warning.leader

/-- The second notice is the first one with the word for a warning in place of that for an error:
the rest of the key and the parameters are the same. -/
def Softened (blocking warning : Notice) : Prop :=
  blocking.params = warning.params ∧
    ∃ stem, blocking.key = Severity.error.leader ++ "." ++ stem ∧
      warning.key = Severity.warning.leader ++ "." ++ stem

end Notice

namespace Finding

/-- A notice concerns the rule of its finding and no other. -/
theorem concerns_notice (finding : Finding) (caller : Caller) (rules : List Rule) :
    (finding.notice caller).concerns rules = rules.contains finding.rule := by
  rw [Bool.eq_iff_iff, Notice.concerns, List.any_eq_true, List.contains_iff_mem]
  constructor
  · rintro ⟨rule, hrule, hkey⟩
    rw [Bool.or_eq_true, beq_iff_eq, beq_iff_eq] at hkey
    rcases hkey with hkey | hkey <;> exact rule_eq_of_resourceKey hkey ▸ hrule
  · intro hrule
    refine ⟨finding.rule, hrule, ?_⟩
    cases hseverity : finding.severity caller <;> simp [Finding.notice, hseverity]

theorem softened_notice {finding : Finding} (h : finding.rule ∈ Rule.lenient) :
    (finding.notice .bind).Softened (finding.notice .listPools) := by
  obtain ⟨stem, hstem⟩ : ∃ stem, finding.rule.keyStem? = some stem := by
    revert h
    cases finding.rule <;> simp [Rule.lenient, Rule.keyStem?]
  refine ⟨rfl, stem, ?_, ?_⟩
  · simp [Finding.notice, Finding.severity, Severity.classify_bind_of_lenient h,
      Rule.resourceKey, hstem]
  · simp [Finding.notice, Finding.severity, Severity.classify_listPools_of_lenient h,
      Rule.resourceKey, hstem]

end Finding

/-! ## Verdicts -/

namespace Verdict

theorem ofFindings_eq_bind (findings : List Finding) {caller : Caller} (h : caller ≠ .listPools) :
    ofFindings findings caller = ofFindings findings .bind := by
  simp only [ofFindings, Finding.notice, Finding.severity, Severity.classify_eq_bind h]

/-- A choice among the notices that looks at their rules is a choice among the findings. -/
theorem filter_noticesOf (p : Notice → Bool) (q : Rule → Bool) {caller : Caller}
    (h : ∀ finding : Finding, p (finding.notice caller) = q finding.rule)
    (findings : List Finding) (severity : Severity) :
    ((ofFindings findings caller).noticesOf severity).filter p =
      (findings.filter fun f => q f.rule && f.severity caller == severity).map
        (·.notice caller) := by
  rw [noticesOf_ofFindings, List.filter_map, List.filter_filter]
  simp only [Function.comp_apply, h]

variable (findings : List Finding) {caller : Caller} {severity : Severity}

/-- Where the lenient rules have one severity, all that they found is among its notices. -/
theorem filter_concerns (h : ∀ rule ∈ Rule.lenient, Severity.classify rule caller = severity) :
    ((ofFindings findings caller).noticesOf severity).filter (·.concerns Rule.lenient) =
      (findings.filter fun f => Rule.lenient.contains f.rule).map (·.notice caller) := by
  rw [filter_noticesOf _ Rule.lenient.contains fun f => f.concerns_notice caller Rule.lenient]
  congr 1
  refine List.filter_congr fun f _ => ?_
  cases hlenient : Rule.lenient.contains f.rule with
  | false => rfl
  | true => simp [Finding.severity, h _ (List.contains_iff_mem.mp hlenient)]

/-- Where the lenient rules have another severity, none of its notices is theirs. -/
theorem filter_not_concerns_eq_self
    (h : ∀ rule ∈ Rule.lenient, Severity.classify rule caller ≠ severity) :
    ((ofFindings findings caller).noticesOf severity).filter (!·.concerns Rule.lenient) =
      (ofFindings findings caller).noticesOf severity := by
  rw [List.filter_eq_self, noticesOf_ofFindings]
  intro notice hnotice
  obtain ⟨f, hf, rfl⟩ := List.mem_map.mp hnotice
  have hseverity : f.severity caller = severity := beq_iff_eq.mp (List.mem_filter.mp hf).2
  rw [f.concerns_notice, Bool.not_eq_true', ← Bool.not_eq_true, List.contains_iff_mem]
  exact fun hlenient => h _ hlenient hseverity

/-- What the other rules found reads the same whoever asks. -/
theorem filter_not_concerns_eq (caller other : Caller) (severity : Severity) :
    ((ofFindings findings caller).noticesOf severity).filter (!·.concerns Rule.lenient) =
      ((ofFindings findings other).noticesOf severity).filter (!·.concerns Rule.lenient) := by
  have hchoice (asking : Caller) (f : Finding) :
      (!(f.notice asking).concerns Rule.lenient) = !Rule.lenient.contains f.rule := by
    rw [f.concerns_notice]
  rw [filter_noticesOf _ (!Rule.lenient.contains ·) (hchoice caller),
    filter_noticesOf _ (!Rule.lenient.contains ·) (hchoice other)]
  have hsame (f : Finding) (hf : (!Rule.lenient.contains f.rule) = true) :
      f.severity caller = f.severity other := by
    rw [Bool.not_eq_true', ← Bool.not_eq_true, List.contains_iff_mem] at hf
    exact Severity.classify_of_not_lenient hf caller other
  have hfindings : (findings.filter fun f =>
        !Rule.lenient.contains f.rule && f.severity caller == severity) =
      findings.filter fun f => !Rule.lenient.contains f.rule && f.severity other == severity := by
    refine List.filter_congr fun f _ => ?_
    cases hf : !Rule.lenient.contains f.rule with
    | false => rfl
    | true => rw [hsame f hf]
  rw [hfindings]
  refine List.map_congr_left fun f hf => ?_
  have hf := (Bool.and_eq_true_iff.mp (List.mem_filter.mp hf).2).1
  rw [Finding.notice, Finding.notice, hsame f hf]

end Verdict

/-- Who asks changes nothing but severities, and only for those who list pools. To them the
notices of the five lenient rules are warnings and to everybody else errors, with the same
parameters and under keys that differ in the leading word alone; they stand in the same order on
either side, and without them both verdicts are the same. Within each severity the notices stand
in the order of the catalogue, no key twice, and nobody is told of more findings than others. -/
theorem Request.validate_by_caller (request : Request) :
    let bound := request.validate .bind
    let listed := request.validate .listPools
    request.validate .bestPools = bound ∧ request.validate .unknown = bound ∧
    listed.errors.Sublist bound.errors ∧ bound.warnings.Sublist listed.warnings ∧
    bound.errors.filter (!·.concerns Rule.lenient) = listed.errors ∧
    listed.warnings.filter (!·.concerns Rule.lenient) = bound.warnings ∧
    List.Forall₂ Notice.Softened (bound.errors.filter (·.concerns Rule.lenient))
      (listed.warnings.filter (·.concerns Rule.lenient)) ∧
    (∀ caller severity, (((request.validate caller).noticesOf severity).map (·.key)).Sublist
      (Request.order.map (·.resourceKey severity.leader))) ∧
    (∀ caller, ((request.validate caller).notices.map (·.key)).Nodup ∧
      (request.validate caller).notices.length = bound.notices.length) ∧
    (bound.isSuccessful = true → listed.isSuccessful = true) := by
  intro bound listed
  have herrors : bound.errors.filter (!·.concerns Rule.lenient) = listed.errors :=
    (Verdict.filter_not_concerns_eq request.findings .bind .listPools .error).trans
      (Verdict.filter_not_concerns_eq_self _ (by decide))
  have hwarnings : listed.warnings.filter (!·.concerns Rule.lenient) = bound.warnings :=
    (Verdict.filter_not_concerns_eq request.findings .listPools .bind .warning).trans
      (Verdict.filter_not_concerns_eq_self _ (by decide))
  have hfewer : listed.errors.Sublist bound.errors := herrors ▸ List.filter_sublist
  refine ⟨Verdict.ofFindings_eq_bind _ (by decide), Verdict.ofFindings_eq_bind _ (by decide),
    hfewer, hwarnings ▸ List.filter_sublist, herrors, hwarnings, ?_, ?_, ?_, ?_⟩
  · have hbound : bound.errors.filter (·.concerns Rule.lenient) = _ :=
      Verdict.filter_concerns request.findings fun _ => Severity.classify_bind_of_lenient
    have hlisted : listed.warnings.filter (·.concerns Rule.lenient) = _ :=
      Verdict.filter_concerns request.findings fun _ => Severity.classify_listPools_of_lenient
    rw [hbound, hlisted, List.forall₂_map_left_iff, List.forall₂_map_right_iff,
      List.forall₂_same]
    intro f hf
    exact Finding.softened_notice (List.contains_iff_mem.mp (List.mem_filter.mp hf).2)
  · exact request.keys_noticesOf_sublist
  · intro caller
    rw [request.length_notices caller, request.length_notices .bind]
    exact ⟨request.nodup_keys_notices caller, rfl⟩
  · intro hbound
    rw [Verdict.isSuccessful, List.isEmpty_iff] at hbound ⊢
    rw [hbound] at hfewer
    exact List.sublist_nil.mp hfewer

end Allotment
