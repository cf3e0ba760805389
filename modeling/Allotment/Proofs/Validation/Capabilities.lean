import Allotment.Proofs.Native.Coverage
import Allotment.Proofs.Validation.Severities

/-!
# Declaring capabilities

Four rules ask whether the consumer declares a capability, and each of them finds something only
where it does not. So whatever a consumer declares in addition, its verdict loses the notices of the
rules that ask for one of the names added, and nothing else changes (`validate_declaring`).
-/

namespace Allotment

namespace Rule

/-- The capability that the rule asks for, where it asks for one. -/
def capability? : Rule → Option String
  | coresCapability => some Capability.cores
  | ramCapability => some Capability.ram
  | instanceCapability => some Capability.instanceMultiplier
  | derivedProductCapability => some Capability.derivedProduct
  | _ => none

/-- The rules that are content once these capabilities are declared. -/
def settledBy (names : List String) : List Rule :=
  all.filter fun rule => rule.capability?.any names.contains

theorem mem_settledBy_iff {rule : Rule} {names : List String} :
    rule ∈ settledBy names ↔ ∃ name ∈ names, rule.capability? = some name := by
  have hall : rule ∈ all := by cases rule <;> decide
  rw [settledBy, List.mem_filter, Option.any_eq_true]
  simp [hall, and_comm]

end Rule

namespace Consumer

/-- The consumer with these capabilities beside its own. -/
def declaring (consumer : Consumer) (names : List String) : Consumer :=
  { consumer with capabilities := .ofList (consumer.capabilities.toList ++ names) }

theorem hasCapability_declaring (consumer : Consumer) (names : List String) (name : String) :
    (consumer.declaring names).hasCapability name =
      (consumer.hasCapability name || names.contains name) := by
  rw [Bool.eq_iff_iff, Bool.or_eq_true, List.contains_iff_mem, hasCapability, hasCapability,
    NameSet.contains_iff_mem, NameSet.contains_iff_mem, declaring, NameSet.mem_toList_ofList,
    List.mem_append]

end Consumer

/-- The product of the pool makes the rule ask for its capability. -/
def Pool.calls (pool : Pool) : Rule → Bool
  | .coresCapability => (pool.productAttribute? Attribute.cores).isSome
  | .ramCapability => (pool.productAttribute? Attribute.ram).isSome
  | .instanceCapability => (pool.productAttribute? Attribute.instanceMultiplier).isSome
  | .derivedProductCapability => pool.hasDerivedProduct
  | _ => false

namespace Request

/-- What the four rules have in common. -/
theorem check_of_capability? {rule : Rule} {name : String} (h : rule.capability? = some name)
    (request : Request) :
    request.check rule =
      if request.pool.calls rule && !request.consumer.hasCapability name then
        some (rule.against request.pool)
      else none := by
  cases rule <;> cases h <;> rfl

/-- Within one severity a notice concerns rules if it bears the key that one of them has there. -/
theorem concerns_iff_of_mem {request : Request} {caller : Caller} {severity : Severity}
    {notice : Notice} (h : notice ∈ (request.validate caller).noticesOf severity)
    {rules : List Rule} :
    notice.concerns rules = true ↔
      ∃ rule ∈ rules, notice.key = rule.resourceKey severity.leader := by
  obtain ⟨own, finding, -, -, rfl⟩ := mem_noticesOf_iff.mp h
  rw [Notice.concerns, List.any_eq_true]
  simp only [Bool.or_eq_true, beq_iff_eq]
  refine exists_congr fun rule => and_congr_right fun _ => ⟨?_, fun hkey => ?_⟩
  · rintro (hkey | hkey) <;> rw [rule_eq_of_resourceKey hkey]
  · cases severity with
    | error => exact .inl hkey
    | warning => exact .inr hkey

variable (consumer : Consumer) (names : List String) (pool : Pool) (quantity : UInt32)

theorem check_declaring (rule : Rule) :
    check ⟨consumer.declaring names, pool, quantity⟩ rule =
      if rule ∈ Rule.settledBy names then none else check ⟨consumer, pool, quantity⟩ rule := by
  cases hcapability : rule.capability? with
  | none =>
      have hother : rule ∉ Rule.settledBy names := by
        rw [Rule.mem_settledBy_iff, hcapability]
        simp
      rw [if_neg hother]
      cases rule <;> first | rfl | cases hcapability
  | some name =>
      have hsettled : rule ∈ Rule.settledBy names ↔ name ∈ names := by
        rw [Rule.mem_settledBy_iff, hcapability]
        simp
      rw [check_of_capability? hcapability, check_of_capability? hcapability,
        Consumer.hasCapability_declaring]
      by_cases hname : name ∈ names <;> simp [hsettled, hname]

/-- What is found with more capabilities declared is what was found before, without the rules that
asked for them. -/
theorem findings_declaring :
    findings ⟨consumer.declaring names, pool, quantity⟩ =
      (findings ⟨consumer, pool, quantity⟩).filter fun f =>
        !(Rule.settledBy names).contains f.rule := by
  rw [findings_eq, findings_eq, List.filter_filterMap]
  refine List.filterMap_congr fun rule _ => ?_
  rw [check_declaring]
  cases hcheck : check ⟨consumer, pool, quantity⟩ rule with
  | none => simp
  | some finding =>
      rw [Option.filter_some, rule_of_check hcheck]
      by_cases h : rule ∈ Rule.settledBy names <;> simp [h]

theorem noticesOf_declaring (caller : Caller) (severity : Severity) :
    (validate ⟨consumer.declaring names, pool, quantity⟩ caller).noticesOf severity =
      ((validate ⟨consumer, pool, quantity⟩ caller).noticesOf severity).filter
        (!·.concerns (Rule.settledBy names)) := by
  have hchoice (f : Finding) :
      (!(f.notice caller).concerns (Rule.settledBy names)) =
        !(Rule.settledBy names).contains f.rule := by
    rw [f.concerns_notice]
  rw [validate, validate, Verdict.filter_noticesOf _ (!(Rule.settledBy names).contains ·) hchoice,
    Verdict.noticesOf_ofFindings, findings_declaring, List.filter_filter]
  simp only [Bool.and_comm]

/-- Let a consumer declare further capabilities. Then its errors are some of the errors that it had
before, in the same order, and so are its warnings. A notice has gone exactly if its key is that of
a rule which asks for one of the added names, letter by letter. So what was granted before is granted
still. -/
theorem validate_declaring (consumer : Consumer) (names : List String) (pool : Pool)
    (quantity : UInt32) (caller : Caller) :
    let before := validate ⟨consumer, pool, quantity⟩ caller
    let after := validate ⟨consumer.declaring names, pool, quantity⟩ caller
    after.errors.Sublist before.errors ∧ after.warnings.Sublist before.warnings ∧
    (∀ severity, after.noticesOf severity =
      (before.noticesOf severity).filter (!·.concerns (Rule.settledBy names))) ∧
    (∀ severity, ∀ notice ∈ before.noticesOf severity,
      (notice ∉ after.noticesOf severity ↔
        ∃ rule : Rule, (∃ name ∈ names, rule.capability? = some name) ∧
          notice.key = rule.resourceKey severity.leader)) ∧
    (before.isSuccessful = true → after.isSuccessful = true) := by
  intro before after
  have hnotices := noticesOf_declaring consumer names pool quantity caller
  have herrors : after.errors.Sublist before.errors := by
    rw [show after.errors = _ from hnotices .error]
    exact List.filter_sublist
  have hwarnings : after.warnings.Sublist before.warnings := by
    rw [show after.warnings = _ from hnotices .warning]
    exact List.filter_sublist
  refine ⟨herrors, hwarnings, hnotices, fun severity notice hnotice => ?_, fun hgranted => ?_⟩
  · rw [hnotices, List.mem_filter, Bool.not_eq_true', and_iff_right hnotice, Bool.not_eq_false,
      concerns_iff_of_mem hnotice]
    simp only [Rule.mem_settledBy_iff]
  · rw [Verdict.isSuccessful, List.isEmpty_iff] at hgranted ⊢
    rw [hgranted] at herrors
    exact List.sublist_nil.mp herrors

/-- A system that declares nothing. -/
def incapable : Consumer := ⟨"c", .system, .empty, .empty, none⟩

/-- A pool whose product counts cores and memory. -/
def demanding : Pool :=
  { Native.yearly "demanding" 5 ["web"] with
    productAttributes := .ofList [(Attribute.cores, "8"), (Attribute.ram, "64")] }

/-- The capability in small letters is the one asked for, and the other one is not. Who lists pools
was granted the unit before. -/
theorem validate_declaring_cores :
    let names := ["cores", "Ram"]
    let before := validate ⟨incapable, demanding, 1⟩
    let after := validate ⟨incapable.declaring names, demanding, 1⟩
    before .bind = ⟨[⟨"rulefailed.cores.unsupported.by.consumer", ["demanding"]⟩,
      ⟨"rulefailed.ram.unsupported.by.consumer", ["demanding"]⟩], []⟩ ∧
    (after .bind).errors = [⟨"rulefailed.ram.unsupported.by.consumer", ["demanding"]⟩] ∧
    (before .listPools).isSuccessful = true ∧ (after .listPools).isSuccessful = true := by
  intro names before after
  obtain ⟨-, -, hnotices, -⟩ := validate_declaring incapable names demanding 1 .bind
  obtain ⟨-, -, -, -, hgranted⟩ := validate_declaring incapable names demanding 1 .listPools
  have hlisted : (before .listPools).isSuccessful = true := by decide
  refine ⟨by decide, ?_, hlisted, hgranted hlisted⟩
  have herrors : (after .bind).errors = _ := hnotices .error
  rw [herrors]
  decide

end Request

end Allotment
