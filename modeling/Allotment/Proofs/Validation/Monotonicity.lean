import Allotment.Proofs.Native.Coverage
import Allotment.Proofs.Validation.Quantities
import Allotment.Proofs.Validation.Severities

/-!
# Smaller and greater quantities

Of two requests that differ in the quantity alone, the one for more is at least as likely to be more
than what is left and at least as likely to cover the sockets of the consumer. Multiples are the only
rule that can stand against a smaller quantity where a greater one is granted (`validate_of_le`).
-/

namespace Allotment

/-- The number whose multiples are asked for, where the product asks for such. -/
def Pool.multiplier? (pool : Pool) : Option Nat :=
  (pool.productAttribute? Attribute.instanceMultiplier).bind readPositive?

namespace Request

variable {request : Request} {consumer : Consumer} {pool : Pool} {quantity greater : UInt32}

/-! ## The three rules that read the quantity -/

/-- More units cover more sockets, or as many. -/
theorem coveredSockets_mono (hle : quantity ≤ greater) (sockets : Nat) :
    coveredSockets ⟨consumer, pool, quantity⟩ sockets ≤
      coveredSockets ⟨consumer, pool, greater⟩ sockets := by
  have hmul : sockets * quantity.toNat ≤ sockets * greater.toNat :=
    Nat.mul_le_mul_left _ (UInt32.le_iff_toNat_le.mp hle)
  unfold coveredSockets
  cases pool.stackingId? with
  | none => exact Nat.le_refl _
  | some _ =>
      dsimp only
      omega

/-- Where the sockets are covered, any greater quantity covers them. -/
theorem checkSockets_eq_none_of_le (hle : quantity ≤ greater)
    (h : checkSockets ⟨consumer, pool, quantity⟩ = none) :
    checkSockets ⟨consumer, pool, greater⟩ = none := by
  rw [checkSockets_eq_none_iff] at h ⊢
  refine h.imp_right fun hcovered sockets present hsockets hpresent => ?_
  exact Nat.le_trans (hcovered sockets present hsockets hpresent) (coveredSockets_mono hle sockets)

theorem checkInstanceQuantity_eq_none_iff :
    request.checkInstanceQuantity = none ↔
      (request.consumer.isManifest || request.consumer.isGuest) = true ∨
        ∀ multiplier, request.pool.multiplier? = some multiplier →
          multiplier ∣ request.quantity.toNat := by
  unfold checkInstanceQuantity
  rw [← Pool.multiplier?]
  cases request.consumer.isManifest || request.consumer.isGuest with
  | true => simp
  | false =>
      cases request.pool.multiplier? with
      | none => simp
      | some multiplier => simp [Nat.dvd_iff_mod_eq_zero]

/-- A sum of two multiples is a multiple. -/
theorem checkInstanceQuantity_add_eq_none {other : UInt32}
    (hsum : quantity.toNat + other.toNat < UInt32.size)
    (h : checkInstanceQuantity ⟨consumer, pool, quantity⟩ = none)
    (hother : checkInstanceQuantity ⟨consumer, pool, other⟩ = none) :
    checkInstanceQuantity ⟨consumer, pool, quantity + other⟩ = none := by
  have htoNat : (quantity + other).toNat = quantity.toNat + other.toNat := by
    rw [UInt32.toNat_add, Nat.mod_eq_of_lt hsum]
  rw [checkInstanceQuantity_eq_none_iff] at h hother ⊢
  rcases h with hexempt | hmultiple
  · exact .inl hexempt
  · refine hother.imp_right fun hmultiple' multiplier hmultiplier => ?_
    dsimp only
    rw [htoNat]
    exact Nat.dvd_add (hmultiple multiplier hmultiplier) (hmultiple' multiplier hmultiplier)

/-! ## The other rules -/

/-- Without the three rules, the findings of two quantities are the same. -/
theorem filter_findings_eq (consumer : Consumer) (pool : Pool) (quantity other : UInt32)
    (p : Finding → Bool) :
    ((findings ⟨consumer, pool, quantity⟩).filter fun f =>
        !Rule.counting.contains f.rule && p f) =
      (findings ⟨consumer, pool, other⟩).filter fun f =>
        !Rule.counting.contains f.rule && p f := by
  rw [findings_eq, findings_eq, List.filter_filterMap, List.filter_filterMap]
  refine List.filterMap_congr fun rule _ => ?_
  by_cases hcounting : rule ∈ Rule.counting
  · have hnone (quantity : UInt32) : ((check ⟨consumer, pool, quantity⟩ rule).filter fun f =>
        !Rule.counting.contains f.rule && p f) = none := by
      rw [Option.filter_eq_none_iff]
      intro finding hfinding
      rw [rule_of_check hfinding]
      simp [hcounting]
    rw [hnone, hnone]
  · rw [check_eq_of_not_counting hcounting]

theorem filter_noticesOf_eq (consumer : Consumer) (pool : Pool) (quantity other : UInt32)
    (caller : Caller) (severity : Severity) :
    ((validate ⟨consumer, pool, quantity⟩ caller).noticesOf severity).filter
        (!·.concerns Rule.counting) =
      ((validate ⟨consumer, pool, other⟩ caller).noticesOf severity).filter
        (!·.concerns Rule.counting) := by
  have hchoice (f : Finding) :
      (!(f.notice caller).concerns Rule.counting) = !Rule.counting.contains f.rule := by
    rw [f.concerns_notice]
  rw [validate, validate, Verdict.filter_noticesOf _ (!Rule.counting.contains ·) hchoice,
    Verdict.filter_noticesOf _ (!Rule.counting.contains ·) hchoice,
    filter_findings_eq consumer pool quantity other]

/-! ## Verdicts -/

/-- Where a greater quantity is granted, only the rule on multiples can stand against a smaller
one. -/
theorem rule_of_refused (hle : quantity ≤ greater) {caller : Caller}
    (hgranted : (validate ⟨consumer, pool, greater⟩ caller).isSuccessful = true) {rule : Rule}
    {finding : Finding} (hfinding : check ⟨consumer, pool, quantity⟩ rule = some finding)
    (hseverity : Severity.classify rule caller = .error) : rule = .instanceQuantityMismatch := by
  have hfree : check ⟨consumer, pool, greater⟩ rule = none :=
    isSuccessful_validate_iff.mp hgranted rule hseverity
  by_cases hcounting : rule ∈ Rule.counting
  · cases rule with
    | instanceQuantityMismatch => rfl
    | quantityAvailable =>
        have hnone : check ⟨consumer, pool, quantity⟩ .quantityAvailable = none :=
          checkQuantity_eq_none_of_le hle hfree
        rw [hnone] at hfinding
        cases hfinding
    -- Too few sockets are no more than a warning.
    | socketCoverage => cases hseverity
    | _ => exact absurd hcounting (by decide)
  · rw [check_eq_of_not_counting hcounting consumer pool quantity greater, hfree] at hfinding
    cases hfinding

/-- Let two requests differ in the quantity alone. If the smaller one is more than what is left, so
is the greater one; if the greater one does not cover the sockets, neither does the smaller one. All
other rules but that on multiples report the same, with the same keys and parameters in the same
order. If both quantities are multiples of what is asked for, so is their sum. And if the greater one
is granted, nothing but the rule on multiples can stand against the smaller one. -/
theorem validate_of_le (consumer : Consumer) (pool : Pool) (caller : Caller)
    {quantity greater : UInt32} (hle : quantity ≤ greater) :
    let less := validate ⟨consumer, pool, quantity⟩ caller
    let more := validate ⟨consumer, pool, greater⟩ caller
    (less.Reports .quantityAvailable → more.Reports .quantityAvailable) ∧
    (more.Reports .socketCoverage → less.Reports .socketCoverage) ∧
    (∀ severity, (less.noticesOf severity).filter (!·.concerns Rule.counting) =
      (more.noticesOf severity).filter (!·.concerns Rule.counting)) ∧
    (quantity.toNat + greater.toNat < UInt32.size →
      ¬ less.Reports .instanceQuantityMismatch → ¬ more.Reports .instanceQuantityMismatch →
      ¬ (validate ⟨consumer, pool, quantity + greater⟩ caller).Reports
        .instanceQuantityMismatch) ∧
    (more.isSuccessful = true →
      ∀ notice ∈ less.errors, notice.key = "rulefailed.quantity.mismatch") := by
  intro less more
  refine ⟨?_, ?_, filter_noticesOf_eq consumer pool quantity greater caller, ?_, ?_⟩
  · rw [reports_iff, reports_iff]
    exact mt (checkQuantity_eq_none_of_le hle)
  · rw [reports_iff, reports_iff]
    exact mt (checkSockets_eq_none_of_le hle)
  · rw [reports_iff, reports_iff, reports_iff, not_not, not_not, not_not]
    exact checkInstanceQuantity_add_eq_none
  · intro hgranted notice hnotice
    obtain ⟨rule, finding, hfinding, hseverity, rfl⟩ := mem_noticesOf_iff.mp
      (show notice ∈ less.noticesOf .error from hnotice)
    rw [rule_of_refused hle hgranted hfinding hseverity]
    rfl

/-- Two sockets for each unit, and units by the three. -/
def threefold : Pool :=
  { Native.yearly "threefold" 5 ["web"] with
    productAttributes := .ofList [(Attribute.sockets, "2"), (Attribute.stackingId, "stack"),
      (Attribute.instanceMultiplier, "3")] }

/-- A machine with eight sockets that knows of multiples. -/
def eightfold : Consumer :=
  ⟨"c", .system, .ofList [(Fact.cpuSockets, "8")], .ofList [Capability.instanceMultiplier], none⟩

/-- Three units are granted, though they do not cover all sockets. Two units do not either, and they
are refused for not being a multiple. -/
theorem validate_of_le_threefold :
    let less := validate ⟨eightfold, threefold, 2⟩ .bind
    let more := validate ⟨eightfold, threefold, 3⟩ .bind
    (2 : UInt32) ≤ 3 ∧ more.isSuccessful = true ∧ more.Reports .socketCoverage ∧
      less.Reports .socketCoverage ∧ less.isSuccessful = false ∧
      ∀ notice ∈ less.errors, notice.key = "rulefailed.quantity.mismatch" := by
  intro less more
  have hle : (2 : UInt32) ≤ 3 := by decide
  have hgranted : more.isSuccessful = true := by decide
  have hsockets : more.Reports .socketCoverage := reports_iff.mpr (by decide)
  obtain ⟨-, huncovered, -, -, hrefused⟩ := validate_of_le eightfold threefold .bind hle
  exact ⟨hle, hgranted, hsockets, huncovered hsockets, by decide, hrefused hgranted⟩

end Request

end Allotment
