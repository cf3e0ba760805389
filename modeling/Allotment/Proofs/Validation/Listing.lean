import Allotment.Proofs.Native.Coverage
import Allotment.Proofs.Validation.Quantities

/-!
# What a listing tells

A listing validates one unit of each pool, for somebody who lists pools. Nothing is hidden that
could be had in some other quantity or by some other caller, and what is shown without a warning
that would block somebody else can be had (`listing_agrees`).
-/

namespace Allotment

namespace Severity

/-- What blocks those who list pools blocks everybody. -/
theorem classify_eq_error_of_listPools {rule : Rule} (h : classify rule .listPools = error)
    (caller : Caller) : classify rule caller = error := by
  revert h
  cases rule <;> cases caller <;> decide

/-- Findings about sockets and architectures block nobody. -/
theorem ne_advisory_of_error {rule : Rule} {caller : Caller} (h : classify rule caller = error) :
    rule ≠ .socketCoverage ∧ rule ≠ .architectureMismatch := by
  constructor <;> rintro rfl <;> cases h

end Severity

namespace Request

variable {consumer : Consumer} {pool : Pool} {quantity other : UInt32}

/-- Of the rules that block those who list pools only one reads the quantity, and a smaller
quantity passes it where a greater one does. -/
theorem check_eq_none_of_le {rule : Rule} (hrule : Severity.classify rule .listPools = .error)
    (hle : quantity ≤ other) (h : check ⟨consumer, pool, other⟩ rule = none) :
    check ⟨consumer, pool, quantity⟩ rule = none := by
  by_cases hcounting : rule ∈ Rule.counting
  · obtain rfl : rule = .quantityAvailable := by
      revert hrule hcounting
      cases rule <;> decide
    exact checkQuantity_eq_none_of_le hle h
  · rw [check_eq_of_not_counting hcounting]
    exact h

/-- If any quantity can be had by anybody, a smaller one is listed. -/
theorem isSuccessful_listPools_of_le {caller : Caller} (hle : quantity ≤ other)
    (h : (validate ⟨consumer, pool, other⟩ caller).isSuccessful = true) :
    (validate ⟨consumer, pool, quantity⟩ .listPools).isSuccessful = true := by
  rw [isSuccessful_validate_iff] at h ⊢
  intro rule hrule
  exact check_eq_none_of_le hrule hle
    (h rule (Severity.classify_eq_error_of_listPools hrule caller))

/-- Two of the warnings that a listing may have do not matter to anybody. -/
theorem isSuccessful_of_listPools {request : Request}
    (hlisted : (request.validate .listPools).isSuccessful = true)
    (hwarnings : ∀ warning ∈ (request.validate .listPools).warnings,
      warning.key = Rule.socketCoverage.resourceKey Severity.warning.leader ∨
        warning.key = Rule.architectureMismatch.resourceKey Severity.warning.leader)
    (caller : Caller) : (request.validate caller).isSuccessful = true := by
  rw [isSuccessful_validate_iff] at hlisted ⊢
  intro rule hrule
  cases hseverity : Severity.classify rule .listPools with
  | error => exact hlisted rule hseverity
  | warning =>
      cases hcheck : request.check rule with
      | none => rfl
      | some finding =>
          have hwarning : _ ∈ (request.validate .listPools).warnings :=
            mem_noticesOf_iff.mpr ⟨rule, finding, hcheck, hseverity, rfl⟩
          obtain ⟨hsockets, harchitecture⟩ := Severity.ne_advisory_of_error hrule
          rcases hwarnings _ hwarning with hkey | hkey
          · exact absurd (rule_eq_of_resourceKey hkey) hsockets
          · exact absurd (rule_eq_of_resourceKey hkey) harchitecture

end Request

namespace Validation

theorem mem_listing_iff {consumer : Consumer} {pools : List Pool} {showAll : Bool} {pool : Pool}
    {verdict : Verdict} :
    (pool, verdict) ∈ listing consumer pools showAll ↔
      pool ∈ pools ∧ verdict = Request.validate ⟨consumer, pool, 1⟩ .listPools ∧
        (showAll = true ∨ verdict.isSuccessful = true) := by
  rw [listing, List.mem_filter, List.mem_map, Bool.or_eq_true]
  constructor
  · rintro ⟨⟨listed, hlisted, heq⟩, hshown⟩
    cases heq
    exact ⟨hlisted, rfl, hshown⟩
  · rintro ⟨hpool, rfl, hshown⟩
    exact ⟨⟨pool, hpool, rfl⟩, hshown⟩

/-- The full listing pairs each pool with the verdict on one unit of it, and the other one is made
of its successful entries. A pool that is not shown cannot be had by anybody in any quantity; a
pool that is shown, with no warnings but of its sockets and its architecture, can be had by
everybody, one unit at least. -/
theorem listing_agrees (consumer : Consumer) (pools : List Pool) :
    let verdict := fun (pool : Pool) (quantity : UInt32) =>
      Request.validate ⟨consumer, pool, quantity⟩
    listing consumer pools true = pools.map (fun pool => (pool, verdict pool 1 .listPools)) ∧
    listing consumer pools false =
      (listing consumer pools true).filter (fun entry => entry.2.isSuccessful) ∧
    (∀ pool ∈ pools, pool ∉ (listing consumer pools false).map Prod.fst →
      ∀ quantity, 1 ≤ quantity → ∀ caller,
        (verdict pool quantity caller).isSuccessful = false) ∧
    (∀ entry ∈ listing consumer pools false,
      (∀ warning ∈ entry.2.warnings,
        warning.key = "rulewarning.unsupported.number.of.sockets" ∨
          warning.key = "rulewarning.architecture.mismatch") →
      ∀ caller, (verdict entry.1 1 caller).isSuccessful = true) := by
  intro verdict
  have hall : listing consumer pools true =
      pools.map fun pool => (pool, verdict pool 1 .listPools) :=
    List.filter_eq_self.mpr fun _ _ => rfl
  refine ⟨hall, ?_, ?_, ?_⟩
  · rw [hall]
    rfl
  · intro pool hpool hhidden quantity hquantity caller
    rw [← Bool.not_eq_true]
    intro hsuccess
    have hlisted := Request.isSuccessful_listPools_of_le hquantity hsuccess
    have hentry : (pool, verdict pool 1 .listPools) ∈ listing consumer pools false :=
      mem_listing_iff.mpr ⟨hpool, rfl, .inr hlisted⟩
    exact hhidden (List.mem_map_of_mem hentry)
  · rintro ⟨pool, listed⟩ hentry hwarnings caller
    obtain ⟨-, rfl, hshown⟩ := mem_listing_iff.mp hentry
    exact Request.isSuccessful_of_listPools (hshown.resolve_left Bool.false_ne_true) hwarnings
      caller

/-- A machine with eight sockets that is no guest. -/
def eightSockets : Consumer :=
  ⟨"c", .system, .ofList [(Fact.cpuSockets, "8")], .empty, none⟩

/-- A pool for guests, without limit. -/
def guestsOnly : Pool :=
  { Native.yearly "guests" (-1) ["web"] with
    attributes := .ofList [(Attribute.virtOnly, "true")] }

/-- A pool for machines with two sockets. -/
def twoSockets : Pool :=
  { Native.yearly "small" 5 ["web"] with
    productAttributes := .ofList [(Attribute.sockets, "2")] }

theorem listing_agrees_guests_and_sockets :
    guestsOnly ∉ (listing eightSockets [guestsOnly, twoSockets] false).map Prod.fst ∧
      (Request.validate ⟨eightSockets, guestsOnly, 7⟩ .bestPools).isSuccessful = false ∧
      (Request.validate ⟨eightSockets, twoSockets, 1⟩ .listPools).hasWarnings = true ∧
      (Request.validate ⟨eightSockets, twoSockets, 1⟩ .bind).isSuccessful = true := by
  have hhidden : guestsOnly ∉
      (listing eightSockets [guestsOnly, twoSockets] false).map Prod.fst := by decide
  obtain ⟨-, -, hrefused, hgranted⟩ := listing_agrees eightSockets [guestsOnly, twoSockets]
  refine ⟨hhidden, ?_, ?_, ?_⟩
  · exact hrefused guestsOnly (by decide) hhidden 7 (by decide) .bestPools
  · decide
  · exact hgranted (twoSockets, Request.validate ⟨eightSockets, twoSockets, 1⟩ .listPools)
      (by decide) (by decide) .bind

end Validation

end Allotment
