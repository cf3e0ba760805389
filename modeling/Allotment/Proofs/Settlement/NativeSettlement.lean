import Allotment.Policy.Native
import Allotment.Proofs.Native.Directives
import Allotment.Proofs.Settlement.Accounting

/-!
# Settlements by the native policy

The native policy computes its directives from views, and the settlement checks them against the
grant itself. They agree on all but one kind of entitlement: of a grant of no units the policy
still makes a bonus pool where the limit is a number, and its quantity is zero, which fits no
grant. Without such an entitlement every settlement by the native policy succeeds
(`settle_native_ok_iff`).
-/

namespace Allotment.Grant

/-- No unit was granted, and the pool would yet bring a bonus pool of a fixed quantity: the
consumer is no manifest, the pool is no bonus itself, and its limit is a number. -/
structure BringsEmptyBonus (consumer : Consumer) (e : Entitlement) : Prop where
  noUnits : e.quantity = 0
  notManifest : consumer.isManifest = false
  notDerived : Native.isDerived (.of e.pool) = false
  counted : ∃ limit, Native.virtLimit? (.of e.pool) = some limit ∧ Native.IsCount limit

variable {g : Grant}

theorem bonusLimit?_eq_some_iff {e : Entitlement} {limit : String} :
    Native.bonusLimit? (.of g.consumer none) (.of e) = some limit ↔
      g.consumer.isManifest = false ∧ Native.isDerived (.of e.pool) = false ∧
        Native.virtLimit? (.of e.pool) = some limit := by
  have hmanifest : (ConsumerView.of g.consumer none).isManifest = g.consumer.isManifest := rfl
  have hpool : (EntitlementView.of e).pool = PoolView.of e.pool := rfl
  rw [Native.bonusLimit?, hmanifest, hpool]
  cases g.consumer.isManifest with
  | true => simp
  | false =>
      cases Native.isDerived (PoolView.of e.pool) with
      | true => simp
      | false => simp

theorem bonusDirective?_of_empty {e : Entitlement} (h : BringsEmptyBonus g.consumer e) :
    Native.bonusDirective? (.of g.consumer none) (.of e) =
      some (.createBonusPool e.pool.id 0) := by
  obtain ⟨limit, hlimit, hcount⟩ := h.counted
  refine Native.bonusDirective?_eq_some_iff.mpr ⟨limit, 0, ?_, ?_, rfl⟩
  · exact bonusLimit?_eq_some_iff.mpr ⟨h.notManifest, h.notDerived, hlimit⟩
  · have hunits : (EntitlementView.of e).quantity = 0 := h.noUnits
    rw [hunits, Native.bonusQuantity?_zero hcount]

theorem usable_of_bonusDirective? {e : Entitlement} {d : Directive}
    (hd : Native.bonusDirective? (.of g.consumer none) (.of e) = some d)
    (hempty : ¬ BringsEmptyBonus g.consumer e) :
    ∃ quantity, d = .createBonusPool e.pool.id quantity ∧
      (0 < quantity.val ∨ quantity.val = -1) := by
  obtain ⟨limit, quantity, hlimit, hquantity, rfl⟩ := Native.bonusDirective?_eq_some_iff.mp hd
  refine ⟨quantity, rfl, ?_⟩
  obtain ⟨hmanifest, hderived, hvirt⟩ := bonusLimit?_eq_some_iff.mp hlimit
  have hgranted : e.quantity ≠ 0 ∨ ¬ Native.IsCount limit := by
    rw [← not_and_or]
    exact fun h => hempty ⟨h.1, hmanifest, hderived, limit, hvirt, h.2⟩
  rw [← unlimited_iff]
  exact Native.pos_of_bonusQuantity? hquantity hgranted

/-! ## The directives and the checks -/

theorem mem_bonusDirectives_iff {d : Directive} :
    d ∈ Native.bonusDirectives g.snapshot ↔
      ∃ e ∈ g.entitlements.values,
        Native.bonusDirective? (.of g.consumer none) (.of e) = some d := by
  rw [Native.bonusDirectives, List.mem_filterMap]
  simp only [snapshot, Table.values_map, List.mem_map, exists_exists_and_eq_and]

theorem fits_of_mem_stackDirectives {d : Directive}
    (h : d ∈ Native.stackDirectives g.snapshot) : g.Fits d := by
  obtain ⟨stackId, view, total, hview, rfl, htotal⟩ := Native.mem_stackDirectives h
  simp only [snapshot, Table.get?_map, Option.map_eq_some_iff] at hview
  obtain ⟨subPool, hsubPool, rfl⟩ := hview
  exact ⟨subPool, hsubPool, rfl, htotal⟩

/-- The two ways that a directive of the native policy can go. -/
theorem fits_or_empty {d : Directive} (h : d ∈ Native.directives g.snapshot) :
    g.Fits d ∨ ∃ e ∈ g.entitlements.values, BringsEmptyBonus g.consumer e ∧
      d = .createBonusPool e.pool.id 0 := by
  rcases List.mem_append.mp h with hbonus | hstack
  · obtain ⟨e, he, hd⟩ := mem_bonusDirectives_iff.mp hbonus
    by_cases hempty : BringsEmptyBonus g.consumer e
    · have hzero := bonusDirective?_of_empty hempty
      rw [hd] at hzero
      exact .inr ⟨e, he, hempty, Option.some.inj hzero⟩
    · obtain ⟨quantity, rfl, hquantity⟩ := usable_of_bonusDirective? hd hempty
      exact .inl ⟨⟨e, he, rfl⟩, hquantity⟩
  · exact .inl (fits_of_mem_stackDirectives hstack)

theorem defect?_empty {e : Entitlement} (he : e ∈ g.entitlements.values) :
    g.defect? (.createBonusPool e.pool.id 0) = some (.unusableQuantity e.pool.id 0) := by
  have hgranted : (g.entitlements.values.any fun other => other.pool.id == e.pool.id) = true :=
    List.any_eq_true.mpr ⟨e, he, beq_self_eq_true _⟩
  have hunusable : (0 : Amount).val ≤ 0 ∧ (0 : Amount) ≠ Pool.unlimited := by decide
  simp only [defect?, hgranted, Bool.not_true, Bool.false_eq_true, if_false]
  rw [if_pos hunusable]

theorem directives_fit_iff :
    (∀ d ∈ Native.directives g.snapshot, g.Fits d) ↔
      ∀ e ∈ g.entitlements.values, ¬ BringsEmptyBonus g.consumer e := by
  constructor
  · intro h e he hempty
    have hmem : Directive.createBonusPool e.pool.id 0 ∈ Native.bonusDirectives g.snapshot :=
      mem_bonusDirectives_iff.mpr ⟨e, he, bonusDirective?_of_empty hempty⟩
    have hfits := defect?_eq_none_iff.mpr (h _ (List.mem_append_left _ hmem))
    rw [defect?_empty he] at hfits
    cases hfits
  · intro h d hd
    rcases fits_or_empty hd with hfits | ⟨e, he, hempty, -⟩
    · exact hfits
    · exact absurd hempty (h e he)

/-- The native policy makes no bonus pools for a manifest, so nothing is left to skip. -/
theorem not_skips_of_mem_directives {d : Directive} (h : d ∈ Native.directives g.snapshot) :
    skips g.consumer d = false := by
  rcases List.mem_append.mp h with hbonus | hstack
  · obtain ⟨e, -, hd⟩ := mem_bonusDirectives_iff.mp hbonus
    obtain ⟨limit, quantity, hlimit, -, rfl⟩ := Native.bonusDirective?_eq_some_iff.mp hd
    exact (bonusLimit?_eq_some_iff.mp hlimit).1
  · obtain ⟨stackId, view, total, -, rfl, -⟩ := Native.mem_stackDirectives hstack
    rfl

/-! ## Settlements -/

section
variable {σ : Type} (settings : NativeSettings) (manager : PoolManager σ) (state : σ)

theorem answer_native (g : Grant) :
    (Native.evaluator settings Operation.postEntitlement (.grant g.snapshot)).outcome =
      .ok (.directives (Native.directives g.snapshot)) := by
  have hother : Operation.postEntitlement ≠ Operation.selectPools := by decide
  rw [Native.evaluator, if_neg hother, if_pos rfl]

theorem result_native_of_fits (h : ∀ d ∈ Native.directives g.snapshot, g.Fits d) :
    ∃ report : SettlementReport,
      (g.settle (Native.evaluator settings) manager state).result = .ok report ∧
        report.policyConfigured = true ∧ report.skipped = [] := by
  have hcourse := course manager g.consumer state (Native.directives g.snapshot)
  have hresult := (settle_of_fits manager state (answer_native settings g) h).1
  refine ⟨_, hresult, hcourse.policyConfigured, ?_⟩
  rw [hcourse.skipped_eq, List.filter_eq_nil_iff]
  intro d hd
  rw [not_skips_of_mem_directives hd]
  exact Bool.false_ne_true

theorem result_native_of_unfit (h : ¬ ∀ d ∈ Native.directives g.snapshot, g.Fits d) :
    ∃ e ∈ g.entitlements.values, BringsEmptyBonus g.consumer e ∧
      (g.settle (Native.evaluator settings) manager state).result =
        .error (.invalidDirective (.unusableQuantity e.pool.id 0)) := by
  rcases g.fits_or_first_unfit (Native.directives g.snapshot) with
    hfits | ⟨before, d, after, hsplit, hbefore, hd⟩
  · exact absurd hfits h
  · have hmem : d ∈ Native.directives g.snapshot := by rw [hsplit]; simp
    rcases fits_or_empty hmem with hfits | ⟨e, he, hempty, rfl⟩
    · exact absurd hfits hd
    · obtain ⟨defect, hdefect, hcarried⟩ : ∃ defect, _ ∧
          g.carryOut manager state (before ++ _ :: after) = _ := carryOut_of_first_unfit hbefore hd
      rw [defect?_empty he] at hdefect
      cases hdefect
      have hresult : (g.settle (Native.evaluator settings) manager state).result =
          (g.conclude manager state (Native.evaluator settings Operation.postEntitlement
            (.grant g.snapshot)).outcome).1 := rfl
      rw [answer_native, hsplit] at hresult
      exact ⟨e, he, hempty, hresult.trans (congrArg Prod.fst hcarried)⟩

end

/-- Whatever was granted, and whatever the manager does, a settlement by the native policy
succeeds exactly if no entitlement is of no units and would yet bring a bonus pool of a fixed
quantity. A settlement that succeeds has skipped nothing, and one that fails does so over the
empty bonus pool of such an entitlement. -/
theorem settle_native_ok_iff {σ : Type} (g : Grant) (settings : NativeSettings)
    (manager : PoolManager σ) (state : σ) :
    let result := (g.settle (Native.evaluator settings) manager state).result
    ((∃ report, result = .ok report) ↔
      ∀ e ∈ g.entitlements.values, ¬ BringsEmptyBonus g.consumer e) ∧
    (∀ report, result = .ok report → report.policyConfigured = true ∧ report.skipped = []) ∧
    ∀ error, result = .error error →
      ∃ e ∈ g.entitlements.values, BringsEmptyBonus g.consumer e ∧
        error = .invalidDirective (.unusableQuantity e.pool.id 0) := by
  intro result
  rw [← directives_fit_iff]
  by_cases hfits : ∀ d ∈ Native.directives g.snapshot, g.Fits d
  · obtain ⟨report, hresult, hconfigured, hskipped⟩ :=
      result_native_of_fits settings manager state hfits
    have hok : result = .ok report := hresult
    rw [hok]
    refine ⟨iff_of_true ⟨report, rfl⟩ hfits, ?_, ?_⟩
    · rintro _ ⟨⟩
      exact ⟨hconfigured, hskipped⟩
    · rintro _ ⟨⟩
  · obtain ⟨e, he, hempty, hresult⟩ :=
      result_native_of_unfit settings manager state hfits
    have herror : result = .error (.invalidDirective (.unusableQuantity e.pool.id 0)) := hresult
    rw [herror]
    refine ⟨iff_of_false (by rintro ⟨_, ⟨⟩⟩) hfits, by rintro _ ⟨⟩, ?_⟩
    rintro _ ⟨⟩
    exact ⟨e, he, hempty, rfl⟩

/-- A pool that brings five guests for each unit. -/
def fiveGuests (id : String) : Pool :=
  { Native.yearly id 10 [] with attributes := .ofList [(Attribute.virtLimit, "5")] }

/-- A grant of nothing beside a grant of two units. -/
def nothingAndTwo : Grant where
  consumer := ⟨"c", .system, .empty, .empty, none⟩
  entitlements := .ofList [("e1", ⟨"e1", "c", fiveGuests "nothing", 0⟩),
    ("e2", ⟨"e2", "c", fiveGuests "two", 2⟩)]
  subPools := .empty
  success := true
  draws := .empty

/-- The entitlement of no units keeps the bonus pool of the other one from being made. -/
theorem settle_native_nothingAndTwo :
    Directive.createBonusPool "two" 10 ∈ Native.directives nothingAndTwo.snapshot ∧
      (nothingAndTwo.settle (Native.evaluator .default) everyOther 0).result =
        .error (.invalidDirective (.unusableQuantity "nothing" 0)) ∧
      nothingAndTwo.handovers (Native.evaluator .default) everyOther 0 = [] := by
  refine ⟨?_, ?_, ?_⟩
  · decide
  · decide
  · rfl

end Allotment.Grant
