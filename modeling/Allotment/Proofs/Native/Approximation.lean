import Allotment.Proofs.Native.Coverage
import Mathlib.Algebra.Order.Field.Basic
import Mathlib.Data.Rat.Cast.Order
import Mathlib.Data.Set.Card
import Mathlib.NumberTheory.Harmonic.Defs
import Mathlib.Tactic.Linarith
import Mathlib.Tactic.Positivity

/-!
# How many pools a selection takes

Always taking the pool that provides most of what is uncovered does not lead to the fewest pools,
but not far from them either. A selection is compared with a rival, which is any choice of pools
that covers as much. Each pool that is taken is charged to the products that it newly covers. If
`u` of them were uncovered before, the best pool provides at least `u` divided by the number of
rival pools, as the rivals provide all of them; so the charges of a whole selection sum up to at
most the harmonic number of the products for each rival (`select_length_le_harmonic`).
-/

namespace Allotment.Native

/-! ## Harmonic numbers -/

theorem harmonic_nonneg (n : ℕ) : 0 ≤ harmonic n :=
  Finset.sum_nonneg fun i _ => by positivity

/-- Each of the last terms of a harmonic number is at least the reciprocal of the last index. -/
theorem harmonic_add_div_le (m g : ℕ) {n : ℕ} (hn : m + g ≤ n) :
    harmonic m + g / n ≤ harmonic (m + g) := by
  induction g with
  | zero => simp
  | succ g ih =>
      have hrest := ih (by omega)
      have hterm : (1 : ℚ) / n ≤ (↑(m + g + 1))⁻¹ := by
        rw [inv_eq_one_div]
        have hpos : (0 : ℚ) < ↑(m + g + 1) := by positivity
        exact one_div_le_one_div_of_le hpos (by exact_mod_cast hn)
      have hsplit : ((g + 1 : ℕ) : ℚ) / n = g / n + 1 / n := by
        rw [Nat.cast_add, Nat.cast_one, add_div]
      rw [← Nat.add_assoc, harmonic_succ, hsplit]
      linarith

/-! ## Rivals -/

/-- The number of products in the list that some rival pool provides. -/
def reach (rival : List PoolView) (products : List String) : ℕ :=
  products.countP fun id => rival.any (·.provides id)

/-- What the pools at hand provide of the uncovered products, the rival provides too; and the rival
pools that still provide some of them are at hand. -/
structure Rivals (rival pools : List PoolView) (uncovered : List String) : Prop where
  covers : ∀ pool ∈ pools, ∀ id ∈ uncovered, pool.provides id = true →
    ∃ r ∈ rival, r.provides id = true
  atHand : ∀ r ∈ rival, ∀ id ∈ uncovered, r.provides id = true → r ∈ pools

variable {rival pools : List PoolView} {uncovered : List String} {pool : PoolView}

theorem reach_cons_le (r : PoolView) (rival : List PoolView) (products : List String) :
    reach (r :: rival) products ≤ gain products r + reach rival products := by
  induction products with
  | nil => exact Nat.zero_le _
  | cons id ids ih =>
      simp only [reach, gain, List.countP_cons, List.any_cons] at ih ⊢
      cases r.provides id with
      | true =>
          simp only [Bool.true_or, if_true]
          split
          · omega
          · omega
      | false =>
          simp only [Bool.false_or, Bool.false_eq_true, if_false]
          omega

/-- Together the rival pools reach no more than as many times what one of them can gain. -/
theorem reach_le_mul {products : List String} {bound : ℕ}
    (h : ∀ r ∈ rival, gain products r ≤ bound) :
    reach rival products ≤ rival.length * bound := by
  induction rival with
  | nil => simp [reach]
  | cons r rival ih =>
      obtain ⟨hr, hrest⟩ := List.forall_mem_cons.mp h
      have hcons := reach_cons_le r rival products
      have htail := ih hrest
      rw [List.length_cons, Nat.add_mul, Nat.one_mul]
      omega

/-- What a pool newly covers is taken off what the rival reaches. -/
theorem reach_unprovided
    (h : ∀ id ∈ uncovered, pool.provides id = true → ∃ r ∈ rival, r.provides id = true) :
    reach rival (unprovided pool uncovered) + gain uncovered pool = reach rival uncovered := by
  induction uncovered with
  | nil => rfl
  | cons id ids ih =>
      obtain ⟨hid, hids⟩ := List.forall_mem_cons.mp h
      have hrest := ih hids
      simp only [reach, gain, unprovided] at hrest ⊢
      cases hprovides : pool.provides id with
      | true =>
          have hreached : (rival.any fun r => r.provides id) = true :=
            List.any_eq_true.mpr (hid hprovides)
          simp only [List.filter_cons, List.countP_cons, hprovides, hreached, Bool.not_true,
            Bool.false_eq_true, if_false, if_true]
          omega
      | false =>
          simp only [List.filter_cons, List.countP_cons, hprovides, Bool.not_false, if_true,
            Bool.false_eq_true, if_false]
          omega

namespace Rivals

/-- The rival pools share what they reach, so the best pool at hand gains at least their mean. -/
theorem reach_le (h : Rivals rival pools uncovered) (hbest : best? uncovered pools = some pool) :
    reach rival uncovered ≤ rival.length * gain uncovered pool := by
  refine reach_le_mul fun r hr => ?_
  by_cases hgain : 0 < gain uncovered r
  · obtain ⟨id, hid, hprovides⟩ := gain_pos_iff.mp hgain
    exact gain_le_of_best? hbest (h.atHand r hr id hid hprovides)
  · omega

/-- A pool that is taken leaves the rivalry as it is. If it was a rival pool itself, it provides
nothing that is still uncovered. -/
theorem without_unprovided (h : Rivals rival pools uncovered) (hids : (pools.map (·.id)).Nodup)
    (hbest : best? uncovered pools = some pool) :
    Rivals rival (without pool.id pools) (unprovided pool uncovered) where
  covers q hq id hid hprovides :=
    h.covers q (mem_without_iff.mp hq).1 id (mem_unprovided_iff.mp hid).1 hprovides
  atHand r hr id hid hprovides := by
    obtain ⟨huncovered, hleft⟩ := mem_unprovided_iff.mp hid
    have hmem := h.atHand r hr id huncovered hprovides
    refine mem_without_iff.mpr ⟨hmem, fun hsame => ?_⟩
    have heq := List.inj_on_of_nodup_map hids hmem (mem_of_best? hbest) hsame
    rw [heq, hleft] at hprovides
    cases hprovides

end Rivals

/-! ## Charges -/

/-- One pool is paid for by the harmonic terms of what it newly covers. -/
theorem one_le_mul_harmonic_sub {k left gained : ℕ} (hgained : 0 < gained)
    (hshare : left + gained ≤ k * gained) :
    1 ≤ (k : ℚ) * (harmonic (left + gained) - harmonic left) := by
  have hpos : (0 : ℚ) < ↑(left + gained) := by
    exact_mod_cast Nat.add_pos_right left hgained
  have hterms : (gained : ℚ) / ↑(left + gained) ≤
      harmonic (left + gained) - harmonic left := by
    have hsum := harmonic_add_div_le left gained (Nat.le_refl (left + gained))
    linarith
  calc
    (1 : ℚ) ≤ ↑(k * gained) / ↑(left + gained) := by
      rw [one_le_div hpos]
      exact_mod_cast hshare
    _ = k * (gained / ↑(left + gained)) := by
      rw [Nat.cast_mul, mul_div_assoc]
    _ ≤ k * (harmonic (left + gained) - harmonic left) :=
      mul_le_mul_of_nonneg_left hterms (Nat.cast_nonneg k)

theorem length_choose_le (hids : (pools.map (·.id)).Nodup) (h : Rivals rival pools uncovered) :
    ((choose pools uncovered).length : ℚ) ≤ rival.length * harmonic (reach rival uncovered) := by
  induction pools, uncovered using choose.induct with
  | case1 pools uncovered first hfirst ih =>
      have hrest := ih (hids.sublist (List.filter_sublist.map _))
        (h.without_unprovided hids hfirst)
      have hsplit := reach_unprovided (h.covers first (mem_of_best? hfirst))
      have hshare := h.reach_le hfirst
      rw [← hsplit] at hshare
      have hcharge := one_le_mul_harmonic_sub (gain_pos_of_best? hfirst) hshare
      rw [choose_of_best? hfirst, List.length_cons, Nat.cast_add, Nat.cast_one, ← hsplit]
      linarith
  | case2 pools uncovered hnone =>
      rw [choose_of_none hnone]
      exact mul_nonneg (Nat.cast_nonneg _) (harmonic_nonneg _)

/-! ## Selections -/

variable {settings : NativeSettings} {s : SelectionSnapshot} {cover : List PoolView}

theorem rivals_eligible (hcover : ∀ pool ∈ cover, pool ∈ s.pools ∧ Eligible s pool)
    (hall : ∀ id, IsTarget settings s id → Providable s id →
      ∃ pool ∈ cover, pool.provides id = true) :
    Rivals cover (eligible s) (targets settings s) where
  covers pool hpool id hid hprovides := by
    obtain ⟨hmem, heligible⟩ := mem_eligible_iff.mp hpool
    exact hall id (mem_targets_iff.mp hid) ⟨pool, hmem, heligible, hprovides⟩
  atHand r hr _ _ _ := mem_eligible_iff.mpr (hcover r hr)

/-- A cover reaches each target that can be provided, and nothing else. -/
theorem reach_targets (hcover : ∀ pool ∈ cover, pool ∈ s.pools ∧ Eligible s pool)
    (hall : ∀ id, IsTarget settings s id → Providable s id →
      ∃ pool ∈ cover, pool.provides id = true) :
    reach cover (targets settings s) =
      Set.ncard {id | IsTarget settings s id ∧ Providable s id} := by
  have hnodup : (targets settings s).Nodup := (targets_inFirstOrder settings s).nodup
  have hset : {id | IsTarget settings s id ∧ Providable s id} =
      ↑((targets settings s).filter fun id => cover.any (·.provides id)).toFinset := by
    ext id
    simp only [Set.mem_ofPred_eq, List.coe_toFinset, List.mem_filter, mem_targets_iff,
      List.any_eq_true]
    refine and_congr_right fun hid => ⟨hall id hid, ?_⟩
    rintro ⟨pool, hpool, hprovides⟩
    obtain ⟨hmem, heligible⟩ := hcover pool hpool
    exact ⟨pool, hmem, heligible, hprovides⟩
  rw [hset, Set.ncard_coe_finset, List.toFinset_card_of_nodup (hnodup.filter _), reach,
    List.countP_eq_length_filter]

/-- Let the ids of the pools differ, and let `n` be the number of targets that eligible pools
provide. Whatever eligible pools provide all of these, a selection takes at most `1 + 1/2 + ... +
1/n` times as many pools, and none if there is nothing to provide. -/
theorem select_length_le_harmonic (settings : NativeSettings) (s : SelectionSnapshot)
    (hids : (s.pools.map (·.id)).Nodup) (cover : List PoolView)
    (hcover : ∀ pool ∈ cover, pool ∈ s.pools ∧ Eligible s pool)
    (hall : ∀ id, IsTarget settings s id → Providable s id →
      ∃ pool ∈ cover, pool.provides id = true) :
    let n := Set.ncard {id | IsTarget settings s id ∧ Providable s id}
    ((select settings s).length : ℚ) ≤ cover.length * harmonic n ∧
      (n = 0 → select settings s = []) := by
  intro n
  have heligible : ((eligible s).map (·.id)).Nodup := hids.sublist (List.filter_sublist.map _)
  have hbound := length_choose_le heligible (rivals_eligible hcover hall)
  rw [reach_targets hcover hall, ← chosen] at hbound
  have hlength : (select settings s).length = (chosen settings s).length := List.length_map _
  rw [← hlength] at hbound
  refine ⟨hbound, fun hn => ?_⟩
  have hnone : Set.ncard {id | IsTarget settings s id ∧ Providable s id} = 0 := hn
  have hzero : ((select settings s).length : ℚ) ≤ 0 := by
    rw [hnone, harmonic_zero, mul_zero] at hbound
    exact hbound
  exact List.length_eq_zero_iff.mp (Nat.le_zero.mp (by exact_mod_cast hzero))

/-- One pool covers both targets that can be provided, so no second one is selected. -/
theorem select_length_le_harmonic_overlapping :
    let cover := [PoolView.of (yearly "right" (-1) ["db", "web"])]
    (overlapping.pools.map (·.id)).Nodup ∧
      (∀ pool ∈ cover, pool ∈ overlapping.pools ∧ Eligible overlapping pool) ∧
      (∀ id, IsTarget .default overlapping id → Providable overlapping id →
        ∃ pool ∈ cover, pool.provides id = true) ∧
      Set.ncard {id | IsTarget .default overlapping id ∧ Providable overlapping id} = 2 ∧
      (select .default overlapping).length ≤ 1 := by
  intro cover
  have hids : (overlapping.pools.map (·.id)).Nodup := by decide
  have hcover : ∀ pool ∈ cover, pool ∈ overlapping.pools ∧ Eligible overlapping pool := by decide
  have hall : ∀ id, IsTarget .default overlapping id → Providable overlapping id →
      ∃ pool ∈ cover, pool.provides id = true := by
    have htargets : ∀ id ∈ targets .default overlapping, Providable overlapping id →
        ∃ pool ∈ cover, pool.provides id = true := by decide
    exact fun id hid => htargets id (mem_targets_iff.mpr hid)
  have htwo :
      Set.ncard {id | IsTarget .default overlapping id ∧ Providable overlapping id} = 2 := by
    rw [← reach_targets hcover hall]
    decide
  have hbound := (select_length_le_harmonic .default overlapping hids cover hcover hall).1
  rw [htwo] at hbound
  have hharmonic : (cover.length : ℚ) * harmonic 2 < 2 := by
    norm_num [cover, harmonic_succ]
  have hlength : (select .default overlapping).length < 2 := by
    exact_mod_cast hbound.trans_lt hharmonic
  exact ⟨hids, hcover, hall, htwo, Nat.le_of_lt_succ hlength⟩

end Allotment.Native
