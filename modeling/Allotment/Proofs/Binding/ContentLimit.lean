import Allotment.Binding.Candidates
import Mathlib.Algebra.BigOperators.Group.Finset.Basic
import Mathlib.Algebra.Ring.Nat

/-!
# Which pools are candidates

For a consumer that reads newer certificates every pool is a candidate. For all others a pool is one as
long as the products that come with it bring no more content sets than the limit, where a product that
is named twice is counted once and of products with the same id the last one in the catalogue counts
(`candidates_by_content`). Each pool is looked at on its own, so nothing that is done to the list around
it matters.
-/

namespace Allotment

/-- The consumer reports a certificate, and none of version 1. -/
def Consumer.ReadsNewer (c : Consumer) : Prop :=
  ∃ version, c.fact? Fact.certificateVersion = some version ∧ ¬ "1.".toList <+: version.toList

theorem Consumer.readsVersionOneOnly_iff {c : Consumer} :
    c.readsVersionOneOnly = true ↔ ¬ c.ReadsNewer := by
  rw [readsVersionOneOnly, ReadsNewer]
  cases c.fact? Fact.certificateVersion with
  | none => simp
  | some version =>
      rw [List.isPrefixOf_iff_prefix]
      simp

/-- The pools bring the same products, whatever they are called. Order and repetitions do not count, nor
do the products that the pools themselves are of. -/
def Pool.BringsSame (pool other : Pool) : Prop :=
  ∀ id, id ∈ pool.providedIds ↔ id ∈ other.providedIds

/-! ## The content of a pool -/

namespace Catalogue

/-- The last of some products that bears the id. -/
def lastWith? (products : List Product) (id : String) : Option Product :=
  (products.filter (·.id == id)).getLast?

theorem get?_ofProducts (products : List Product) (id : String) :
    (ofProducts products).get? id = lastWith? products id := by
  rw [ofProducts, Table.get?_ofList, ← List.map_reverse, List.find?_map, Option.map_map, lastWith?,
    List.getLast?_eq_head?_reverse, ← List.filter_reverse, List.head?_filter]
  exact Option.map_id'

/-- The content sets that all the products of a pool bring, each product counted once. -/
def contentOf (products : List Product) (pool : Pool) : Nat :=
  ∑ id ∈ pool.providedIds.toFinset, ((lastWith? products id).map Product.contentCount).getD 0

theorem contentOf_congr (products : List Product) {pool other : Pool} (h : pool.BringsSame other) :
    contentOf products pool = contentOf products other := by
  have hids : pool.providedIds.toFinset = other.providedIds.toFinset := by
    ext id
    rw [List.mem_toFinset, List.mem_toFinset]
    exact h id
  rw [contentOf, contentOf, hids]

end Catalogue

namespace ContentFilter

/-- Counting along the ascending ids of a set is summing over the set. -/
theorem contentCount_eq (products : List Product) (limit : UInt64) (pool : Pool) :
    contentCount ⟨.ofProducts products, limit⟩ pool = Catalogue.contentOf products pool := by
  have hids : (NameSet.ofList pool.providedIds).toList.toFinset = pool.providedIds.toFinset := by
    ext id
    simp
  have hcount (id : String) : (Catalogue.ofProducts products).contentCount id =
      ((Catalogue.lastWith? products id).map Product.contentCount).getD 0 := by
    rw [Catalogue.contentCount, Catalogue.get?_ofProducts]
    cases Catalogue.lastWith? products id <;> rfl
  have hnodup : (NameSet.ofList pool.providedIds).toList.Nodup := Table.nodup_keys _
  rw [Catalogue.contentOf, ← hids, List.sum_toFinset _ hnodup]
  simp only [← hcount]
  rfl

variable {products : List Product} {limit : UInt64} {consumer : Consumer}

theorem admits_iff {pool : Pool} :
    admits ⟨.ofProducts products, limit⟩ pool = true ↔
      Catalogue.contentOf products pool ≤ limit.toNat := by
  rw [admits, contentCount_eq, decide_eq_true_iff]

theorem admits_congr {pool other : Pool} (h : pool.BringsSame other) :
    admits ⟨.ofProducts products, limit⟩ pool = admits ⟨.ofProducts products, limit⟩ other := by
  rw [Bool.eq_iff_iff, admits_iff, admits_iff, Catalogue.contentOf_congr products h]

theorem admits_of_le {greater : UInt64} (hle : limit ≤ greater) {pool : Pool}
    (h : admits ⟨.ofProducts products, limit⟩ pool = true) :
    admits ⟨.ofProducts products, greater⟩ pool = true :=
  admits_iff.mpr ((admits_iff.mp h).trans (UInt64.le_iff_toNat_le.mp hle))

/-- A pool stands or falls by itself. -/
theorem candidates_eq_filter (filter : ContentFilter) (consumer : Consumer) (pools : List Pool) :
    filter.candidates consumer pools =
      pools.filter fun pool => !consumer.readsVersionOneOnly || filter.admits pool := by
  rw [candidates]
  cases consumer.readsVersionOneOnly <;> simp

/-- A consumer that reads newer certificates is left all pools, and any other one exactly those whose
products together bring no more content sets than the limit, each product counted once and as the last
one of the catalogue with its id; either way they stay in order. So choosing candidates among candidates
changes nothing, two lists give what they give one after the other, a greater limit leaves no pool out
that was in, and pools that bring the same products stay or go together. -/
theorem candidates_by_content (products : List Product) (limit : UInt64) (consumer : Consumer)
    (pools : List Pool) :
    let left (limit : UInt64) (pools : List Pool) : List Pool :=
      candidates ⟨.ofProducts products, limit⟩ consumer pools
    (consumer.ReadsNewer → left limit pools = pools) ∧
    (¬ consumer.ReadsNewer →
      left limit pools =
        pools.filter fun pool => Catalogue.contentOf products pool ≤ limit.toNat) ∧
    left limit (left limit pools) = left limit pools ∧
    (∀ more, left limit (pools ++ more) = left limit pools ++ left limit more) ∧
    (∀ greater, limit ≤ greater → (left limit pools).Sublist (left greater pools)) ∧
    (∀ pairs : List (Pool × Pool), (∀ pair ∈ pairs, pair.1.BringsSame pair.2) →
      ∃ staying : List (Pool × Pool), staying.Sublist pairs ∧
        left limit (pairs.map (·.1)) = staying.map (·.1) ∧
        left limit (pairs.map (·.2)) = staying.map (·.2)) := by
  intro left
  refine ⟨fun hnewer => ?_, fun hnewer => ?_, ?_, fun more => ?_, fun greater hle => ?_,
    fun pairs hsame => ?_⟩
  · have hreads : ¬ consumer.readsVersionOneOnly = true :=
      mt Consumer.readsVersionOneOnly_iff.mp (not_not_intro hnewer)
    exact if_neg hreads
  · have hreads : consumer.readsVersionOneOnly = true :=
      Consumer.readsVersionOneOnly_iff.mpr hnewer
    refine (if_pos hreads).trans (List.filter_congr fun pool _ => ?_)
    rw [Bool.eq_iff_iff, admits_iff, decide_eq_true_iff]
  · simp only [left, candidates_eq_filter, List.filter_filter, Bool.and_self]
  · simp only [left, candidates_eq_filter, List.filter_append]
  · simp only [left, candidates_eq_filter]
    refine List.monotone_filter_right _ fun pool hpool => ?_
    rw [Bool.or_eq_true] at hpool ⊢
    exact hpool.imp_right (admits_of_le hle)
  · let stays (pool : Pool) : Bool :=
      !consumer.readsVersionOneOnly || admits ⟨.ofProducts products, limit⟩ pool
    refine ⟨pairs.filter fun pair => stays pair.1, List.filter_sublist, ?_, ?_⟩
    · simp only [left, candidates_eq_filter, List.filter_map]
      rfl
    · simp only [left, candidates_eq_filter, List.filter_map]
      refine congrArg _ (List.filter_congr fun pair hpair => ?_)
      simp only [Function.comp_apply, stays, admits_congr (hsame pair hpair)]

end ContentFilter

end Allotment
