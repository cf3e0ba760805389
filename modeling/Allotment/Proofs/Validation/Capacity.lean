import Allotment.Proofs.Validation.Batches
import Mathlib.Algebra.Order.BigOperators.Group.List
import Mathlib.Algebra.Ring.Int.Defs

/-!
# What an accepted batch may take

Each request of a batch is held against the whole capacity of its pool, as though there were no
other one. Where a batch is accepted, no single draw takes more than there is
(`le_available_of_isSuccessful`), and so all draws from one pool take at most its capacity times
their number (`batch_within_capacity`). Together they may take more than there is, for what they
take is never added up (`batch_beyond_capacity`).
-/

namespace Allotment

theorem Pool.available?_eq_some_iff {pool : Pool} {available : Amount} :
    pool.available? = some available ↔
      pool.isUnlimited = false ∧ available.val = max pool.remaining.val 0 := by
  unfold available?
  split
  · rename_i hunlimited
    simp [hunlimited]
  · rename_i hlimited
    have hlimited : pool.isUnlimited = false := Bool.not_eq_true _ ▸ hlimited
    split
    · rename_i hoverdrawn
      have hzero : max pool.remaining.val 0 = (0 : Amount).val := max_eq_right hoverdrawn.le
      rw [Option.some.injEq, hzero]
      exact ⟨fun h => ⟨hlimited, h ▸ rfl⟩, fun h => Amount.ext h.2.symm⟩
    · rename_i hleft
      have hleft : max pool.remaining.val 0 = pool.remaining.val := max_eq_left (not_lt.mp hleft)
      rw [Option.some.injEq, hleft]
      exact ⟨fun h => ⟨hlimited, h ▸ rfl⟩, fun h => Amount.ext h.2.symm⟩

namespace Validation

/-- The draws from the pools with an id. -/
def drawsOn (id : String) (draws : List Draw) : List Draw :=
  draws.filter fun draw => draw.pool.id == id

/-- What is asked for under an id, by all draws together. -/
def requested (id : String) (draws : List Draw) : Int :=
  ((drawsOn id draws).map fun draw => (draw.quantity.toNat : Int)).sum

theorem mem_drawsOn_iff {id : String} {draws : List Draw} {draw : Draw} :
    draw ∈ drawsOn id draws ↔ draw ∈ draws ∧ draw.pool.id = id := by
  simp [drawsOn]

variable {consumer : Consumer} {caller : Caller} {draws : List Draw}

/-- A batch is accepted exactly if every draw of it is accepted alone. -/
theorem accepted_batch_iff :
    (∀ verdict ∈ (batch consumer draws caller).values, verdict.isSuccessful = true) ↔
      ∀ draw ∈ draws, (draw.verdict consumer caller).isSuccessful = true := by
  constructor
  · intro h draw hdraw
    have hkey : draw.pool.id ∈ (batch consumer draws caller).keys :=
      mem_keys_batch.mpr ⟨draw, hdraw, rfl⟩
    obtain ⟨verdict, hverdict⟩ := Option.isSome_iff_exists.mp (Table.mem_keys_iff.mp hkey)
    have hsuccess := h verdict (List.mem_map_of_mem (Table.get?_eq_some_iff.mp hverdict))
    rw [eq_concat_of_get?_batch hverdict, Verdict.isSuccessful_concat_iff] at hsuccess
    exact hsuccess _ (List.mem_map_of_mem (mem_drawsOn_iff.mpr ⟨hdraw, rfl⟩))
  · intro h verdict hverdict
    obtain ⟨entry, hentry, rfl⟩ := List.mem_map.mp hverdict
    rw [eq_concat_of_get?_batch (Table.get?_eq_some_iff.mpr hentry),
      Verdict.isSuccessful_concat_iff, List.forall_mem_map]
    intro draw hdraw
    exact h draw (List.mem_filter.mp hdraw).1

/-- A draw that is accepted takes no more than there is. -/
theorem le_available_of_isSuccessful {draw : Draw} {available : Amount}
    (h : (draw.verdict consumer caller).isSuccessful = true)
    (havailable : draw.pool.available? = some available) :
    (draw.quantity.toNat : Int) ≤ available.val := by
  obtain ⟨hlimited, hvalue⟩ := Pool.available?_eq_some_iff.mp havailable
  have hcheck := Request.isSuccessful_validate_iff.mp h .quantityAvailable
    (by cases caller <;> rfl)
  have hremaining := Request.checkQuantity_eq_none_iff_le_remaining.mp hcheck
  simp only [hlimited, Bool.false_eq_true, false_or] at hremaining
  omega

/-- If a batch is accepted in which one id always means one pool, then no draw takes more from a
limited pool than there is, and all draws from it together take at most that much for each of
them. -/
theorem batch_within_capacity (consumer : Consumer) (caller : Caller) (draws : List Draw)
    (hsame : ∀ draw ∈ draws, ∀ other ∈ draws, draw.pool.id = other.pool.id →
      draw.pool = other.pool)
    (haccepted : ∀ verdict ∈ (batch consumer draws caller).values,
      verdict.isSuccessful = true) :
    ∀ pool ∈ draws.map (·.pool), ∀ available, pool.available? = some available →
      (∀ draw ∈ drawsOn pool.id draws, (draw.quantity.toNat : Int) ≤ available.val) ∧
      requested pool.id draws ≤ (drawsOn pool.id draws).length * available.val := by
  intro pool hpool available havailable
  obtain ⟨first, hfirst, rfl⟩ := List.mem_map.mp hpool
  have hsingle (draw : Draw) (hdraw : draw ∈ drawsOn first.pool.id draws) :
      (draw.quantity.toNat : Int) ≤ available.val := by
    obtain ⟨hmem, hid⟩ := mem_drawsOn_iff.mp hdraw
    have hpool : draw.pool = first.pool := hsame draw hmem first hfirst hid
    exact le_available_of_isSuccessful (accepted_batch_iff.mp haccepted draw hmem)
      (hpool ▸ havailable)
  refine ⟨hsingle, ?_⟩
  have hsum := List.sum_le_card_nsmul
    ((drawsOn first.pool.id draws).map fun draw => (draw.quantity.toNat : Int)) available.val
    (List.forall_mem_map.mpr hsingle)
  simpa [requested] using hsum

/-- A pool of which one unit is left. -/
def lastUnit : Pool := Native.yearly "last" 1 ["web"]

/-- What is left of it. -/
def oneUnit : Draw := ⟨lastUnit, 1, UInt32.zero_lt_one⟩

theorem batch_within_capacity_lastUnit :
    (∀ verdict ∈ (batch eightSockets [oneUnit, oneUnit] .bind).values,
        verdict.isSuccessful = true) ∧
      lastUnit.available? = some 1 ∧
      requested "last" [oneUnit, oneUnit] ≤ (drawsOn "last" [oneUnit, oneUnit]).length * 1 := by
  have haccepted : ∀ verdict ∈ (batch eightSockets [oneUnit, oneUnit] .bind).values,
      verdict.isSuccessful = true := by decide
  have havailable : lastUnit.available? = some 1 := by decide
  obtain ⟨-, hsum⟩ := batch_within_capacity eightSockets .bind [oneUnit, oneUnit] (by decide)
    haccepted lastUnit (by decide) 1 havailable
  exact ⟨haccepted, havailable, hsum⟩

/-- The unit that is left is promised to each of two draws. -/
theorem batch_beyond_capacity :
    ¬ ∀ (consumer : Consumer) (caller : Caller) (draws : List Draw),
      (∀ draw ∈ draws, ∀ other ∈ draws, draw.pool.id = other.pool.id →
        draw.pool = other.pool) →
      (∀ verdict ∈ (batch consumer draws caller).values, verdict.isSuccessful = true) →
      ∀ pool ∈ draws.map (·.pool), ∀ available, pool.available? = some available →
        requested pool.id draws ≤ available.val := by
  intro h
  have htwo : requested "last" [oneUnit, oneUnit] ≤ (1 : Amount).val :=
    h eightSockets .bind [oneUnit, oneUnit] (by decide) (by decide) lastUnit (by decide) 1
      (by decide)
  exact absurd htwo (by decide)

end Validation

end Allotment
