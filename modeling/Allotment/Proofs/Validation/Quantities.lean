import Allotment.Proofs.Validation.Findings

/-!
# What the quantity changes

Three rules read the quantity of a request: whether so much is left of the pool, whether it covers
the sockets of the consumer, and whether it is a multiple of what the product asks for. For the
first two it is said here when they find nothing; all other rules find the same for every quantity
(`check_eq_of_not_counting`).
-/

namespace Allotment

namespace Rule

/-- The rules that read the quantity. -/
def counting : List Rule := [.quantityAvailable, .socketCoverage, .instanceQuantityMismatch]

end Rule

/-- The sockets that one entitlement of the pool is for, where its product counts sockets. -/
def Pool.sockets? (pool : Pool) : Option Nat :=
  (pool.productAttribute? Attribute.sockets).bind readPositive?

/-- The sockets that the consumer reports. -/
def Consumer.sockets? (consumer : Consumer) : Option Nat :=
  (consumer.fact? Fact.cpuSockets).bind readPositive?

namespace Request

theorem check_eq_of_not_counting {rule : Rule} (h : rule ∉ Rule.counting) (consumer : Consumer)
    (pool : Pool) (quantity other : UInt32) :
    check ⟨consumer, pool, quantity⟩ rule = check ⟨consumer, pool, other⟩ rule := by
  cases rule with
  | quantityAvailable => exact absurd (by decide) h
  | socketCoverage => exact absurd (by decide) h
  | instanceQuantityMismatch => exact absurd (by decide) h
  | _ => rfl

variable {request : Request}

theorem checkQuantity_eq_none_iff_le_remaining :
    request.checkQuantity = none ↔
      request.pool.isUnlimited = true ∨
        (request.quantity.toNat : Int) ≤ request.pool.remaining.val := by
  simp only [checkQuantity]
  split
  · rename_i hunlimited
    exact iff_of_true rfl (.inl hunlimited)
  · rename_i hlimited
    split
    · rename_i hlt
      refine iff_of_false (Option.some_ne_none _) ?_
      rintro (hunlimited | hle)
      · exact hlimited hunlimited
      · omega
    · rename_i hge
      exact iff_of_true rfl (.inr (by omega))

/-- Where a quantity is there, any smaller one is. -/
theorem checkQuantity_eq_none_of_le {consumer : Consumer} {pool : Pool}
    {quantity other : UInt32} (hle : quantity ≤ other)
    (h : checkQuantity ⟨consumer, pool, other⟩ = none) :
    checkQuantity ⟨consumer, pool, quantity⟩ = none := by
  rw [checkQuantity_eq_none_iff_le_remaining] at h ⊢
  have hle : quantity.toNat ≤ other.toNat := UInt32.le_iff_toNat_le.mp hle
  exact h.imp_right fun h => by dsimp only at h ⊢; omega

theorem checkSockets_eq_none_iff :
    request.checkSockets = none ↔
      request.consumer.isManifest = true ∨
        ∀ sockets present, request.pool.sockets? = some sockets →
          request.consumer.sockets? = some present → present ≤ request.coveredSockets sockets := by
  unfold checkSockets
  cases request.consumer.isManifest with
  | true => simp
  | false =>
      rw [← Pool.sockets?, ← Consumer.sockets?]
      cases request.pool.sockets? with
      | none => simp
      | some sockets =>
          cases request.consumer.sockets? with
          | none => simp
          | some present => simp

end Request

end Allotment
