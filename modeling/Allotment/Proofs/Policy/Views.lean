import Allotment.Policy.Native.Eligibility
import Allotment.Proofs.Validation.Quantities

/-!
# Views and what they are taken of

The policy and the validation each read a pool with their own functions. On a pool and its view
they read the same: the validation objects to an architecture or a quantity exactly where the
policy would not have selected it.
-/

namespace Allotment

@[simp] theorem PoolView.attribute?_of (pool : Pool) (name : String) :
    (PoolView.of pool).attribute? name = pool.attribute? name := rfl

@[simp] theorem PoolView.productAttribute?_of (pool : Pool) (name : String) :
    (PoolView.of pool).productAttribute? name = pool.productAttribute? name := rfl

@[simp] theorem ConsumerView.fact?_of (consumer : Consumer) (override : Option String)
    (name : String) : (ConsumerView.of consumer override).fact? name = consumer.fact? name := rfl

theorem PoolView.available?_eq_some_iff {pool : PoolView} {available : Amount} :
    pool.available? = some available ↔
      pool.quantity ≠ Pool.unlimited ∧
        available.val = max (pool.quantity.sub pool.consumed).val 0 := by
  have hrange : (Amount.clamp (max (pool.quantity.sub pool.consumed).val 0)).val =
      max (pool.quantity.sub pool.consumed).val 0 := by
    have hle := (pool.quantity.sub pool.consumed).le_greatest
    exact Amount.val_clamp_of_mem (by omega) (by omega)
  unfold available?
  split
  · rename_i hunlimited
    simp [hunlimited]
  · rename_i hlimited
    rw [Option.some.injEq]
    refine ⟨fun h => ⟨hlimited, h ▸ hrange⟩, fun h => Amount.ext ?_⟩
    rw [hrange, h.2]

theorem Pool.trim_productAttribute? {pool : Pool} {name value : String}
    (h : pool.productAttribute? name = some value) : Text.trim value = value := by
  obtain ⟨text, -, htext⟩ := Option.bind_eq_some_iff.mp h
  exact Text.trim_of_nonBlank? htext

/-! ## Numbers in facts and attributes -/

theorem readPositive?_eq_some_iff {text : String} {n : Nat} :
    readPositive? text = some n ↔
      Text.natural? (Text.trim text) = some n ∧ 0 < n ∧ n < UInt64.size := by
  unfold readPositive?
  cases Text.natural? (Text.trim text) with
  | none => simp
  | some m =>
      simp only [Option.ite_none_right_eq_some, Option.some.injEq]
      constructor
      · rintro ⟨hrange, rfl⟩
        exact ⟨rfl, hrange⟩
      · rintro ⟨rfl, hrange⟩
        exact ⟨hrange, rfl⟩

theorem Amount.read?_eq_some_iff {text : String} {n : Amount} :
    read? text = some n ↔ Text.integer? text = some n.val := by
  rw [read?, Option.bind_eq_some_iff]
  simp only [ofInt?_eq_some_iff]
  exact ⟨fun ⟨m, hm, hvalue⟩ => hvalue ▸ hm, fun h => ⟨_, h, rfl⟩⟩

theorem Native.readPositiveAmount?_eq_some_iff {text : String} {n : Amount} :
    readPositiveAmount? text = some n ↔ Text.integer? text = some n.val ∧ 0 < n.val := by
  rw [← Amount.read?_eq_some_iff]
  unfold readPositiveAmount?
  cases Amount.read? text with
  | none => simp
  | some m =>
      simp only [Option.ite_none_right_eq_some, Option.some.injEq]
      constructor
      · rintro ⟨hpos, rfl⟩
        exact ⟨rfl, hpos⟩
      · rintro ⟨rfl, hpos⟩
        exact ⟨hpos, rfl⟩

/-- The policy reads amounts and the validation greater numbers, too. As far as the amounts go both
read the same. -/
theorem Native.readPositiveAmount?_trim (text : String) :
    readPositiveAmount? (Text.trim text) =
      (readPositive? text).bind fun n => Amount.ofInt? n := by
  ext amount
  have hgreatest := amount.le_greatest
  have hsize : UInt64.size = 18446744073709551616 := rfl
  rw [readPositiveAmount?_eq_some_iff, Option.bind_eq_some_iff]
  simp only [Amount.ofInt?_eq_some_iff, readPositive?_eq_some_iff]
  constructor
  · rintro ⟨hread, hpos⟩
    obtain ⟨n, hn⟩ := Int.eq_ofNat_of_zero_le (Int.le_of_lt hpos)
    rw [hn] at hread hpos hgreatest
    exact ⟨n, ⟨Text.natural?_of_integer? (by omega) hread, by omega, by omega⟩, hn⟩
  · rintro ⟨n, ⟨hread, hpos, -⟩, hn⟩
    rw [hn]
    exact ⟨Text.integer?_of_natural? hread, by omega⟩

/-! ## Objections of the validation -/

namespace Request

variable {request : Request}

/-- An architecture is objected to exactly if the policy does not find it matching. -/
theorem checkArchitecture_eq_none_iff (override : Option String) :
    request.checkArchitecture = none ↔
      request.consumer.isManifest = true ∨
        Native.architectureMatches (.of request.consumer override) (.of request.pool)
          Attribute.separator = true := by
  unfold checkArchitecture Native.architectureMatches
  rw [PoolView.productAttribute?_of, ConsumerView.fact?_of]
  cases hmanifest : request.consumer.isManifest with
  | true => simp
  | false =>
      cases request.pool.productAttribute? Attribute.architecture with
      | none => simp
      | some supported =>
          cases request.consumer.fact? Fact.architecture with
          | none => simp
          | some present =>
              simp only [Bool.false_eq_true, if_false, Option.bind_eq_bind, Option.bind_some,
                false_or]
              split
              · rename_i hnamed
                exact iff_of_true rfl hnamed
              · rename_i hnamed
                exact iff_of_false (Option.some_ne_none _) hnamed

/-- A positive quantity is objected to exactly if the policy sees less of the pool. -/
theorem checkQuantity_eq_none_iff (hpos : 0 < request.quantity) :
    request.checkQuantity = none ↔
      ∀ available, (PoolView.of request.pool).available? = some available →
        (request.quantity.toNat : Int) ≤ available.val := by
  have hone : 0 < request.quantity.toNat := UInt32.lt_iff_toNat_lt.mp hpos
  have hremaining : request.pool.remaining =
      (PoolView.of request.pool).quantity.sub (PoolView.of request.pool).consumed := rfl
  rw [checkQuantity_eq_none_iff_le_remaining, hremaining, Pool.isUnlimited, beq_iff_eq]
  simp only [PoolView.available?_eq_some_iff]
  constructor
  · rintro (hunlimited | hle) available ⟨hlimited, hvalue⟩
    · exact absurd hunlimited hlimited
    · omega
  · intro h
    by_cases hunlimited : request.pool.quantity = Pool.unlimited
    · exact .inl hunlimited
    · have hgreatest := ((PoolView.of request.pool).quantity.sub
        (PoolView.of request.pool).consumed).le_greatest
      have hshown := h (.clamp (max _ 0))
        ⟨hunlimited, Amount.val_clamp_of_mem (by omega) (by omega)⟩
      rw [Amount.val_clamp_of_mem (by omega) (by omega)] at hshown
      exact .inr (by omega)

end Request

end Allotment
