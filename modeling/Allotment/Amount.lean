import Allotment.Text.Numeral

/-!
# Amounts

An amount is a whole number from `-2^63` to `2^63 - 1`. Sums, differences and products that
leave this range stop at its nearer end.
-/

namespace Allotment

structure Amount where
  val : Int
  least_le : -9223372036854775808 ≤ val
  le_greatest : val ≤ 9223372036854775807
  deriving DecidableEq, Repr

namespace Amount

theorem ext {a b : Amount} (h : a.val = b.val) : a = b := by
  cases a
  cases b
  cases h
  rfl

/-- The amount nearest to a whole number. -/
def clamp (n : Int) : Amount where
  val := max (-9223372036854775808) (min n 9223372036854775807)
  least_le := by omega
  le_greatest := by omega

/-- The amount equal to a whole number, where there is one. -/
def ofInt? (n : Int) : Option Amount :=
  if h : -9223372036854775808 ≤ n ∧ n ≤ 9223372036854775807 then some ⟨n, h.1, h.2⟩ else none

instance (n : Nat) : OfNat Amount n := ⟨clamp n⟩

instance : Neg Amount := ⟨fun a => clamp (-a.val)⟩

instance : Inhabited Amount := ⟨0⟩

def add (a b : Amount) : Amount := clamp (a.val + b.val)

def sub (a b : Amount) : Amount := clamp (a.val - b.val)

def mul (a b : Amount) : Amount := clamp (a.val * b.val)

/-- The amount that a text denotes. -/
def read? (s : String) : Option Amount :=
  (Text.integer? s).bind ofInt?

def ofUnits (n : UInt32) : Amount := clamp n.toNat

theorem val_clamp_of_mem {n : Int} (hleast : -9223372036854775808 ≤ n)
    (hgreatest : n ≤ 9223372036854775807) : (clamp n).val = n := by
  simp only [clamp]
  omega

theorem clamp_val (a : Amount) : clamp a.val = a := by
  apply ext
  have := a.least_le
  have := a.le_greatest
  simp only [clamp]
  omega

theorem ofInt?_val (a : Amount) : ofInt? a.val = some a := by
  simp [ofInt?, a.least_le, a.le_greatest]

theorem val_of_ofInt? {n : Int} {a : Amount} (h : ofInt? n = some a) : a.val = n := by
  unfold ofInt? at h
  split at h
  · cases h
    rfl
  · cases h

theorem ofInt?_eq_some_iff {n : Int} {a : Amount} : ofInt? n = some a ↔ a.val = n :=
  ⟨val_of_ofInt?, fun h => h ▸ ofInt?_val a⟩

theorem ofInt?_eq_none_of_lt {n : Int} (h : 9223372036854775807 < n) : ofInt? n = none :=
  dif_neg fun hmem => absurd hmem.2 (Int.not_le.mpr h)

theorem val_ofUnits (n : UInt32) : (ofUnits n).val = n.toNat := by
  have := n.toNat_lt
  simp only [ofUnits, clamp]
  omega

theorem val_add_nonneg {a b : Amount} (ha : 0 ≤ a.val) (hb : 0 ≤ b.val) :
    0 ≤ (a.add b).val := by
  simp only [add, clamp]
  omega

theorem val_ofUnits_nonneg (n : UInt32) : 0 ≤ (ofUnits n).val := by
  rw [val_ofUnits]
  exact Int.natCast_nonneg _

/-- Stopping at the ends of the range does not make a product of positive amounts vanish. -/
theorem val_mul_pos {a b : Amount} (ha : 0 < a.val) (hb : 0 < b.val) : 0 < (a.mul b).val := by
  have hproduct := Int.mul_pos ha hb
  simp only [mul, clamp]
  omega

theorem mul_ofUnits_zero (a : Amount) : a.mul (ofUnits 0) = 0 := by
  have hzero : (ofUnits 0).val = 0 := rfl
  rw [mul, hzero, Int.mul_zero]
  rfl

end Amount

end Allotment
