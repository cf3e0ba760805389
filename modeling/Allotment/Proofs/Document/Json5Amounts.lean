import Allotment.Document.Json5
import Allotment.Proofs.Document.Records

/-!
# The whole numbers that JSON5 gives

A whole number is read only within the range of amounts, so everything that is read from JSON5
holds amounts and no other whole numbers (`orderly_of_ofJson5?`).
-/

namespace Allotment.Document

namespace Json5

theorem holdsAmounts_integer {n : Int} (hleast : -9223372036854775808 ≤ n)
    (hgreatest : n ≤ 9223372036854775807) : HoldsAmounts (integer n) :=
  .integer ⟨n, hleast, hgreatest⟩

theorem holdsAmounts_wholeOf? {sign : Sign} {digits : List Char} {d : Document}
    (h : wholeOf? sign digits = some d) : HoldsAmounts d := by
  obtain ⟨⟨hleast, hlt⟩, hd⟩ := Option.ite_none_right_eq_some.mp h
  cases hd
  exact holdsAmounts_integer hleast (Int.le_of_lt_add_one hlt)

theorem holdsAmounts_realOf? {sign : Sign} {whole fraction : List Char} {exponent : Int}
    {d : Document} (h : realOf? sign whole fraction exponent = some d) : HoldsAmounts d := by
  obtain ⟨x, -, rfl⟩ := Option.map_eq_some_iff.mp h
  exact .real x

theorem holdsAmounts_hexOf? {sign : Sign} {digits : List Char} {d : Document}
    (h : hexOf? sign digits = some d) : HoldsAmounts d := by
  unfold hexOf? at h
  split at h
  · rename_i n _
    split at h
    · rename_i hlt
      cases h
      have hlt : n < 4294967296 := hlt
      exact holdsAmounts_integer (by omega) (by omega)
    · cases h
  · cases h

/-- The first part of a result that is paired with a rest. -/
theorem exists_of_map_pair {result : Option Document} {rest after : List Char} {d : Document}
    (h : result.map (·, rest) = some (d, after)) : result = some d := by
  obtain ⟨value, hvalue, hpair⟩ := Option.map_eq_some_iff.mp h
  cases hpair
  exact hvalue

theorem holdsAmounts_takeDecimal {sign : Sign} {cs rest : List Char} {d : Document}
    (h : takeDecimal sign cs = some (d, rest)) : HoldsAmounts d := by
  unfold takeDecimal at h
  dsimp only at h
  split at h
  · cases h
  · split at h
    · split at h
      · cases h
      · exact holdsAmounts_realOf? (exists_of_map_pair h)
    · split at h
      · cases h
      · split at h
        · exact holdsAmounts_realOf? (exists_of_map_pair h)
        · exact holdsAmounts_wholeOf? (exists_of_map_pair h)

theorem holdsAmounts_takeUnsigned {sign : Sign} {cs rest : List Char} {d : Document}
    (h : takeUnsigned sign cs = some (d, rest)) : HoldsAmounts d := by
  unfold takeUnsigned at h
  split at h
  · split at h
    · cases h
    · cases h
      exact .null
  · split at h
    · cases h
    · cases h
      exact .null
  · dsimp only at h
    split at h
    · cases h
    · exact holdsAmounts_hexOf? (exists_of_map_pair h)
  · dsimp only at h
    split at h
    · cases h
    · exact holdsAmounts_hexOf? (exists_of_map_pair h)
  · exact holdsAmounts_takeDecimal h

theorem holdsAmounts_takeNumber {cs rest : List Char} {d : Document}
    (h : takeNumber cs = some (d, rest)) : HoldsAmounts d := by
  unfold takeNumber at h
  split at h <;> exact holdsAmounts_takeUnsigned h

theorem holdsAmounts_takeLeaf {cs rest : List Char} {d : Document}
    (h : takeLeaf cs = some (d, rest)) : HoldsAmounts d := by
  unfold takeLeaf at h
  split at h
  · cases h
    exact .null
  · cases h
    exact .bool true
  · cases h
    exact .bool false
  · obtain ⟨r, -, hr⟩ := Option.map_eq_some_iff.mp h
    cases hr
    exact .text _
  · obtain ⟨r, -, hr⟩ := Option.map_eq_some_iff.mp h
    cases hr
    exact .text _
  · exact holdsAmounts_takeNumber h

/-- The values that are read within so many steps hold amounts. -/
def ValuesHoldAmounts (steps : Nat) : Prop :=
  ∀ {cs d rest}, takeValue steps cs = some (d, rest) → HoldsAmounts d

/-- So do the items of lists. -/
def ItemsHoldAmounts (steps : Nat) : Prop :=
  ∀ {cs items rest}, takeItems steps cs = some (items, rest) → ∀ d ∈ items, HoldsAmounts d

/-- So do the members of records. -/
def MembersHoldAmounts (steps : Nat) : Prop :=
  ∀ {cs members rest}, takeMembers steps cs = some (members, rest) →
    ∀ m ∈ members, HoldsAmounts m.2

section
variable {steps : Nat}

theorem valuesHoldAmounts_succ (hitems : ItemsHoldAmounts steps)
    (hmembers : MembersHoldAmounts steps) : ValuesHoldAmounts (steps + 1) := by
  intro cs d rest h
  unfold takeValue at h
  split at h
  · cases h
  · rename_i heq
    cases heq
    obtain ⟨inner, -, h⟩ := Option.bind_eq_some_iff.mp h
    split at h
    · cases h
      exact .list fun d hd => nomatch hd
    · obtain ⟨r, hr, hpair⟩ := Option.map_eq_some_iff.mp h
      cases hpair
      exact .list (hitems hr)
  · rename_i heq
    cases heq
    obtain ⟨inner, -, h⟩ := Option.bind_eq_some_iff.mp h
    split at h
    · cases h
      exact .record fun m hm => nomatch hm
    · obtain ⟨r, hr, hpair⟩ := Option.map_eq_some_iff.mp h
      cases hpair
      exact .record (hmembers hr)
  · exact holdsAmounts_takeLeaf h

theorem itemsHoldAmounts_succ (hvalues : ValuesHoldAmounts steps)
    (hitems : ItemsHoldAmounts steps) : ItemsHoldAmounts (steps + 1) := by
  intro cs items rest h
  unfold takeItems at h
  obtain ⟨⟨item, afterItem⟩, hitem, h⟩ := Option.bind_eq_some_iff.mp h
  obtain ⟨next, -, h⟩ := Option.bind_eq_some_iff.mp h
  have hfirst : HoldsAmounts item := hvalues hitem
  split at h
  · cases h
    exact List.forall_mem_singleton.mpr hfirst
  · obtain ⟨following, -, h⟩ := Option.bind_eq_some_iff.mp h
    split at h
    · cases h
      exact List.forall_mem_singleton.mpr hfirst
    · obtain ⟨r, hr, hpair⟩ := Option.map_eq_some_iff.mp h
      cases hpair
      exact List.forall_mem_cons.mpr ⟨hfirst, hitems hr⟩
  · cases h

theorem membersHoldAmounts_succ (hvalues : ValuesHoldAmounts steps)
    (hmembers : MembersHoldAmounts steps) : MembersHoldAmounts (steps + 1) := by
  intro cs members rest h
  unfold takeMembers at h
  obtain ⟨⟨name, afterName⟩, -, h⟩ := Option.bind_eq_some_iff.mp h
  obtain ⟨afterColon, -, h⟩ := Option.bind_eq_some_iff.mp h
  obtain ⟨⟨value, afterValue⟩, hread, h⟩ := Option.bind_eq_some_iff.mp h
  obtain ⟨next, -, h⟩ := Option.bind_eq_some_iff.mp h
  have hfirst : HoldsAmounts value := hvalues hread
  split at h
  · cases h
    exact List.forall_mem_singleton.mpr hfirst
  · obtain ⟨following, -, h⟩ := Option.bind_eq_some_iff.mp h
    split at h
    · cases h
      exact List.forall_mem_singleton.mpr hfirst
    · obtain ⟨r, hr, hpair⟩ := Option.map_eq_some_iff.mp h
      cases hpair
      exact List.forall_mem_cons.mpr ⟨hfirst, hmembers hr⟩
  · cases h

end

/-- By induction on the steps all that is read holds amounts. -/
theorem holdAmounts (steps : Nat) :
    ValuesHoldAmounts steps ∧ ItemsHoldAmounts steps ∧ MembersHoldAmounts steps := by
  induction steps with
  | zero =>
      refine ⟨?_, ?_, ?_⟩
      · intro cs d rest h
        cases h
      · intro cs items rest h
        cases h
      · intro cs members rest h
        cases h
  | succ steps ih =>
      obtain ⟨hvalues, hitems, hmembers⟩ := ih
      exact ⟨valuesHoldAmounts_succ hitems hmembers, itemsHoldAmounts_succ hvalues hitems,
        membersHoldAmounts_succ hvalues hmembers⟩

end Json5

/-- What is read from JSON5 is in order, and its whole numbers are amounts. -/
theorem orderly_of_ofJson5? {s : String} {d : Document} (h : ofJson5? s = some d) :
    Orderly d := by
  obtain ⟨cs, -, h⟩ := Option.bind_eq_some_iff.mp h
  obtain ⟨⟨value, rest⟩, hvalue, h⟩ := Option.bind_eq_some_iff.mp h
  obtain ⟨after, -, h⟩ := Option.bind_eq_some_iff.mp h
  split at h
  · cases h
    exact ((Json5.holdAmounts _).1 hvalue).orderly
  · cases h

end Allotment.Document
