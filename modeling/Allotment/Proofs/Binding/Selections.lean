import Allotment.Binding

/-!
# Following the selections of a policy

The selections of a policy are walked from the left, and the ids met so far are remembered. The
walk comes to draws exactly if the selections are `Followable`, which says nothing of an order:
no id stands twice, and every candidate is given a quantity that can be drawn. The draws are then
the `takings`, and every other walk ends in an error of one kind.
-/

namespace Allotment

/-- What a draw takes: the pool, and the quantity as a whole number. -/
def Draw.taken (draw : Draw) : Pool × Int := (draw.pool, draw.quantity.toNat)

namespace Binding

/-- The quantities that can be drawn: at least one, and within 32 bits. -/
def Drawable (quantity : Amount) : Prop := 1 ≤ quantity.val ∧ quantity.val ≤ 4294967295

theorem drawable_iff {quantity : Amount} :
    Drawable quantity ↔ 0 < quantity.val ∧ quantity.val < UInt32.size := by
  simp only [Drawable, UInt32.size]
  omega

theorem toNat_ofNat_of_drawable {quantity : Amount} (h : Drawable quantity) :
    (UInt32.ofNat quantity.val.toNat).toNat = quantity.val.toNat := by
  obtain ⟨hone, hle⟩ := h
  exact UInt32.toNat_ofNat_of_lt (by simp only [UInt32.size]; omega)

theorem taken_of_drawOf? {pool : Pool} {quantity : Amount} {draw : Draw}
    (h : drawOf? pool quantity = some draw) :
    Drawable quantity ∧ draw.taken = (pool, quantity.val) := by
  unfold drawOf? at h
  split at h
  · rename_i hrange
    have hq := drawable_iff.mpr hrange
    refine ⟨hq, ?_⟩
    unfold Draw.of? at h
    split at h
    · cases h
      simp only [Draw.taken, toNat_ofNat_of_drawable hq]
      rw [Int.toNat_of_nonneg (Int.le_of_lt hrange.1)]
    · cases h
  · cases h

theorem not_drawable_of_drawOf? {pool : Pool} {quantity : Amount}
    (h : drawOf? pool quantity = none) : ¬ Drawable quantity := by
  intro hq
  have hpos : 0 < UInt32.ofNat quantity.val.toNat := by
    rw [UInt32.lt_iff_toNat_lt, toNat_ofNat_of_drawable hq, UInt32.toNat_zero]
    have hone := hq.1
    omega
  rw [drawOf?, if_pos (drawable_iff.mp hq), Draw.of?, dif_pos hpos] at h
  cases h

/-- The selections can be followed after others of the ids in `seen`: no id stands a second time,
and every candidate is given a quantity that can be drawn. -/
structure Followable (candidates : Table Pool) (seen : List String)
    (selections : List Selection) : Prop where
  nodup : (selections.map (·.poolId)).Nodup
  fresh : ∀ s ∈ selections, s.poolId ∉ seen
  drawable : ∀ s ∈ selections, (candidates.get? s.poolId).isSome → Drawable s.quantity

/-- What the selections take from the candidates; those of other pools take nothing. -/
def takings (candidates : Table Pool) (selections : List Selection) : List (Pool × Int) :=
  selections.filterMap fun s => (candidates.get? s.poolId).map fun pool => (pool, s.quantity.val)

variable {candidates : Table Pool} {seen : List String} {selections : List Selection}

theorem followable_nil : Followable candidates seen [] :=
  ⟨List.nodup_nil, by simp, by simp⟩

theorem followable_cons_iff {s : Selection} :
    Followable candidates seen (s :: selections) ↔
      s.poolId ∉ seen ∧ ((candidates.get? s.poolId).isSome → Drawable s.quantity) ∧
        Followable candidates (s.poolId :: seen) selections := by
  constructor
  · rintro ⟨hnodup, hfresh, hdrawable⟩
    rw [List.map_cons, List.nodup_cons] at hnodup
    refine ⟨hfresh s List.mem_cons_self, hdrawable s List.mem_cons_self, hnodup.2, ?_, ?_⟩
    · intro t ht hmem
      rcases List.mem_cons.mp hmem with heq | hmem
      · exact hnodup.1 (heq ▸ List.mem_map_of_mem ht)
      · exact hfresh t (List.mem_cons_of_mem _ ht) hmem
    · exact fun t ht => hdrawable t (List.mem_cons_of_mem _ ht)
  · rintro ⟨hs, hq, hnodup, hfresh, hdrawable⟩
    refine ⟨?_, ?_, ?_⟩
    · rw [List.map_cons, List.nodup_cons]
      refine ⟨fun hmem => ?_, hnodup⟩
      obtain ⟨t, ht, heq⟩ := List.mem_map.mp hmem
      exact hfresh t ht (heq ▸ List.mem_cons_self)
    · intro t ht
      rcases List.mem_cons.mp ht with rfl | ht
      · exact hs
      · exact fun hmem => hfresh t ht (List.mem_cons_of_mem _ hmem)
    · intro t ht
      rcases List.mem_cons.mp ht with rfl | ht
      · exact hq
      · exact hdrawable t ht

/-- A walk that comes to draws followed all selections, and they take what the selections say. -/
theorem followable_of_drawsFrom {draws : List Draw}
    (h : drawsFrom candidates seen selections = .ok draws) :
    Followable candidates seen selections ∧
      draws.map Draw.taken = takings candidates selections := by
  induction selections generalizing seen draws with
  | nil =>
      cases h
      exact ⟨followable_nil, rfl⟩
  | cons s rest ih =>
      unfold drawsFrom at h
      rw [followable_cons_iff, takings, List.filterMap_cons, ← takings]
      split at h
      · cases h
      · rename_i hseen
        have hnew : s.poolId ∉ seen := by simpa using hseen
        split at h
        · rename_i hnone
          obtain ⟨hrest, htaken⟩ := ih h
          exact ⟨⟨hnew, by simp [hnone], hrest⟩, by simpa [hnone] using htaken⟩
        · rename_i pool hpool
          split at h
          · cases h
          · rename_i draw hdraw
            obtain ⟨hquantity, htake⟩ := taken_of_drawOf? hdraw
            split at h
            · rename_i later hlater
              cases h
              obtain ⟨hrest, htaken⟩ := ih hlater
              exact ⟨⟨hnew, fun _ => hquantity, hrest⟩, by simpa [hpool, htake] using htaken⟩
            · cases h

/-- A walk that ends in an error met a selection that cannot be followed. -/
theorem not_followable_of_drawsFrom {e : BindingError}
    (h : drawsFrom candidates seen selections = .error e) :
    ¬ Followable candidates seen selections ∧ e.kind = "invalid_policy_output" := by
  induction selections generalizing seen with
  | nil => cases h
  | cons s rest ih =>
      unfold drawsFrom at h
      rw [followable_cons_iff]
      split at h
      · rename_i hseen
        cases h
        exact ⟨fun hf => hf.1 (by simpa using hseen), rfl⟩
      · split at h
        · obtain ⟨hrest, hkind⟩ := ih h
          exact ⟨fun hf => hrest hf.2.2, hkind⟩
        · rename_i pool hpool
          split at h
          · rename_i hdraw
            cases h
            exact ⟨fun hf => not_drawable_of_drawOf? hdraw (hf.2.1 (by simp [hpool])), rfl⟩
          · split at h
            · cases h
            · rename_i hlater
              cases h
              obtain ⟨hrest, hkind⟩ := ih hlater
              exact ⟨fun hf => hrest hf.2.2, hkind⟩

end Binding

end Allotment
