import Allotment.Document.Fields
import Allotment.Proofs.Document.JsonReading

/-!
# Documents without large or broken numbers

Plain documents are those whose texts are read back. What is written of lists, tables and amounts is
plain if the values in it are. A plain document that is not too deep may also be read by a reader
that keeps everything.
-/

namespace Allotment.Document

theorem arePlain_iff {items : List Document} :
    arePlain items = true ↔ ∀ d ∈ items, d.isPlain = true := by
  induction items with
  | nil => simp [arePlain]
  | cons d ds ih => rw [arePlain, Bool.and_eq_true, ih, List.forall_mem_cons]

theorem havePlain_iff {members : List (String × Document)} :
    havePlain members = true ↔ ∀ m ∈ members, m.2.isPlain = true := by
  induction members with
  | nil => simp [havePlain]
  | cons m ms ih => rw [havePlain, Bool.and_eq_true, ih, List.forall_mem_cons]

/-! ## Written values -/

variable {α : Type} {write : α → Document}

theorem isPlain_ofList (h : ∀ a, (write a).isPlain = true) (as : List α) :
    (ofList write as).isPlain = true :=
  arePlain_iff.mpr (List.forall_mem_map.mpr fun a _ => h a)

theorem isPlain_ofNullable (h : ∀ a, (write a).isPlain = true) (a : Option α) :
    (ofNullable write a).isPlain = true := by
  cases a with
  | none => rfl
  | some a => exact h a

theorem isPlain_ofTable (h : ∀ a, (write a).isPlain = true) (t : Table α) :
    (ofTable write t).isPlain = true :=
  havePlain_iff.mpr (List.forall_mem_map.mpr fun e _ => h e.2)

@[simp] theorem isPlain_text (s : String) : (text s).isPlain = true := rfl

@[simp] theorem isPlain_ofTexts (t : Table String) : (ofTexts t).isPlain = true :=
  isPlain_ofTable isPlain_text t

@[simp] theorem isPlain_ofNames (s : NameSet) : (ofNames s).isPlain = true :=
  isPlain_ofList isPlain_text s.toList

@[simp] theorem isPlain_ofNullable_text (s : Option String) :
    (ofNullable text s).isPlain = true :=
  isPlain_ofNullable isPlain_text s

@[simp] theorem isPlain_ofAmount (a : Amount) : (ofAmount a).isPlain = true := by
  simp [ofAmount, isPlain, a.least_le, a.le_greatest]

@[simp] theorem isPlain_ofUnits (n : UInt32) : (ofUnits n).isPlain = true := by
  have hlt := n.toNat_lt
  simp only [ofUnits, isPlain, Bool.and_eq_true, decide_eq_true_eq]
  omega

/-! ## Keeping everything -/

mutual
theorem isLegible_of_isPlain (d : Document) (h : d.isPlain = true) : d.isLegible = true := by
  cases d with
  | list items => exact areLegible_of_arePlain items h
  | record members => exact haveLegible_of_havePlain members h
  | illegible => cases h
  | _ => rfl
termination_by structural d
theorem areLegible_of_arePlain (items : List Document) (h : arePlain items = true) :
    areLegible items = true := by
  cases items with
  | nil => rfl
  | cons d ds =>
      obtain ⟨hfirst, hrest⟩ := Bool.and_eq_true_iff.mp h
      exact Bool.and_eq_true_iff.mpr
        ⟨isLegible_of_isPlain d hfirst, areLegible_of_arePlain ds hrest⟩
termination_by structural items
theorem haveLegible_of_havePlain (members : List (String × Document))
    (h : havePlain members = true) : haveLegible members = true := by
  cases members with
  | nil => rfl
  | cons m ms =>
      obtain ⟨name, d⟩ := m
      obtain ⟨hfirst, hrest⟩ := Bool.and_eq_true_iff.mp h
      exact Bool.and_eq_true_iff.mpr
        ⟨isLegible_of_isPlain d hfirst, haveLegible_of_havePlain ms hrest⟩
termination_by structural members
end

theorem depth_list_le {items : List Document} {n : Nat} (h : ∀ d ∈ items, d.depth ≤ n) :
    (list items).depth ≤ n + 1 := by
  rw [depth]
  induction items with
  | nil => exact Nat.succ_le_succ (Nat.zero_le n)
  | cons d ds ih =>
      obtain ⟨hfirst, hrest⟩ := List.forall_mem_cons.mp h
      have hlater := ih hrest
      rw [depthOfItems]
      omega

theorem depth_record_le {members : List (String × Document)} {n : Nat}
    (h : ∀ m ∈ members, m.2.depth ≤ n) : (record members).depth ≤ n + 1 := by
  rw [depth]
  induction members with
  | nil => exact Nat.succ_le_succ (Nat.zero_le n)
  | cons m ms ih =>
      obtain ⟨hfirst, hrest⟩ := List.forall_mem_cons.mp h
      have hlater := ih hrest
      rw [depthOfMembers]
      omega

theorem depth_ofList_le {n : Nat} (h : ∀ a, (write a).depth ≤ n) (as : List α) :
    (ofList write as).depth ≤ n + 1 :=
  depth_list_le (List.forall_mem_map.mpr fun a _ => h a)

theorem ofJsonWhole?_of_isPlain {d : Document} (hplain : d.isPlain = true)
    (hdepth : d.depth ≤ maxDepth) {s : String} (hread : ofJson? s = some d) :
    ofJsonWhole? s = some d := by
  rw [ofJsonWhole?, hread]
  simp [isLegible_of_isPlain d hplain, hdepth]

end Allotment.Document
