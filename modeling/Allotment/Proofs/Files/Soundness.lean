import Allotment.Files
import Mathlib.Data.List.Basic

/-!
# Sound file trees

A tree is sound if it is one that a disk could hold: no two things stand in one place, and the names that
lead to them are such as a directory can give. An empty working directory is sound, and so it stays when
files are written into it (`sound_empty`, `Sound.write`), since what stands between two slashes holds none.
-/

namespace Allotment

namespace Path

theorem segments_ne_nil (cs : List Char) : segments cs ≠ [] := by
  fun_cases segments cs <;> simp [*]

theorem segments_cons {c : Char} (h : c ≠ '/') (cs : List Char) :
    ∃ name names, segments cs = name :: names ∧ segments (c :: cs) = (c :: name) :: names := by
  obtain ⟨name, names, hsegments⟩ := List.exists_cons_of_ne_nil (segments_ne_nil cs)
  refine ⟨name, names, hsegments, ?_⟩
  simp [segments, hsegments]

theorem slash_notMem_of_mem_segments {cs name : List Char} (h : name ∈ segments cs) :
    '/' ∉ name := by
  induction cs generalizing name with
  | nil =>
      obtain rfl := List.mem_singleton.mp h
      exact List.not_mem_nil
  | cons c cs ih =>
      by_cases hc : c = '/'
      · subst hc
        rcases List.mem_cons.mp h with rfl | h
        · exact List.not_mem_nil
        · exact ih h
      · obtain ⟨first, others, hcs, hcons⟩ := segments_cons hc cs
        rw [hcs] at ih
        rw [hcons] at h
        rcases List.mem_cons.mp h with rfl | h
        · rw [List.mem_cons, not_or]
          exact ⟨Ne.symm hc, ih List.mem_cons_self⟩
        · exact ih (List.mem_cons_of_mem _ h)

end Path

namespace FileTree

/-- A name under which something can stand in a directory. -/
def IsPlain (name : String) : Prop := '/' ∉ name.toList ∧ name ≠ "" ∧ name ≠ "." ∧ name ≠ ".."

instance (name : String) : Decidable (IsPlain name) :=
  inferInstanceAs (Decidable ('/' ∉ name.toList ∧ name ≠ "" ∧ name ≠ "." ∧ name ≠ ".."))

/-- A place where something can stand. -/
def IsPlace (place : Location) : Prop := ∀ name ∈ place, IsPlain name

/-- No two things stand in one place, and all places are such that something can stand there. -/
structure Sound (t : FileTree) : Prop where
  nodup : (t.nodes.map (·.1)).Nodup
  isPlace : ∀ node ∈ t.nodes, IsPlace node.1
  current : IsPlace t.current

variable {t : FileTree} {path name : String} {place : Location}

theorem sound_empty {current : String} (h : IsPlain current) (clock : Int) :
    (empty current clock).Sound where
  nodup := by simp [empty]
  isPlace := by simpa [empty, IsPlace] using h
  current := by simpa [empty, IsPlace] using h

theorem Sound.put (h : t.Sound) (hplace : IsPlace place) (node : FileNode) :
    (t.put place node).Sound where
  nodup := by
    rw [FileTree.put, List.map_cons, List.nodup_cons]
    exact ⟨by simp, h.nodup.sublist (List.filter_sublist.map _)⟩
  isPlace := by
    simp only [FileTree.put, List.forall_mem_cons]
    exact ⟨hplace, fun node hnode => h.isPlace node (List.mem_filter.mp hnode).1⟩
  current := h.current

theorem IsPlace.step (hplace : IsPlace place) (hname : '/' ∉ name.toList) :
    IsPlace (step place name) := by
  unfold FileTree.step
  split
  · exact hplace
  · split
    · exact fun n hn => hplace n (List.mem_of_mem_drop hn)
    · rename_i hidle hup
      rw [not_or] at hidle
      exact List.forall_mem_cons.mpr ⟨⟨hname, hidle.1, hidle.2, hup⟩, hplace⟩

theorem slash_notMem_of_mem_names (h : name ∈ names path) : '/' ∉ name.toList := by
  obtain ⟨cs, hcs, rfl⟩ := List.mem_map.mp h
  rw [String.toList_ofList]
  exact Path.slash_notMem_of_mem_segments hcs

/-- Directories that are made on the way have plain names. -/
theorem Sound.makeWay {names : List String} {made : FileTree} {start : Location} (h : t.Sound)
    (hnames : ∀ name ∈ names, '/' ∉ name.toList) (hstart : IsPlace start)
    (hmade : t.makeWay names start = some (made, place)) : made.Sound ∧ IsPlace place := by
  induction names generalizing t start with
  | nil =>
      cases hmade
      exact ⟨h, hstart⟩
  | cons name names ih =>
      rw [List.forall_mem_cons] at hnames
      have hnext := hstart.step hnames.1
      simp only [FileTree.makeWay] at hmade
      split at hmade
      · exact ih h hnames.2 hnext hmade
      · cases hmade
      · split at hmade
        · exact ih (h.put hnext _) hnames.2 hnext hmade
        · cases hmade

/-- A tree that files are written into stays sound. -/
theorem Sound.write (h : t.Sound) (path text : String) (modified : Int) :
    (t.write path text modified).Sound := by
  have hstart : IsPlace (t.start path) := by
    unfold FileTree.start
    split
    · exact fun _ h => absurd h List.not_mem_nil
    · exact h.current
  have hnames : ∀ name ∈ FileTree.names path, '/' ∉ name.toList :=
    fun _ => slash_notMem_of_mem_names
  simp only [FileTree.write]
  split
  · rename_i made place hmade
    obtain ⟨hsound, hplace⟩ :=
      h.makeWay (fun name hname => hnames name (List.dropLast_subset _ hname)) hstart hmade
    refine hsound.put (hplace.step ?_) _
    cases hlast : (FileTree.names path).getLast? with
    | none => simp
    | some name => exact hnames name (List.mem_of_getLast? hlast)
  · exact h

end FileTree

end Allotment
