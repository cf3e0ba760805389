import Allotment.Proofs.Files.Soundness

/-!
# Removing files from a directory

The path of something that stands in a directory leads through the directory, whether the path of the
directory ends with a slash or not (`follow_names_join`), so what is removed by it is what stands there
under the name (`locate?_of_removeFile_join`). Files stand in nobody's way: where one is removed, every path
to something else leads where it led before (`locate?_remove`).
-/

namespace Allotment

namespace Path

theorem segments_append_slash (cs ds : List Char) :
    segments (cs ++ '/' :: ds) = segments cs ++ segments ds := by
  induction cs with
  | nil => rfl
  | cons c cs ih =>
      by_cases hc : c = '/'
      · subst hc
        simp [segments, ih]
      · obtain ⟨name, names, hcs, hcons⟩ := segments_cons hc cs
        obtain ⟨name', names', hcs', hcons'⟩ := segments_cons hc (cs ++ '/' :: ds)
        rw [ih, hcs] at hcs'
        rw [hcons, List.cons_append, hcons']
        cases hcs'
        rfl

theorem segments_of_notMem {cs : List Char} (h : '/' ∉ cs) : segments cs = [cs] := by
  induction cs with
  | nil => rfl
  | cons c cs ih =>
      obtain ⟨hc, hcs⟩ := not_or.mp (mt List.mem_cons.mpr h)
      obtain ⟨name, names, hsegments, hcons⟩ := segments_cons (Ne.symm hc) cs
      rw [ih hcs] at hsegments
      cases hsegments
      exact hcons

/-- A path into a directory begins where the path to the directory does. -/
theorem isAbsolute_append {base : String} (h : base ≠ "") (path : String) :
    isAbsolute (base ++ path) = isAbsolute base := by
  have hbase : base.toList ≠ [] := mt String.toList_eq_nil_iff.mp h
  rw [isAbsolute, isAbsolute, String.toList_append, List.head?_append_of_ne_nil _ hbase]

end Path

namespace FileTree

variable {t : FileTree} {directory path name : String} {place other : Location}

theorem IsPlain.step (h : IsPlain name) (place : Location) :
    step place name = name :: place := by
  obtain ⟨-, hempty, hdot, hdots⟩ := h
  simp [FileTree.step, hempty, hdot, hdots]

theorem IsPlain.not_isAbsolute (h : IsPlain name) :
    Path.isAbsolute name = false := by
  rw [Path.isAbsolute, beq_eq_false_iff_ne]
  exact fun hhead => h.1 (List.mem_of_mem_head? hhead)

/-! ## Following paths -/

theorem follow_nil (t : FileTree) (place : Location) :
    t.follow [] place = if (t.node? place).isSome then .ok place else .error .missing := rfl

theorem follow_cons (t : FileTree) (name : String) (names : List String) (place : Location) :
    t.follow (name :: names) place =
      match t.node? place with
      | none => .error .missing
      | some (.file _ _) => .error .blocked
      | some .directory =>
          if admitsName name then t.follow names (step place name) else .error .blocked := rfl

theorem follow_nil_eq_ok_iff :
    t.follow [] place = .ok other ↔ (t.node? place).isSome = true ∧ place = other := by
  rw [follow_nil]
  split
  · rename_i hnode
    rw [Except.ok.injEq, and_iff_right hnode]
  · rename_i hnode
    exact iff_of_false nofun fun h => hnode h.1

/-- A name leads on from a directory that can hold it, and from nothing else. -/
theorem follow_cons_eq_ok_iff {names : List String} :
    t.follow (name :: names) place = .ok other ↔
      t.node? place = some .directory ∧ admitsName name = true ∧
        t.follow names (step place name) = .ok other := by
  rw [follow_cons]
  cases t.node? place with
  | none => simp
  | some node =>
      cases node with
      | file text modified => simp
      | directory => by_cases hname : admitsName name = true <;> simp [hname]

theorem follow_append (t : FileTree) (names more : List String) (place : Location) :
    t.follow (names ++ more) place = (t.follow names place).bind (t.follow more) := by
  induction names generalizing place with
  | nil =>
      rw [List.nil_append, follow_nil]
      cases hnode : t.node? place with
      | some node => rfl
      | none =>
          cases more with
          | nil =>
              rw [follow_nil, hnode]
              rfl
          | cons name names =>
              rw [follow_cons, hnode]
              rfl
  | cons name names ih =>
      rw [List.cons_append, follow_cons, follow_cons]
      split
      · rfl
      · rfl
      · split
        · exact ih _
        · rfl

/-- A slash at the end of a path is one more name, which leads nowhere else. -/
theorem follow_empty_bind (t : FileTree) (name : String) (place : Location) :
    (t.follow [""] place).bind (t.follow [name]) = t.follow [name] place := by
  cases hnode : t.node? place with
  | none => simp [follow_cons, hnode, Except.bind]
  | some node =>
      cases node with
      | file text modified => simp [follow_cons, hnode, Except.bind]
      | directory =>
          have hadmits : admitsName "" = true := by decide
          simp [follow_cons, follow_nil, hnode, hadmits, FileTree.step, Except.bind]

theorem names_append_slash (base name : String) (h : '/' ∉ name.toList) :
    names (base ++ "/" ++ name) = names base ++ [name] := by
  simp [names, Path.segments_append_slash, Path.segments_of_notMem h]

/-- The path of something in a directory leads through the directory. -/
theorem follow_names_join (hdirectory : directory ≠ "") (hname : IsPlain name) (place : Location) :
    t.follow (names (Path.join directory name)) place =
      (t.follow (names directory) place).bind (t.follow [name]) := by
  rw [Path.join, hname.not_isAbsolute, Bool.false_or, decide_eq_false hdirectory,
    if_neg Bool.false_ne_true]
  split
  -- No slash is put between, and the one that ends the directory leaves an empty name before it.
  · rename_i hlast
    obtain ⟨cs, hcs⟩ := List.getLast?_eq_some_iff.mp hlast
    obtain rfl : directory = String.ofList cs ++ "/" := by
      rw [← String.toList_inj, hcs]
      simp
    have hnames : names (String.ofList cs ++ "/") = names (String.ofList cs) ++ [""] := by
      simpa using names_append_slash (String.ofList cs) "" (by simp)
    rw [names_append_slash _ _ hname.1, hnames, follow_append, follow_append]
    cases t.follow (names (String.ofList cs)) place with
    | error e => rfl
    | ok _ => exact (t.follow_empty_bind name _).symm
  · rw [names_append_slash _ _ hname.1, follow_append]

theorem start_join (hdirectory : directory ≠ "") (hname : IsPlain name) :
    t.start (Path.join directory name) = t.start directory := by
  rw [start, start, Path.join, hname.not_isAbsolute, Bool.false_or, decide_eq_false hdirectory,
    if_neg Bool.false_ne_true]
  split
  · rw [Path.isAbsolute_append hdirectory]
  · rw [String.append_assoc, Path.isAbsolute_append hdirectory]

theorem locate?_eq_some_iff :
    t.locate? path = some place ↔
      path ≠ "" ∧ admitsPath path = true ∧ t.follow (names path) (t.start path) = .ok place := by
  rw [locate?]
  cases hadmits : admitsPath path with
  | false => simp
  | true =>
      by_cases hempty : path = ""
      · simp [hempty]
      · cases t.follow (names path) (t.start path) <;> simp [hempty, Except.toOption]

/-- What a name in a directory leads to is what stands there under the name. -/
theorem eq_of_locate?_join (hdirectory : t.locate? directory = some place) (hname : IsPlain name)
    (h : t.locate? (Path.join directory name) = some other) : other = name :: place := by
  obtain ⟨hne, -, hfollow⟩ := locate?_eq_some_iff.mp hdirectory
  obtain ⟨-, -, hjoin⟩ := locate?_eq_some_iff.mp h
  rw [start_join hne hname, follow_names_join hne hname, hfollow] at hjoin
  obtain ⟨-, -, hlast⟩ := follow_cons_eq_ok_iff.mp hjoin
  rw [hname.step, follow_nil_eq_ok_iff] at hlast
  exact hlast.2.symm

/-! ## Removing -/

theorem node?_remove (h : place ≠ other) : (t.remove other).node? place = t.node? place := by
  cases place with
  | nil => rfl
  | cons name above =>
      simp only [node?, remove, List.find?_filter]
      refine congrArg _ (congrArg (List.find? · t.nodes) (funext fun node => ?_))
      by_cases hnode : node.1 = name :: above
      · simp [hnode, h]
      · simp [hnode]

/-- A way that does not end in what is removed is not cut, since files stand in no way. -/
theorem follow_remove {names : List String} {start : Location}
    (hother : t.isDirectory other = false) (h : t.follow names start = .ok place)
    (hne : place ≠ other) : (t.remove other).follow names start = .ok place := by
  induction names generalizing start with
  | nil =>
      obtain ⟨hnode, rfl⟩ := follow_nil_eq_ok_iff.mp h
      rw [← node?_remove hne] at hnode
      exact follow_nil_eq_ok_iff.mpr ⟨hnode, rfl⟩
  | cons name names ih =>
      obtain ⟨hnode, hname, hfollow⟩ := follow_cons_eq_ok_iff.mp h
      have hstart : start ≠ other := by
        rintro rfl
        simp [isDirectory, hnode] at hother
      have hkept : (t.remove other).node? start = some .directory :=
        (node?_remove hstart).trans hnode
      exact follow_cons_eq_ok_iff.mpr ⟨hkept, hname, ih hfollow⟩

theorem locate?_remove (hother : t.isDirectory other = false) (h : t.locate? path = some place)
    (hne : place ≠ other) : (t.remove other).locate? path = some place := by
  obtain ⟨hpath, hadmits, hfollow⟩ := locate?_eq_some_iff.mp h
  exact locate?_eq_some_iff.mpr ⟨hpath, hadmits, follow_remove hother hfollow hne⟩

/-- A file stands in the place. -/
def HoldsFile (t : FileTree) (place : Location) : Prop :=
  ∃ text modified, t.node? place = some (.file text modified)

theorem HoldsFile.not_isDirectory (h : t.HoldsFile place) : t.isDirectory place = false := by
  obtain ⟨text, modified, hnode⟩ := h
  simp [isDirectory, hnode]

theorem HoldsFile.remove (h : t.HoldsFile place) (hne : place ≠ other) :
    (t.remove other).HoldsFile place := by
  rwa [HoldsFile, node?_remove hne]

theorem removeFile_of_holdsFile (hplace : t.locate? path = some place) (hfile : t.HoldsFile place) :
    t.removeFile path = (true, t.remove place) := by
  obtain ⟨text, modified, hnode⟩ := hfile
  simp [removeFile, hplace, hnode]

/-- What can be removed from a directory under a name is the file that stands there under the name. -/
theorem locate?_of_removeFile_join (hdirectory : t.locate? directory = some place)
    (hname : IsPlain name) (h : (t.removeFile (Path.join directory name)).1 = true) :
    t.locate? (Path.join directory name) = some (name :: place) ∧ t.HoldsFile (name :: place) := by
  rw [removeFile] at h
  split at h
  · rename_i found hfound
    obtain rfl := eq_of_locate?_join hdirectory hname hfound
    refine ⟨hfound, ?_⟩
    split at h
    · exact ⟨_, _, ‹_›⟩
    · cases h
  · cases h

/-- The tree without what stands in some places. -/
def without (t : FileTree) (places : List Location) : FileTree :=
  { t with nodes := t.nodes.filter fun node => node.1 ∉ places }

theorem without_nil (t : FileTree) : t.without [] = t := by
  simp [without]

theorem without_remove (t : FileTree) (place : Location) (places : List Location) :
    (t.remove place).without places = t.without (place :: places) := by
  simp only [without, remove, List.filter_filter]
  congr 2
  funext node
  rw [Bool.eq_iff_iff]
  simp [and_comm]

end FileTree

end Allotment
