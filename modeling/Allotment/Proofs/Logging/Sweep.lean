import Allotment.Logging.Retention
import Allotment.Proofs.Files.Removal
import Mathlib.Data.List.Count
import Mathlib.Data.List.Nodup

/-!
# What a sweep removes

A sweep lists the log directory once and removes what has expired, one file after the other. No removal
gets into another one's way, so the tree that is left is the tree without the expired logs, and the count
is theirs (`sweep_eq_clear`). Expired are the logs that are as old as the retention says, as long as the
clock can tell the time at which it began. Where it began before that, nothing can be so old, but the
cutoff falls back to a time that logs can be older than (`sweep_removes_old_logs`,
`sweep_beyond_the_clock`).
-/

namespace Allotment.Retention

open FileTree

variable {t : FileTree} {directory : String} {place : Location} {days : UInt64}
  {entries : List DirectoryEntry}

/-! ## One removal after the other -/

theorem removeAll_cons (entry : DirectoryEntry) (t : FileTree) :
    (removeAll directory (entry :: entries) : StateM FileTree Nat) t =
      let removal := t.removeFile (Path.join directory entry.name)
      let others := (removeAll directory entries : StateM FileTree Nat) removal.2
      (if removal.1 then others.1 + 1 else others.1, others.2) := by
  rw [removeAll]
  rfl

/-- Files that can be removed each by itself can be removed one after the other. -/
theorem removeAll_eq (hdirectory : t.locate? directory = some place)
    (hplain : ∀ entry ∈ entries, IsPlain entry.name) (hnodup : (entries.map (·.name)).Nodup)
    (hremovable : ∀ entry ∈ entries,
      (t.removeFile (Path.join directory entry.name)).1 = true) :
    (removeAll directory entries : StateM FileTree Nat) t =
      (entries.length, t.without (entries.map fun entry => entry.name :: place)) := by
  induction entries generalizing t with
  | nil =>
      rw [List.map_nil, without_nil]
      rfl
  | cons entry entries ih =>
      rw [List.forall_mem_cons] at hplain hremovable
      rw [List.map_cons, List.nodup_cons] at hnodup
      obtain ⟨hfound, hfile⟩ := locate?_of_removeFile_join hdirectory hplain.1 hremovable.1
      have hother := hfile.not_isDirectory
      -- The others are removed from the tree that this removal leaves, where they all still stand.
      have hlater : ∀ later ∈ entries, ((t.remove (entry.name :: place)).removeFile
          (Path.join directory later.name)).1 = true := by
        intro later hlater
        obtain ⟨hfound', hfile'⟩ := locate?_of_removeFile_join hdirectory (hplain.2 later hlater)
          (hremovable.2 later hlater)
        have hne : later.name :: place ≠ entry.name :: place := by
          intro h
          rw [← (List.cons.inj h).1] at hnodup
          exact hnodup.1 (List.mem_map_of_mem hlater)
        rw [removeFile_of_holdsFile (locate?_remove hother hfound' hne) (hfile'.remove hne)]
      have hrun := ih (locate?_remove hother hdirectory List.ne_cons_self) hplain.2 hnodup.2 hlater
      rw [removeAll_cons, removeFile_of_holdsFile hfound hfile, List.map_cons, ← without_remove]
      simp [hrun]

/-! ## Logs in a directory -/

/-- A regular file that stands directly in the directory, is called like a log, and was last changed at
one of the given times. -/
def isLog (place : Location) (old : Int → Bool) : Location × FileNode → Bool
  | (name :: above, .file _ modified) =>
      above == place && logName.toList.isPrefixOf name.toList && old modified
  | _ => false

theorem isLog_iff {old : Int → Bool} {node : Location × FileNode} :
    isLog place old node = true ↔ ∃ name text modified, node = (name :: place, .file text modified) ∧
      logName.toList.isPrefixOf name.toList = true ∧ old modified = true := by
  obtain ⟨_ | ⟨name, above⟩, _ | ⟨text, modified⟩⟩ := node
  · simp [isLog]
  · simp [isLog]
  · simp [isLog]
  · constructor
    · intro h
      simp only [isLog, Bool.and_eq_true, beq_iff_eq] at h
      obtain ⟨⟨rfl, hname⟩, hold⟩ := h
      exact ⟨name, text, modified, rfl, hname, hold⟩
    · rintro ⟨_, _, _, ⟨⟩, hname, hold⟩
      simp only [isLog, hname, hold, BEq.rfl, Bool.and_self]

/-- How many of the nodes go, and the tree without them. -/
def clear (t : FileTree) (goes : Location × FileNode → Bool) : Nat × FileTree :=
  (t.nodes.countP goes, { t with nodes := t.nodes.filter fun node => !goes node })

theorem clear_congr {goes goes' : Location × FileNode → Bool}
    (h : ∀ node ∈ t.nodes, goes node = goes' node) : clear t goes = clear t goes' := by
  have hcount : t.nodes.countP goes = t.nodes.countP goes' :=
    List.countP_congr fun node hnode => by rw [h node hnode]
  have hfilter : t.nodes.filter (fun node => !goes node) =
      t.nodes.filter fun node => !goes' node :=
    List.filter_congr fun node hnode => by rw [h node hnode]
  rw [clear, clear, hcount, hfilter]

/-- Where nothing should go, some nodes may be taken only if none of them is there. -/
theorem clear_eq_iff_of_none {goes goes' : Location × FileNode → Bool}
    (hnone : ∀ node ∈ t.nodes, goes' node = false) :
    clear t goes = clear t goes' ↔ ∀ node ∈ t.nodes, goes node = false := by
  constructor
  · intro hsame
    have hcount : t.nodes.countP goes = t.nodes.countP goes' := congrArg Prod.fst hsame
    have hzero : t.nodes.countP goes' = 0 :=
      List.countP_eq_zero.mpr fun node hnode => Bool.eq_false_iff.mp (hnone node hnode)
    rw [hzero, List.countP_eq_zero] at hcount
    exact fun node hnode => Bool.eq_false_iff.mpr (hcount node hnode)
  · exact fun hgoes => clear_congr fun node hnode => by rw [hgoes node hnode, hnone node hnode]

/-- Where more goes, less stays. -/
theorem sublist_clear {goes goes' : Location × FileNode → Bool}
    (h : ∀ {node}, goes node = true → goes' node = true) :
    (clear t goes').2.nodes.Sublist (clear t goes).2.nodes := by
  refine List.monotone_filter_right _ fun node hstays => ?_
  rw [Bool.not_eq_true', ← Bool.not_eq_true] at hstays ⊢
  exact mt h hstays

/-- What is listed for a node, if it stands directly in the directory. -/
def entryIn? (place : Location) (node : Location × FileNode) : Option DirectoryEntry :=
  match node.1 with
  | name :: above => if above = place then some (entryOf node.2 name) else none
  | [] => none

theorem entriesOf?_eq (hlocated : t.locate? directory = some place)
    (hdirectory : t.isDirectory place = true) :
    t.entriesOf? directory = some (t.nodes.filterMap (entryIn? place)) := by
  simp only [entriesOf?, hlocated, hdirectory]
  rfl

theorem name_of_entryIn? {node : Location × FileNode} {entry : DirectoryEntry}
    (h : entryIn? place node = some entry) : node.1 = entry.name :: place := by
  unfold entryIn? at h
  split at h
  · rename_i name above hplace
    split at h
    · rename_i habove
      cases h
      rw [hplace, habove]
      cases node.2 <;> rfl
    · cases h
  · cases h

theorem isLog_eq_any (place : Location) (cutoff : Int) (node : Location × FileNode) :
    isLog place (· ≤ cutoff) node = (entryIn? place node).any (isExpired cutoff) := by
  obtain ⟨_ | ⟨name, above⟩, node⟩ := node
  · rfl
  · by_cases habove : above = place
    · cases node <;> simp [isLog, entryIn?, habove, entryOf, isExpired]
    · cases node <;> simp [isLog, entryIn?, habove]

/-- The places of what has expired are those of the logs that are old enough. -/
theorem places_expired (place : Location) (cutoff : Int) (nodes : List (Location × FileNode)) :
    ((nodes.filterMap (entryIn? place)).filter (isExpired cutoff)).map
        (fun entry => entry.name :: place) =
      (nodes.filter (isLog place (· ≤ cutoff))).map (·.1) := by
  induction nodes with
  | nil => rfl
  | cons node nodes ih =>
      rw [List.filterMap_cons, List.filter_cons, isLog_eq_any]
      cases hentry : entryIn? place node with
      | none => simpa using ih
      | some entry =>
          rw [List.filter_cons, Option.any_some]
          split
          · rw [List.map_cons, List.map_cons, ih, name_of_entryIn? hentry]
          · exact ih

/-- Every removal that the sweep tries succeeds. -/
def Removable (t : FileTree) (directory : String) (days : UInt64) : Prop :=
  ∀ entry ∈ (t.entriesOf? directory).getD [], isExpired (cutoff t.clock days) entry = true →
    (t.removeFile (Path.join directory entry.name)).1 = true

/-- Where no two nodes have the same place, nodes are told apart by their places. -/
theorem without_places (hsound : t.Sound) (goes : Location × FileNode → Bool) :
    t.without ((t.nodes.filter goes).map (·.1)) = (clear t goes).2 := by
  rw [without, clear]
  congr 1
  refine List.filter_congr fun node hnode => ?_
  have hmem : node.1 ∈ (t.nodes.filter goes).map (·.1) ↔ goes node = true := by
    rw [List.mem_map]
    constructor
    · rintro ⟨node', hnode', hplace⟩
      obtain ⟨hmem, hgoes⟩ := List.mem_filter.mp hnode'
      rwa [← List.inj_on_of_nodup_map hsound.nodup hmem hnode hplace]
    · exact fun hgoes => ⟨node, List.mem_filter.mpr ⟨hnode, hgoes⟩, rfl⟩
  rw [Bool.eq_iff_iff]
  simp [hmem]

theorem sweep_eq (t : FileTree) :
    (sweep directory days : StateM FileTree Nat) t =
      match t.entriesOf? directory with
      | none => (0, t)
      | some entries =>
          (removeAll directory (entries.filter (isExpired (cutoff t.clock days))) :
            StateM FileTree Nat) t := by
  change (match t.entriesOf? directory with
    | none => (pure 0 : StateM FileTree Nat)
    | some entries => removeAll directory (entries.filter (isExpired (cutoff t.clock days)))) t = _
  cases t.entriesOf? directory <;> rfl

/-- A sweep takes the logs that were last changed at or before the cutoff and nothing else. -/
theorem sweep_eq_clear (hsound : t.Sound) (hlocated : t.locate? directory = some place)
    (hdirectory : t.isDirectory place = true) (hremovable : Removable t directory days) :
    (sweep directory days : StateM FileTree Nat) t =
      clear t (isLog place (· ≤ cutoff t.clock days)) := by
  have hentries := entriesOf?_eq hlocated hdirectory
  let expired := (t.nodes.filterMap (entryIn? place)).filter (isExpired (cutoff t.clock days))
  have hplaces : expired.map (fun entry => entry.name :: place) =
      (t.nodes.filter (isLog place (· ≤ cutoff t.clock days))).map (·.1) :=
    places_expired place _ t.nodes
  have hplain : ∀ entry ∈ expired, IsPlain entry.name := by
    intro entry hentry
    obtain ⟨node, hnode, hlisted⟩ := List.mem_filterMap.mp (List.mem_filter.mp hentry).1
    have hplace := hsound.isPlace node hnode
    rw [name_of_entryIn? hlisted] at hplace
    exact hplace _ List.mem_cons_self
  have hnodup : (expired.map (·.name)).Nodup := by
    refine List.Nodup.of_map (· :: place) ?_
    rw [List.map_map]
    exact hplaces ▸ hsound.nodup.sublist (List.filter_sublist.map _)
  have hsingly : ∀ entry ∈ expired,
      (t.removeFile (Path.join directory entry.name)).1 = true := by
    intro entry hentry
    rw [Removable, hentries] at hremovable
    exact hremovable entry (List.mem_filter.mp hentry).1 (List.mem_filter.mp hentry).2
  have hlength : expired.length = t.nodes.countP (isLog place (· ≤ cutoff t.clock days)) := by
    simpa [List.countP_eq_length_filter] using congrArg List.length hplaces
  rw [sweep_eq, hentries]
  refine (removeAll_eq hlocated hplain hnodup hsingly).trans (Prod.ext hlength ?_)
  rw [hplaces, without_places hsound]

/-! ## The cutoff -/

/-- For how long logs are kept. -/
def retention (days : UInt64) : Int := days.toNat * secondsPerDay * nanosecondsPerSecond

/-- The clock can tell the time: its seconds fit into 64 bits with a sign. -/
def Tellable (time : Int) : Prop := earliest ≤ time ∧ time < -earliest

instance (time : Int) : Decidable (Tellable time) :=
  inferInstanceAs (Decidable (earliest ≤ time ∧ time < -earliest))

/-- The clock can tell the time at which the retention began. -/
def Reaches (now : Int) (days : UInt64) : Prop := earliest ≤ now - retention days

/-- The cutoff where the retention began before all times. It is the epoch, except in the last second
that the clock can tell, from where the greatest number of seconds reaches back to the first one. -/
def fallback (now : Int) : Int :=
  let reached := now - (UInt64.size - 1 : Nat) * nanosecondsPerSecond
  if earliest ≤ reached then reached else 0

theorem cutoff_of_reaches {now : Int} (hnow : Tellable now) (h : Reaches now days) :
    cutoff now days = now - retention days := by
  simp only [Tellable, Reaches, retention, cutoff, keptSeconds, earliest, nanosecondsPerSecond,
    secondsPerDay, UInt64.size] at *
  omega

theorem cutoff_of_not_reaches {now : Int} (h : ¬ Reaches now days) :
    cutoff now days = fallback now := by
  simp only [Reaches, retention, cutoff, fallback, keptSeconds, earliest, nanosecondsPerSecond,
    secondsPerDay, UInt64.size] at *
  omega

/-- Where the retention began before all times, no time that can be told is so long ago. -/
theorem not_old_of_not_reaches {now modified : Int} (h : ¬ Reaches now days)
    (hmodified : Tellable modified) : ¬ retention days ≤ now - modified := by
  simp only [Reaches, Tellable] at *
  omega

theorem retention_mono {fewer : UInt64} (h : fewer ≤ days) : retention fewer ≤ retention days := by
  have htoNat := UInt64.le_iff_toNat_le.mp h
  simp only [retention, secondsPerDay, nanosecondsPerSecond]
  omega

/-! ## Retention -/

/-- The path leads to a directory of a sound tree, and the clock can tell the time and when the logs in
the directory were last changed. -/
structure LogDirectory (t : FileTree) (directory : String) (place : Location) : Prop where
  sound : t.Sound
  located : t.locate? directory = some place
  isDirectory : t.isDirectory place = true
  now : Tellable t.clock
  modified : ∀ node ∈ t.nodes, isLog place (fun modified => !decide (Tellable modified)) node = false

/-- The logs that are as old as the retention says. -/
def isOldLog (now : Int) (place : Location) (days : UInt64) : Location × FileNode → Bool :=
  isLog place fun modified => retention days ≤ now - modified

theorem not_isOldLog_of_not_reaches (h : LogDirectory t directory place)
    (hreaches : ¬ Reaches t.clock days) {node : Location × FileNode} (hnode : node ∈ t.nodes) :
    isOldLog t.clock place days node = false := by
  rw [← Bool.not_eq_true]
  intro hold
  obtain ⟨name, text, modified, rfl, hname, hold⟩ := isLog_iff.mp hold
  have htold : Tellable modified := by
    by_contra hnot
    have hlog := h.modified _ hnode
    rw [← Bool.not_eq_true] at hlog
    exact hlog (isLog_iff.mpr ⟨name, text, modified, rfl, hname, by simpa using hnot⟩)
  exact not_old_of_not_reaches hreaches htold (of_decide_eq_true hold)

theorem isOldLog_of_le {now : Int} {fewer : UInt64} {node : Location × FileNode} (hle : fewer ≤ days)
    (h : isOldLog now place days node = true) : isOldLog now place fewer node = true := by
  obtain ⟨name, text, modified, rfl, hname, hold⟩ := isLog_iff.mp h
  have hshorter : retention fewer ≤ now - modified :=
    Int.le_trans (retention_mono hle) (of_decide_eq_true hold)
  exact isLog_iff.mpr ⟨name, text, modified, rfl, hname, decide_eq_true hshorter⟩

theorem sweep_of_reaches (h : LogDirectory t directory place) (hremovable : Removable t directory days)
    (hreaches : Reaches t.clock days) :
    (sweep directory days : StateM FileTree Nat) t = clear t (isOldLog t.clock place days) := by
  have hold : (fun modified : Int => decide (modified ≤ t.clock - retention days)) =
      fun modified => decide (retention days ≤ t.clock - modified) := by
    funext modified
    rw [decide_eq_decide]
    omega
  rw [sweep_eq_clear h.sound h.located h.isDirectory hremovable, cutoff_of_reaches h.now hreaches,
    hold, isOldLog]

theorem sweep_of_not_reaches (h : LogDirectory t directory place)
    (hremovable : Removable t directory days) (hreaches : ¬ Reaches t.clock days) :
    (sweep directory days : StateM FileTree Nat) t = clear t (isLog place (· ≤ fallback t.clock)) := by
  rw [sweep_eq_clear h.sound h.located h.isDirectory hremovable, cutoff_of_not_reaches hreaches]

theorem reaches_of_le {now : Int} {fewer : UInt64} (hle : fewer ≤ days) (h : Reaches now days) :
    Reaches now fewer :=
  Int.le_trans h (Int.sub_le_sub_left (retention_mono hle) _)

/-- As long as the clock can tell when the retention began, a sweep takes exactly the logs that are as old
as the retention says, leaves everything else as it was and counts what it took; so a longer retention
never costs a log that a shorter one spares. Where the retention began before all times that the clock can
tell, no log is so old, but those that were last changed at or before the fallback are taken. It is
harmless only if there are none. -/
theorem sweep_removes_old_logs (h : LogDirectory t directory place)
    (hremovable : Removable t directory days) :
    let swept (days : UInt64) : Nat × FileTree := (sweep directory days : StateM FileTree Nat) t
    let isBeyond := isLog place (· ≤ fallback t.clock)
    (Reaches t.clock days → swept days = clear t (isOldLog t.clock place days)) ∧
    (Reaches t.clock days → ∀ fewer ≤ days, Removable t directory fewer →
      (swept fewer).2.nodes.Sublist (swept days).2.nodes) ∧
    (¬ Reaches t.clock days → (∀ node ∈ t.nodes, isOldLog t.clock place days node = false) ∧
      swept days = clear t isBeyond) ∧
    (swept days = clear t (isOldLog t.clock place days) ↔
      Reaches t.clock days ∨ ∀ node ∈ t.nodes, isBeyond node = false) := by
  intro swept isBeyond
  refine ⟨sweep_of_reaches h hremovable, fun hreaches fewer hle hfewer => ?_,
    fun hreaches => ⟨fun node => not_isOldLog_of_not_reaches h hreaches,
      sweep_of_not_reaches h hremovable hreaches⟩, ?_⟩
  · have hspared : swept fewer = clear t (isOldLog t.clock place fewer) :=
      sweep_of_reaches h hfewer (reaches_of_le hle hreaches)
    have hswept : swept days = clear t (isOldLog t.clock place days) :=
      sweep_of_reaches h hremovable hreaches
    rw [hspared, hswept]
    exact sublist_clear (isOldLog_of_le hle)
  · by_cases hreaches : Reaches t.clock days
    · exact iff_of_true (sweep_of_reaches h hremovable hreaches) (.inl hreaches)
    · have hswept : swept days = clear t isBeyond := sweep_of_not_reaches h hremovable hreaches
      rw [hswept, or_iff_right hreaches]
      exact clear_eq_iff_of_none fun node => not_isOldLog_of_not_reaches h hreaches

/-- The beginning of a year, and a day seven years before the epoch. -/
def newYear : Int := 1767225600 * nanosecondsPerSecond

def longAgo : Int := -232774400 * nanosecondsPerSecond

/-- A working directory with a log from long ago, one from three weeks ago and one from now, a directory
that is called like a log, and old notes that are none. -/
def cellar : FileTree :=
  (((((FileTree.empty "work" newYear).write "logs/entitler.log.early" "" longAgo).write
    "logs/entitler.log.past" "" (newYear - retention 21)).write
    "logs/entitler.log" "" newYear).write
    "logs/entitler.log.d/notes" "" longAgo).write
    "logs/notes" "" longAgo

deriving instance DecidableEq for FileTree

/-- What stands in the working directory after that, the last thing written first. -/
theorem cellar_eq : cellar =
    { nodes := [(["notes", "logs", "work"], .file "" longAgo),
        (["notes", "entitler.log.d", "logs", "work"], .file "" longAgo),
        (["entitler.log.d", "logs", "work"], .directory),
        (["entitler.log", "logs", "work"], .file "" newYear),
        (["entitler.log.past", "logs", "work"], .file "" (newYear - retention 21)),
        (["entitler.log.early", "logs", "work"], .file "" longAgo),
        (["logs", "work"], .directory),
        (["work"], .directory)]
      current := ["work"]
      clock := newYear } := by
  decide +kernel

theorem logDirectory_cellar : LogDirectory cellar "logs" ["logs", "work"] where
  sound := by
    have hempty : (FileTree.empty "work" newYear).Sound := sound_empty (by decide) _
    exact ((((hempty.write _ _ _).write _ _ _).write _ _ _).write _ _ _).write _ _ _
  located := by
    rw [cellar_eq]
    decide +kernel
  isDirectory := by
    rw [cellar_eq]
    decide +kernel
  now := by
    rw [cellar_eq]
    decide +kernel
  modified := by
    rw [cellar_eq]
    decide +kernel

/-- After two weeks the two old logs are taken. -/
theorem sweep_removes_old_logs_fortnight :
    LogDirectory cellar "logs" ["logs", "work"] ∧ Removable cellar "logs" 14 ∧
    (sweep "logs" 14 : StateM FileTree Nat) cellar =
      clear cellar (isOldLog cellar.clock ["logs", "work"] 14) ∧
    ((sweep "logs" 14 : StateM FileTree Nat) cellar).1 = 2 := by
  have hremovable : Removable cellar "logs" 14 := by
    rw [Removable, cellar_eq]
    decide +kernel
  have hreaches : Reaches cellar.clock 14 := by
    rw [Reaches, cellar_eq]
    decide +kernel
  have hcount : ((sweep "logs" 14 : StateM FileTree Nat) cellar).1 = 2 := by
    rw [cellar_eq]
    decide +kernel
  obtain ⟨hswept, -⟩ := sweep_removes_old_logs logDirectory_cellar hremovable
  exact ⟨logDirectory_cellar, hremovable, hswept hreaches, hcount⟩

/-- After so many days that the clock cannot tell when they began, the log from before the epoch is taken,
though it is not that old and a hundred years spare it. -/
theorem sweep_beyond_the_clock :
    LogDirectory cellar "logs" ["logs", "work"] ∧ Removable cellar "logs" 200000000000000 ∧
    (∀ node ∈ cellar.nodes,
      isOldLog cellar.clock ["logs", "work"] 200000000000000 node = false) ∧
    ((sweep "logs" 200000000000000 : StateM FileTree Nat) cellar).1 = 1 ∧
    ((sweep "logs" 36500 : StateM FileTree Nat) cellar).1 = 0 ∧
    (sweep "logs" 200000000000000 : StateM FileTree Nat) cellar ≠
      clear cellar (isOldLog cellar.clock ["logs", "work"] 200000000000000) := by
  have hremovable : Removable cellar "logs" 200000000000000 := by
    rw [Removable, cellar_eq]
    decide +kernel
  have hold : ∀ node ∈ cellar.nodes,
      isOldLog cellar.clock ["logs", "work"] 200000000000000 node = false := by
    rw [cellar_eq]
    decide +kernel
  have hcount : ((sweep "logs" 200000000000000 : StateM FileTree Nat) cellar).1 = 1 := by
    rw [cellar_eq]
    decide +kernel
  have hspared : ((sweep "logs" 36500 : StateM FileTree Nat) cellar).1 = 0 := by
    rw [cellar_eq]
    decide +kernel
  refine ⟨logDirectory_cellar, hremovable, hold, hcount, hspared, fun hsame => ?_⟩
  -- No log is that old, so none would be taken.
  have hnone : (clear cellar (isOldLog cellar.clock ["logs", "work"] 200000000000000)).1 = 0 :=
    List.countP_eq_zero.mpr fun node hnode => Bool.eq_false_iff.mp (hold node hnode)
  rw [hsame, hnone] at hcount
  cases hcount

end Allotment.Retention
