import Allotment.Arguments
import Mathlib.Data.List.Forall2
import Mathlib.Data.List.Perm.Basic
import Mathlib.Logic.Function.Basic

/-!
# The grammar of a command line

A command line is a row of clauses, each a flag with the word behind it or a command. A word that begins
a clause tells how long the clause is, so there is one way at most to part words into clauses
(`spell_injective`). Reading takes the clauses from the left and keeps of each flag the last value; what
it comes to is said without any order but that of the values of one flag (`Says`), and it is accepted
exactly if there is one command, a scenario, and no caller that is not known (`read_accepts_iff`).
-/

namespace Allotment

/-- The text is the word of the caller, up to blanks around it and the case of letters. -/
def Caller.NamedBy (caller : Caller) (text : String) : Prop :=
  Text.sameLetters (Text.trim text) caller.word = true

theorem Caller.read_eq_ok_iff {caller : Caller} {text : String} :
    Caller.read text = .ok caller ↔ caller.NamedBy text := by
  have hword : Text.lower caller.word = caller.word := by
    cases caller <;> decide
  rw [NamedBy, Text.sameLetters_iff, hword, read]
  constructor
  · intro h
    cases hfound : ofWord? (Text.lower (Text.trim text)) with
    | none => simp [hfound] at h
    | some found =>
        obtain rfl : found = caller := by simpa [hfound] using h
        exact (word_of_ofWord? hfound).symm
  · intro h
    simp [h, ofWord?_word]

theorem Command.word_of_ofWord? {s : String} {command : Command} (h : ofWord? s = some command) :
    command.word = s := by
  unfold ofWord? at h
  split at h <;> cases h <;> rfl

theorem Flag.word_of_ofWord? {s : String} {flag : Flag} (h : ofWord? s = some flag) :
    flag.word = s := by
  unfold ofWord? at h
  split at h <;> cases h <;> rfl

theorem Flag.ofWord?_command (command : Command) : ofWord? command.word = none := by
  cases command <;> rfl

namespace Arguments

/-- A part of a command line that stands for itself. Any word may be the value of a flag, also one that
would be a flag or a command elsewhere. -/
inductive Clause where
  | flag (flag : Flag) (value : String)
  | command (command : Command)

namespace Clause

def words : Clause → List String
  | flag f value => [f.word, value]
  | command c => [c.word]

def command? : Clause → Option Command
  | flag _ _ => none
  | command c => some c

def value? (wanted : Flag) : Clause → Option String
  | flag f value => if f = wanted then some value else none
  | command _ => none

end Clause

def spell (clauses : List Clause) : List String := clauses.flatMap Clause.words

def commands (clauses : List Clause) : List Command := clauses.filterMap Clause.command?

/-- The values of a flag, from the left. -/
def valuesOf (flag : Flag) (clauses : List Clause) : List String :=
  clauses.filterMap (Clause.value? flag)

/-- The clause that words begin with, and the words behind it. -/
def parted? : List String → Option (Clause × List String)
  | [] => none
  | word :: words =>
      match Flag.ofWord? word, words with
      | some flag, value :: rest => some (.flag flag value, rest)
      | some _, [] => none
      | none, rest => (Command.ofWord? word).map fun command => (.command command, rest)

theorem parted?_words_append (clause : Clause) (rest : List String) :
    parted? (clause.words ++ rest) = some (clause, rest) := by
  cases clause with
  | flag f value =>
      simp only [Clause.words, List.cons_append, List.nil_append, parted?, Flag.ofWord?_word]
  | command c =>
      simp only [Clause.words, List.cons_append, List.nil_append, parted?, Flag.ofWord?_command,
        Command.ofWord?_word, Option.map_some]

theorem words_append_inj {clause other : Clause} {rest more : List String}
    (h : clause.words ++ rest = other.words ++ more) : clause = other ∧ rest = more := by
  have hparted : some (clause, rest) = some (other, more) := by
    rw [← parted?_words_append, h, parted?_words_append]
  exact Prod.mk.inj (Option.some.inj hparted)

/-- Words are parted into clauses in one way at most. -/
theorem spell_injective : Function.Injective spell := by
  intro clauses other h
  induction clauses generalizing other with
  | nil =>
      cases other with
      | nil => rfl
      | cons clause _ => cases clause <;> simp [spell, Clause.words] at h
  | cons clause clauses ih =>
      cases other with
      | nil => cases clause <;> simp [spell, Clause.words] at h
      | cons clause' other =>
          have hwords : clause.words ++ spell clauses = clause'.words ++ spell other := by
            simpa [spell] using h
          obtain ⟨rfl, hrest⟩ := words_append_inj hwords
          rw [ih hrest]

/-! ## Reading clauses -/

namespace Draft

/-- What a clause sets. -/
def take (draft : Draft) : Clause → Except ArgumentError Draft
  | .flag flag value => draft.setFlag flag value
  | .command command => draft.setCommand command.word

theorem gather_words_append (draft : Draft) (clause : Clause) (rest : List String) :
    draft.gather (clause.words ++ rest) = (draft.take clause).bind (·.gather rest) := by
  cases clause with
  | flag f value =>
      simp only [Clause.words, List.cons_append, List.nil_append, gather, take, Flag.ofWord?_word]
      cases draft.setFlag f value <;> rfl
  | command c =>
      simp only [Clause.words, List.cons_append, List.nil_append, gather, take,
        Flag.ofWord?_command]
      cases draft.setCommand c.word <;> rfl

theorem setFlag_caller_eq_ok_iff {draft next : Draft} {value : String} :
    draft.setFlag .caller value = .ok next ↔
      ∃ caller, Caller.NamedBy caller value ∧ next = { draft with caller := some caller } := by
  simp only [setFlag, ← Caller.read_eq_ok_iff]
  cases Caller.read value <;> simp [eq_comm]

theorem setCommand_eq_ok_iff {draft next : Draft} {command : Command} :
    draft.setCommand command.word = .ok next ↔
      draft.command = none ∧ next = { draft with command := some command } := by
  rw [setCommand, Command.ofWord?_word]
  cases draft.command <;> simp [eq_comm]

theorem exists_command_of_setCommand {draft next : Draft} {word : String}
    (h : draft.setCommand word = .ok next) : ∃ command : Command, command.word = word := by
  unfold setCommand at h
  split at h
  · exact ⟨_, Command.word_of_ofWord? ‹_›⟩
  · cases h

/-- Words that are read without an error are those of some clauses. -/
theorem exists_spell_of_gather {draft final : Draft} {words : List String}
    (h : draft.gather words = .ok final) : ∃ clauses, spell clauses = words := by
  -- Along the words: a step that goes on has read one clause, and the hypothesis has the others.
  fun_induction gather draft words with
  | case1 draft => exact ⟨[], rfl⟩
  | case2 draft word words hflag next hnext ih =>
      obtain ⟨command, rfl⟩ := exists_command_of_setCommand hnext
      obtain ⟨clauses, rfl⟩ := ih h
      exact ⟨.command command :: clauses, rfl⟩
  | case3 => cases h
  | case4 => cases h
  | case5 draft word flag hflag value words next hnext ih =>
      obtain ⟨clauses, rfl⟩ := ih h
      exact ⟨.flag flag value :: clauses, by rw [← Flag.word_of_ofWord? hflag]; rfl⟩
  | case6 => cases h

/-- What clauses make of a draft: the last value of each flag counts, or what was there if there is none,
and a command is set once only. Every value for the caller has to name one. -/
structure Fills (draft : Draft) (clauses : List Clause) (final : Draft) : Prop where
  configPath : final.configPath = (valuesOf .config clauses).getLast?.or draft.configPath
  scenarioPath : final.scenarioPath = (valuesOf .scenario clauses).getLast?.or draft.scenarioPath
  command : draft.command.toList ++ commands clauses = final.command.toList
  caller : ∃ callers, List.Forall₂ Caller.NamedBy callers (valuesOf .caller clauses) ∧
    final.caller = callers.getLast?.or draft.caller

theorem getLast?_cons_or {α : Type} (a : α) (as : List α) (earlier : Option α) :
    (a :: as).getLast?.or earlier = as.getLast?.or (some a) := by
  rw [List.getLast?_cons]
  cases as.getLast? <;> rfl

theorem eq_none_of_toList_append_cons {α : Type} {earlier last : Option α} {a : α} {as : List α}
    (h : earlier.toList ++ a :: as = last.toList) : earlier = none := by
  cases earlier with
  | none => rfl
  | some => cases last <;> simp at h

theorem fills_nil_iff {draft final : Draft} : Fills draft [] final ↔ draft = final := by
  constructor
  · rintro ⟨hconfig, hscenario, hcommand, callers, hcallers, hcaller⟩
    have hcommand : draft.command = final.command := by
      simpa [commands] using congrArg List.head? hcommand
    cases hcallers
    cases draft
    cases final
    simp_all [valuesOf]
  · rintro rfl
    exact ⟨rfl, rfl, List.append_nil _, [], .nil, rfl⟩

/-- One clause is taken before the others. -/
theorem fills_cons_iff {draft final : Draft} {clause : Clause} {clauses : List Clause} :
    Fills draft (clause :: clauses) final ↔
      ∃ next, draft.take clause = .ok next ∧ Fills next clauses final := by
  cases clause with
  | flag f value =>
      cases f with
      | config =>
          constructor
          · rintro ⟨hconfig, hscenario, hcommand, hcaller⟩
            exact ⟨_, rfl, hconfig.trans (getLast?_cons_or ..), hscenario, hcommand, hcaller⟩
          · rintro ⟨_, ⟨⟩, hconfig, hscenario, hcommand, hcaller⟩
            exact ⟨hconfig.trans (getLast?_cons_or ..).symm, hscenario, hcommand, hcaller⟩
      | scenario =>
          constructor
          · rintro ⟨hconfig, hscenario, hcommand, hcaller⟩
            exact ⟨_, rfl, hconfig, hscenario.trans (getLast?_cons_or ..), hcommand, hcaller⟩
          · rintro ⟨_, ⟨⟩, hconfig, hscenario, hcommand, hcaller⟩
            exact ⟨hconfig, hscenario.trans (getLast?_cons_or ..).symm, hcommand, hcaller⟩
      | caller =>
          simp only [take, setFlag_caller_eq_ok_iff]
          constructor
          · rintro ⟨hconfig, hscenario, hcommand, callers, hcallers, hcaller⟩
            obtain ⟨caller, later, hnamed, hlater, rfl⟩ := List.forall₂_cons_right_iff.mp hcallers
            exact ⟨_, ⟨caller, hnamed, rfl⟩, hconfig, hscenario, hcommand, later, hlater,
              hcaller.trans (getLast?_cons_or ..)⟩
          · rintro ⟨_, ⟨caller, hnamed, rfl⟩, hconfig, hscenario, hcommand, callers, hcallers, hcaller⟩
            exact ⟨hconfig, hscenario, hcommand, caller :: callers, .cons hnamed hcallers,
              hcaller.trans (getLast?_cons_or ..).symm⟩
  | command c =>
      simp only [take, setCommand_eq_ok_iff]
      constructor
      · rintro ⟨hconfig, hscenario, hcommand, hcaller⟩
        have hdraft : draft.command = none := eq_none_of_toList_append_cons hcommand
        rw [hdraft] at hcommand
        exact ⟨_, ⟨hdraft, rfl⟩, hconfig, hscenario, hcommand, hcaller⟩
      · rintro ⟨_, ⟨hdraft, rfl⟩, hconfig, hscenario, hcommand, hcaller⟩
        refine ⟨hconfig, hscenario, ?_, hcaller⟩
        rw [hdraft]
        exact hcommand

/-- Reading clauses comes to what the clauses say. -/
theorem gather_spell_iff {draft final : Draft} {clauses : List Clause} :
    draft.gather (spell clauses) = .ok final ↔ Fills draft clauses final := by
  induction clauses generalizing draft with
  | nil =>
      rw [fills_nil_iff]
      exact ⟨Except.ok.inj, congrArg _⟩
  | cons clause clauses ih =>
      rw [spell, List.flatMap_cons, gather_words_append, fills_cons_iff]
      simp only [← ih]
      cases draft.take clause with
      | error e => simp [Except.bind]
      | ok next => simp [Except.bind, spell]

theorem complete_eq_ok_iff {draft : Draft} {args : Arguments} :
    draft.complete = .ok args ↔
      draft.command = some args.command ∧ draft.scenarioPath = some args.scenarioPath ∧
        args.configPath = draft.configPath.getD defaultConfigPath ∧
        args.caller = draft.caller.getD args.command.defaultCaller := by
  rw [complete]
  cases draft.command with
  | none => simp
  | some command =>
      cases draft.scenarioPath with
      | none => simp
      | some scenarioPath =>
          cases args
          simp only [Except.ok.injEq, Arguments.mk.injEq, Option.some.injEq]
          constructor
          · rintro ⟨rfl, rfl, rfl, rfl⟩
            exact ⟨rfl, rfl, rfl, rfl⟩
          · rintro ⟨rfl, rfl, rfl, rfl⟩
            exact ⟨rfl, rfl, rfl, rfl⟩

end Draft

/-! ## What is accepted -/

/-- The clauses say what the arguments are: they hold one command, the last of their scenarios and
configurations count, and so does the last of the callers, all of which are named. Without a
configuration it is the one at hand, and without a caller the one that fits the command. -/
structure Says (clauses : List Clause) (args : Arguments) : Prop where
  command : commands clauses = [args.command]
  scenarioPath : (valuesOf .scenario clauses).getLast? = some args.scenarioPath
  configPath : args.configPath = (valuesOf .config clauses).getLast?.getD "./entitler.jsonc"
  caller : ∃ callers, List.Forall₂ Caller.NamedBy callers (valuesOf .caller clauses) ∧
    args.caller = callers.getLast?.getD
      (match args.command with
      | .select => .bestPools
      | .validate => .bind)

/-- There is one command, a scenario, and no caller without a name, not even among those that later ones
take the place of. -/
def Acceptable (clauses : List Clause) : Prop :=
  (commands clauses).length = 1 ∧ valuesOf .scenario clauses ≠ [] ∧
    ∀ value ∈ valuesOf .caller clauses, ∃ caller : Caller, caller.NamedBy value

theorem read_spell_iff {clauses : List Clause} {args : Arguments} :
    read (spell clauses) = .ok args ↔ Says clauses args := by
  have hread : read (spell clauses) = .ok args ↔
      ∃ draft, Draft.Fills .empty clauses draft ∧ draft.complete = .ok args := by
    simp only [read, ← Draft.gather_spell_iff]
    cases Draft.empty.gather (spell clauses) <;> simp
  have hdefault : args.command.defaultCaller =
      match args.command with
      | .select => .bestPools
      | .validate => .bind := by
    cases args.command <;> rfl
  simp only [hread, Draft.complete_eq_ok_iff, hdefault]
  constructor
  · rintro ⟨draft, ⟨hconfig, hscenario, hcommand, callers, hcallers, hcaller⟩,
      hcommand', hscenario', hconfig', hcaller'⟩
    refine ⟨?_, ?_, ?_, callers, hcallers, ?_⟩
    · simpa [Draft.empty, hcommand'] using hcommand
    · simpa [Draft.empty, hscenario'] using hscenario.symm
    · rw [hconfig', hconfig]
      exact congrArg (Option.getD · _) (Option.or_none ..)
    · simpa [Draft.empty, hcaller] using hcaller'
  · rintro ⟨hcommand, hscenario, hconfig, callers, hcallers, hcaller⟩
    refine ⟨⟨(valuesOf .config clauses).getLast?, some args.command, some args.scenarioPath,
      callers.getLast?⟩, ⟨?_, ?_, ?_, callers, hcallers, ?_⟩, rfl, rfl, hconfig, hcaller⟩
    · simp [Draft.empty]
    · simp [Draft.empty, hscenario]
    · simpa [Draft.empty] using hcommand
    · simp [Draft.empty]

theorem exists_forall₂_iff {α β : Type} {R : α → β → Prop} {bs : List β} :
    (∃ as, List.Forall₂ R as bs) ↔ ∀ b ∈ bs, ∃ a, R a b := by
  induction bs with
  | nil => simp
  | cons b bs ih =>
      rw [List.forall_mem_cons, ← ih]
      simp only [List.forall₂_cons_right_iff]
      constructor
      · rintro ⟨_, a, as, ha, has, rfl⟩
        exact ⟨⟨a, ha⟩, as, has⟩
      · rintro ⟨⟨a, ha⟩, as, has⟩
        exact ⟨_, a, as, ha, has, rfl⟩

theorem exists_says_iff {clauses : List Clause} :
    (∃ args, Says clauses args) ↔ Acceptable clauses := by
  rw [Acceptable, List.length_eq_one_iff, ← exists_forall₂_iff]
  constructor
  · rintro ⟨args, hcommand, hscenario, -, callers, hcallers, -⟩
    refine ⟨⟨_, hcommand⟩, fun hnone => ?_, callers, hcallers⟩
    rw [hnone] at hscenario
    cases hscenario
  · rintro ⟨⟨command, hcommand⟩, hscenario, callers, hcallers⟩
    exact ⟨⟨_, command, (valuesOf .scenario clauses).getLast hscenario,
      callers.getLast?.getD command.defaultCaller⟩, hcommand,
      List.getLast?_eq_some_getLast hscenario, rfl, callers, hcallers, by cases command <;> rfl⟩

/-- Clauses in another order say the same, as long as the values of each flag stay in theirs. -/
theorem says_perm {clauses other : List Clause} (hperm : clauses.Perm other)
    (hvalues : ∀ flag, valuesOf flag clauses = valuesOf flag other) {args : Arguments} :
    Says clauses args ↔ Says other args := by
  have hcommands : commands clauses = [args.command] ↔ commands other = [args.command] := by
    rw [← List.perm_singleton, ← List.perm_singleton]
    exact (hperm.filterMap _).congr_left _
  constructor
  · rintro ⟨hcommand, hscenario, hconfig, hcaller⟩
    rw [hvalues] at hscenario hconfig hcaller
    exact ⟨hcommands.mp hcommand, hscenario, hconfig, hcaller⟩
  · rintro ⟨hcommand, hscenario, hconfig, hcaller⟩
    rw [← hvalues] at hscenario hconfig hcaller
    exact ⟨hcommands.mpr hcommand, hscenario, hconfig, hcaller⟩

theorem exists_spell_of_read {words : List String} {args : Arguments}
    (h : read words = .ok args) : ∃ clauses, spell clauses = words := by
  rw [read] at h
  split at h
  · exact Draft.exists_spell_of_gather ‹_›
  · cases h

/-- Words are accepted exactly if they can be parted into clauses among which there is one command, a
scenario, and no value for the caller that names none; there is one way to part them at most. The
arguments are then what the clauses say. Clauses may change places without a difference, as long as the
values of each flag stay in their order. -/
theorem read_accepts_iff (words : List String) :
    ((∃ args, read words = .ok args) ↔ ∃ clauses, spell clauses = words ∧ Acceptable clauses) ∧
    (∀ args, read words = .ok args ↔ ∃ clauses, spell clauses = words ∧ Says clauses args) ∧
    (∀ clauses other, spell clauses = words → spell other = words → clauses = other) ∧
    (∀ clauses other : List Clause, spell clauses = words → clauses.Perm other →
      (∀ flag, valuesOf flag clauses = valuesOf flag other) →
      ∀ args, read (spell other) = .ok args ↔ read words = .ok args) := by
  have hspelled (args : Arguments) :
      read words = .ok args ↔ ∃ clauses, spell clauses = words ∧ Says clauses args := by
    constructor
    · intro hread
      obtain ⟨clauses, rfl⟩ := exists_spell_of_read hread
      exact ⟨clauses, rfl, read_spell_iff.mp hread⟩
    · rintro ⟨clauses, rfl, hspelled⟩
      exact read_spell_iff.mpr hspelled
  refine ⟨?_, hspelled, fun clauses other hclauses hother => ?_, ?_⟩
  · simp only [hspelled, ← exists_says_iff]
    constructor
    · rintro ⟨args, clauses, hspell, hargs⟩
      exact ⟨clauses, hspell, args, hargs⟩
    · rintro ⟨clauses, hspell, args, hargs⟩
      exact ⟨args, clauses, hspell, hargs⟩
  · exact spell_injective (hclauses.trans hother.symm)
  · rintro clauses other rfl hperm hvalues args
    rw [read_spell_iff, read_spell_iff]
    exact (says_perm hperm hvalues).symm

/-- What looks like a flag or a command may be the value of a flag. -/
example : read ["--config", "--caller", "select", "--scenario", "validate"] =
    .ok ⟨"--caller", .select, "validate", .bestPools⟩ := by
  decide

end Arguments

end Allotment
