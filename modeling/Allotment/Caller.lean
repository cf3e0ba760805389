import Allotment.Text.Blank
import Allotment.Text.LetterCase

/-!
# Callers

Who asks for a validation, and so how severe some findings are.
-/

namespace Allotment

inductive Caller where
  | bind
  | listPools
  | bestPools
  | unknown
  deriving DecidableEq, Repr

namespace Caller

def word : Caller → String
  | bind => "bind"
  | listPools => "list_pools"
  | bestPools => "best_pools"
  | unknown => "unknown"

def ofWord? : String → Option Caller
  | "bind" => some bind
  | "list_pools" => some listPools
  | "best_pools" => some bestPools
  | "unknown" => some unknown
  | _ => none

/-- A text that names no caller, trimmed and in small letters. -/
structure Unrecognised where
  word : String
  deriving DecidableEq, Repr

def Unrecognised.message (e : Unrecognised) : String :=
  "unknown caller type '" ++ e.word ++ "': expected bind, list_pools, best_pools or unknown"

/-- Reads a caller with blanks around it and in any case of letters. -/
def read (s : String) : Except Unrecognised Caller :=
  let word := Text.lower (Text.trim s)
  match ofWord? word with
  | some caller => .ok caller
  | none => .error ⟨word⟩

theorem ofWord?_word (caller : Caller) : ofWord? caller.word = some caller := by
  cases caller <;> rfl

theorem word_of_ofWord? {s : String} {caller : Caller} (h : ofWord? s = some caller) :
    caller.word = s := by
  unfold ofWord? at h
  split at h <;> simp_all [word] <;> (subst h; rfl)

end Caller

end Allotment
