/-!
# Cutting a text at a separator

A text with `n` occurrences of the separator, found from the left and apart from each other,
has `n + 1` pieces. The empty separator stands before, between and after all characters, so
its pieces are an empty one, every single character, and an empty one.
-/

namespace Allotment.Text

/-- Cuts at a separator that is not empty; `passing` counts the characters of an occurrence
that are still to be passed. -/
def piecesAt (separator : List Char) : Nat → List Char → List (List Char)
  | _, [] => [[]]
  | passing + 1, _ :: cs => piecesAt separator passing cs
  | 0, c :: cs =>
      if separator.isPrefixOf (c :: cs) then
        [] :: piecesAt separator (separator.length - 1) cs
      else
        match piecesAt separator 0 cs with
        | [] => [[c]]
        | piece :: pieces => (c :: piece) :: pieces

/-- The pieces of a text, in order. -/
def pieces (separator s : String) : List String :=
  if separator = "" then
    "" :: s.toList.map (fun c => String.ofList [c]) ++ [""]
  else
    (piecesAt separator.toList 0 s.toList).map String.ofList

theorem piecesAt_ne_nil (separator : List Char) (passing : Nat) (cs : List Char) :
    piecesAt separator passing cs ≠ [] := by
  fun_induction piecesAt separator passing cs <;> simp_all

end Allotment.Text
