/-!
# Texts by bytes

Offsets into a text count the bytes of its UTF-8 form. A text can be cut only between two of its
characters: an offset inside a character, or behind the end, cuts nothing.
-/

namespace Allotment.Text

/-- The number of bytes that the characters take. -/
def byteSize : List Char → Nat
  | [] => 0
  | c :: cs => c.utf8Size + byteSize cs

/-- What stands behind so many bytes. -/
def dropBytes? : Nat → List Char → Option (List Char)
  | 0, cs => some cs
  | _, [] => none
  | n, c :: cs => if c.utf8Size ≤ n then dropBytes? (n - c.utf8Size) cs else none

/-- What so many bytes hold. -/
def takeBytes? : Nat → List Char → Option (List Char)
  | 0, _ => some []
  | _, [] => none
  | n, c :: cs =>
      if c.utf8Size ≤ n then (takeBytes? (n - c.utf8Size) cs).map (c :: ·) else none

/-- What stands between two offsets. -/
def slice? (start stop : Nat) (cs : List Char) : Option (List Char) :=
  (dropBytes? start cs).bind (takeBytes? (stop - start))

theorem byteSize_append (cs ds : List Char) : byteSize (cs ++ ds) = byteSize cs + byteSize ds := by
  induction cs with
  | nil => simp [byteSize]
  | cons c cs ih => simp [byteSize, ih, Nat.add_assoc]

theorem dropBytes?_cons (c : Char) (n : Nat) (cs : List Char) :
    dropBytes? (c.utf8Size + n) (c :: cs) = dropBytes? n cs := by
  have h := c.utf8Size_pos
  obtain ⟨k, hk⟩ : ∃ k, c.utf8Size + n = k + 1 := ⟨c.utf8Size + n - 1, by omega⟩
  rw [hk, dropBytes?, if_pos (by omega)]
  · congr 1
    omega
  · exact Nat.succ_ne_zero k

theorem takeBytes?_cons (c : Char) (n : Nat) (cs : List Char) :
    takeBytes? (c.utf8Size + n) (c :: cs) = (takeBytes? n cs).map (c :: ·) := by
  have h := c.utf8Size_pos
  obtain ⟨k, hk⟩ : ∃ k, c.utf8Size + n = k + 1 := ⟨c.utf8Size + n - 1, by omega⟩
  rw [hk, takeBytes?, if_pos (by omega)]
  · congr 2
    omega
  · exact Nat.succ_ne_zero k

theorem dropBytes?_append (cs ds : List Char) : dropBytes? (byteSize cs) (cs ++ ds) = some ds := by
  induction cs with
  | nil => simp [byteSize, dropBytes?]
  | cons c cs ih => rw [byteSize, List.cons_append, dropBytes?_cons, ih]

theorem takeBytes?_append (cs ds : List Char) : takeBytes? (byteSize cs) (cs ++ ds) = some cs := by
  induction cs with
  | nil => simp [byteSize, takeBytes?]
  | cons c cs ih => simp [byteSize, takeBytes?_cons, ih]

/-- Between two characters a text is cut where the offsets say. -/
theorem slice?_append (before cs behind : List Char) :
    slice? (byteSize before) (byteSize (before ++ cs)) (before ++ (cs ++ behind)) = some cs := by
  rw [slice?, dropBytes?_append, byteSize_append, Nat.add_sub_cancel_left]
  exact takeBytes?_append cs behind

end Allotment.Text
