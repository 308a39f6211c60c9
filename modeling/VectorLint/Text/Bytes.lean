/-
Texts measured in UTF-8 bytes. A byte offset may fall inside a character;
slices exist only between offsets that do not.

`sliceBytes_append`: the slice between the lengths of a text before it and of
the same text with it is the text itself.
-/
namespace VectorLint.Text

/-- The number of bytes a text takes in UTF-8. -/
def byteLength : List Char → Nat
  | [] => 0
  | c :: s => c.utf8Size + byteLength s

theorem byteLength_append (a b : List Char) :
    byteLength (a ++ b) = byteLength a + byteLength b := by
  induction a with
  | nil => simp [byteLength]
  | cons c a ih => simp only [List.cons_append, byteLength, ih, Nat.add_assoc]

/-- What is left of a text after `n` bytes; none if `n` falls inside a
character or past the end. -/
def dropBytes : List Char → Nat → Option (List Char)
  | s, 0 => some s
  | [], _ + 1 => none
  | c :: s, n => if n < c.utf8Size then none else dropBytes s (n - c.utf8Size)

theorem dropBytes_cons (c : Char) (s : List Char) (n : Nat) :
    dropBytes (c :: s) (c.utf8Size + n) = dropBytes s n := by
  have := c.utf8Size_pos
  rw [dropBytes, if_neg (by omega), Nat.add_sub_cancel_left]
  omega

theorem dropBytes_append (a b : List Char) : dropBytes (a ++ b) (byteLength a) = some b := by
  induction a with
  | nil => cases b <;> rfl
  | cons c a ih => rw [List.cons_append, byteLength, dropBytes_cons, ih]

/-- The first `n` bytes of a text; none if `n` falls inside a character or
past the end. -/
def takeBytes : List Char → Nat → Option (List Char)
  | _, 0 => some []
  | [], _ + 1 => none
  | c :: s, n => if n < c.utf8Size then none else (takeBytes s (n - c.utf8Size)).map (c :: ·)

theorem takeBytes_cons (c : Char) (s : List Char) (n : Nat) :
    takeBytes (c :: s) (c.utf8Size + n) = (takeBytes s n).map (c :: ·) := by
  have := c.utf8Size_pos
  rw [takeBytes, if_neg (by omega), Nat.add_sub_cancel_left]
  omega

theorem takeBytes_append (a b : List Char) : takeBytes (a ++ b) (byteLength a) = some a := by
  induction a with
  | nil => cases b <;> rfl
  | cons c a ih => rw [List.cons_append, byteLength, takeBytes_cons, ih, Option.map_some]

/-- The text from byte `start` up to byte `stop`, if both are character
boundaries in order. -/
def sliceBytes (s : List Char) (start stop : Nat) : Option (List Char) :=
  if start ≤ stop then (dropBytes s start).bind (takeBytes · (stop - start)) else none

theorem sliceBytes_append (a b c : List Char) :
    sliceBytes (a ++ b ++ c) (byteLength a) (byteLength (a ++ b)) = some b := by
  have h : byteLength a ≤ byteLength (a ++ b) := by rw [byteLength_append]; omega
  have width : byteLength (a ++ b) - byteLength a = byteLength b := by
    rw [byteLength_append]; omega
  rw [sliceBytes, if_pos h, List.append_assoc, dropBytes_append, Option.bind_some, width,
    takeBytes_append]

/-- The text that bytes encode, if they are well-formed UTF-8. -/
def ofBytes? (bytes : ByteArray) : Option (List Char) :=
  (String.fromUTF8? bytes).map String.toList

end VectorLint.Text
