import Mathlib.Data.List.Basic

/-!
# Slices

A part of a text may be named by the bytes between which it lies in UTF-8.  There is such a part
only if the first does not come after the second and both are places between characters of the text.
-/

namespace Tablewright.Text

/-- Bytes between which no part of a text lies. -/
structure OutOfBounds where
  /-- The byte at which the part should begin. -/
  start : Nat
  /-- The byte before which it should end. -/
  stop : Nat
  deriving DecidableEq, Repr

/-- The number of bytes of a text. -/
def size : List Char → Nat
  | [] => 0
  | c :: cs => c.utf8Size + size cs

/-- The characters from a byte on. -/
def fromByte? : Nat → List Char → Option (List Char)
  | 0, cs => some cs
  | _ + 1, [] => none
  | n + 1, c :: cs =>
    if c.utf8Size ≤ n + 1 then fromByte? (n + 1 - c.utf8Size) cs else none

/-- The characters before a byte. -/
def beforeByte? : Nat → List Char → Option (List Char)
  | 0, _ => some []
  | _ + 1, [] => none
  | n + 1, c :: cs =>
    if c.utf8Size ≤ n + 1 then (beforeByte? (n + 1 - c.utf8Size) cs).map (c :: ·) else none

/-- The part of a text between two bytes. -/
def slice
    (cs : List Char)
    (start stop : Nat) : Except OutOfBounds (List Char) :=
  let part? := if start ≤ stop then (fromByte? start cs).bind (beforeByte? (stop - start)) else none
  match part? with
  | some part => .ok part
  | none => .error { start, stop }

/-- What is cut out is passed on. -/
@[simp] theorem ok_bind
    {α β : Type}
    (value : α)
    (next : α → Except OutOfBounds β) :
    (Except.ok value >>= next) = next value := rfl

@[simp] theorem size_nil : size [] = 0 := rfl

@[simp] theorem size_cons (c : Char) (cs : List Char) : size (c :: cs) = c.utf8Size + size cs := rfl

@[simp] theorem size_append (cs ds : List Char) : size (cs ++ ds) = size cs + size ds := by
  induction cs with
  | nil => simp
  | cons c cs ih => rw [List.cons_append, size_cons, size_cons, ih, Nat.add_assoc]

@[simp] theorem size_reverse (cs : List Char) : size cs.reverse = size cs := by
  induction cs with
  | nil => rfl
  | cons c cs ih => simp [ih, Nat.add_comm]

theorem size_pos_iff {cs : List Char} : 0 < size cs ↔ cs ≠ [] := by
  cases cs with
  | nil => simp
  | cons c cs =>
    have positive := c.utf8Size_pos
    simp
    omega

@[simp] theorem fromByte?_append (before after : List Char) :
    fromByte? (size before) (before ++ after) = some after := by
  induction before with
  | nil => cases after <;> rfl
  | cons c before ih =>
    have positive := c.utf8Size_pos
    obtain ⟨n, size_eq⟩ : ∃ n, size (c :: before) = n + 1 :=
      Nat.exists_eq_succ_of_ne_zero (by rw [size_cons]; omega)
    rw [size_eq, List.cons_append, fromByte?, ← size_eq, size_cons, if_pos (Nat.le_add_right _ _),
      Nat.add_sub_cancel_left, ih]

@[simp] theorem beforeByte?_append (before after : List Char) :
    beforeByte? (size before) (before ++ after) = some before := by
  induction before with
  | nil => cases after <;> rfl
  | cons c before ih =>
    have positive := c.utf8Size_pos
    obtain ⟨n, size_eq⟩ : ∃ n, size (c :: before) = n + 1 :=
      Nat.exists_eq_succ_of_ne_zero (by rw [size_cons]; omega)
    rw [size_eq, List.cons_append, beforeByte?, ← size_eq, size_cons,
      if_pos (Nat.le_add_right _ _), Nat.add_sub_cancel_left, ih]
    rfl

/-- A part lies between the bytes before it and those before what follows. -/
theorem slice_append
    (before part after : List Char) :
    slice (before ++ (part ++ after)) (size before) (size before + size part) = .ok part := by
  rw [slice, if_pos (Nat.le_add_right _ _), fromByte?_append, Option.bind_some,
    Nat.add_sub_cancel_left, beforeByte?_append]

/-- The rest of a text behind its beginning. -/
theorem slice_rest
    (before rest : List Char) :
    slice (before ++ rest) (size before) (size (before ++ rest)) = .ok rest := by
  have part := slice_append before rest []
  rwa [List.append_nil, ← size_append] at part

/-- The beginning of a text. -/
theorem slice_start
    (part rest : List Char) :
    slice (part ++ rest) 0 (size part) = .ok part := by
  have from_start := slice_append [] part rest
  rwa [List.nil_append, size_nil, Nat.zero_add] at from_start

/-- The byte at which the character at a position begins. -/
def byteAt
    (cs : List Char)
    (position : Nat) : Nat :=
  size (cs.take position)

theorem slice_byteAt_size
    (cs : List Char)
    (position : Nat) :
    slice cs (byteAt cs position) (size cs) = .ok (cs.drop position) := by
  have rest := slice_rest (cs.take position) (cs.drop position)
  rwa [List.take_append_drop] at rest

theorem slice_zero_byteAt
    (cs : List Char)
    (position : Nat) :
    slice cs 0 (byteAt cs position) = .ok (cs.take position) := by
  have start := slice_start (cs.take position) (cs.drop position)
  rwa [List.take_append_drop] at start

/-- Positions in order have a part between them. -/
theorem slice_byteAt
    (cs : List Char)
    {first last : Nat}
    (ordered : first ≤ last) :
    slice cs (byteAt cs first) (byteAt cs last) = .ok ((cs.take last).drop first) := by
  have first_eq : (cs.take last).take first = cs.take first := by
    rw [List.take_take, Nat.min_eq_left ordered]
  have whole : cs.take first ++ ((cs.take last).drop first ++ cs.drop last) = cs := by
    rw [← List.append_assoc, ← first_eq, List.take_append_drop, List.take_append_drop]
  have sizes : size (cs.take first) + size ((cs.take last).drop first) = byteAt cs last := by
    rw [← size_append, ← first_eq, List.take_append_drop, byteAt]
  have part := slice_append (cs.take first) ((cs.take last).drop first) (cs.drop last)
  rwa [whole, sizes] at part

/-- Behind a word the next character begins as many bytes later as the word has. -/
theorem byteAt_append
    (before word after : List Char) :
    byteAt (before ++ (word ++ after)) (before.length + word.length) =
      byteAt (before ++ (word ++ after)) before.length + size word := by
  rw [byteAt, byteAt, List.take_length_add_append, List.take_left, List.take_left, size_append]

end Tablewright.Text
