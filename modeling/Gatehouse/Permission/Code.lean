/-
Permission codes.

A code is a text whose segments are separated by points.  Codes are compared
without regard to letter case, by their normal form, which is their upper case.
The points make a hierarchy: `a.b` lies under `a`.  Nothing is excluded, so a
code may be empty, and a segment may be.
-/
import Gatehouse.Text.Uppercase
import Gatehouse.Text.Utf8

namespace Gatehouse

/-! ### Text split at points -/

/-- The pieces of a text between its points. -/
def splitPoints : List Char → List (List Char)
  | [] => [[]]
  | c :: cs =>
    if c = '.' then [] :: splitPoints cs
    else
      match splitPoints cs with
      | [] => [[c]]
      | s :: ss => (c :: s) :: ss

/-- Pieces with points between them. -/
def joinPoints : List (List Char) → List Char
  | [] => []
  | [s] => s
  | s :: ss => s ++ '.' :: joinPoints ss

/-- Where each of some pieces ends, in bytes, if the first begins at `start`: from one to the next
there is a point, which takes one byte. -/
def pieceEnds (start : Nat) : List (List Char) → List Nat
  | [] => []
  | s :: ss => (start + Text.byteLength s) :: pieceEnds (start + Text.byteLength s + 1) ss

/-- What precedes the last point. -/
def beforeLastPoint : List Char → Option (List Char)
  | [] => none
  | c :: cs =>
    match beforeLastPoint cs with
    | some s => some (c :: s)
    | none => if c = '.' then some [] else none

/-- Whether `code` goes on after `ancestor`, read without regard to case, with a point.  The
ancestor is cut off at its own length in bytes; the empty text is nobody's ancestor. -/
def liesUnder (code ancestor : List Char) : Bool :=
  match Text.splitAtByte (Text.byteLength ancestor) code with
  | none => false
  | some (head, rest) =>
    !ancestor.isEmpty && head.flatMap Text.upperChar == ancestor.flatMap Text.upperChar
      && rest.head? == some '.'

/-! ### Codes -/

/-- A permission code. -/
structure Code where
  /-- The code as it was written. -/
  text : String
  deriving DecidableEq, Inhabited

namespace Code

/-- The form in which codes are compared. -/
def normalized (c : Code) : String := Text.upper c.text

/-- The pieces between the points. -/
def segments (c : Code) : List String := (splitPoints c.text.toList).map String.ofList

/-- How many segments the code has. -/
def depth (c : Code) : Nat := c.segments.length

/-- The code one level up, if the code has a point. -/
def parent (c : Code) : Option Code := (beforeLastPoint c.text.toList).map fun s => ⟨String.ofList s⟩

/-- Where the segments end, in bytes. -/
def ends (c : Code) : List Nat := pieceEnds 0 (splitPoints c.text.toList)

/-- The code up to byte `n`, if a character ends at that byte. -/
def upTo? (c : Code) (n : Nat) : Option Code :=
  (Text.splitAtByte n c.text.toList).map fun p => ⟨String.ofList p.1⟩

/-- The code's ancestors from the topmost down, and the code itself last: it is cut off where each
segment ends. -/
def prefixes (c : Code) : List Code := c.ends.filterMap c.upTo?

/-- Whether the code lies under another one. -/
def isDescendantOf (c ancestor : Code) : Bool := liesUnder c.text.toList ancestor.text.toList

end Code

/-! ### Small laws -/

theorem splitPoints_ne_nil (cs : List Char) : splitPoints cs ≠ [] := by
  cases cs with
  | nil => simp [splitPoints]
  | cons c cs =>
    rw [splitPoints]
    split
    · simp
    · split <;> simp

theorem joinPoints_cons_cons (c : Char) (s : List Char) (ss : List (List Char)) :
    joinPoints ((c :: s) :: ss) = c :: joinPoints (s :: ss) := by
  cases ss <;> rfl

/-- Nothing is lost by splitting. -/
theorem joinPoints_splitPoints (cs : List Char) : joinPoints (splitPoints cs) = cs := by
  induction cs with
  | nil => rfl
  | cons c cs ih =>
    rw [splitPoints]
    split
    · rename_i h
      cases hs : splitPoints cs with
      | nil => exact absurd hs (splitPoints_ne_nil cs)
      | cons s ss => rw [← ih, hs, h]; rfl
    · split
      · rename_i hs
        exact absurd hs (splitPoints_ne_nil cs)
      · rename_i s ss hs
        rw [joinPoints_cons_cons, ← hs, ih]

theorem liesUnder_iff {code ancestor : List Char} :
    liesUnder code ancestor = true ↔
      ancestor ≠ [] ∧ ∃ head rest, code = head ++ '.' :: rest ∧
        Text.byteLength head = Text.byteLength ancestor ∧
        head.flatMap Text.upperChar = ancestor.flatMap Text.upperChar := by
  unfold liesUnder
  constructor
  · intro h
    split at h
    · simp at h
    · rename_i head rest hs
      simp only [Bool.and_eq_true, Bool.not_eq_true', List.isEmpty_eq_false_iff, beq_iff_eq] at h
      obtain ⟨⟨hne, hu⟩, hd⟩ := h
      obtain ⟨rfl, hl⟩ := Text.splitAtByte_eq_some_iff.1 hs
      obtain ⟨tail, rfl⟩ := List.head?_eq_some_iff.1 hd
      exact ⟨hne, head, tail, rfl, hl, hu⟩
  · rintro ⟨hne, head, rest, rfl, hl, hu⟩
    rw [Text.splitAtByte_eq_some_iff.2 ⟨rfl, hl⟩]
    simp [hne, hu]

end Gatehouse
