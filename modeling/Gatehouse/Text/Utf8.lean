/-
Text as bytes.

A text is hashed as its UTF-8 bytes, and an ancestor is cut off a code at a
number of bytes.  A cut that would fall inside a character is refused.
-/
namespace Gatehouse.Text

/-- The bytes of a text. -/
def utf8 (cs : List Char) : List UInt8 := cs.flatMap String.utf8EncodeChar

/-- How many bytes a text takes. -/
def byteLength : List Char → Nat
  | [] => 0
  | c :: cs => c.utf8Size + byteLength cs

/-- The text up to byte `n` and the text from there, if a character ends at that byte. -/
def splitAtByte : Nat → List Char → Option (List Char × List Char)
  | 0, cs => some ([], cs)
  | _ + 1, [] => none
  | n + 1, c :: cs =>
    if c.utf8Size ≤ n + 1 then
      (splitAtByte (n + 1 - c.utf8Size) cs).map fun p => (c :: p.1, p.2)
    else none
  termination_by structural _ cs => cs

@[simp] theorem byteLength_nil : byteLength [] = 0 := rfl

@[simp] theorem byteLength_cons (c : Char) (cs : List Char) :
    byteLength (c :: cs) = c.utf8Size + byteLength cs := rfl

@[simp] theorem byteLength_append (xs ys : List Char) :
    byteLength (xs ++ ys) = byteLength xs + byteLength ys := by
  induction xs with
  | nil => simp
  | cons x xs ih =>
    rw [List.cons_append, byteLength_cons, byteLength_cons, ih]
    omega

theorem byteLength_eq_zero_iff {cs : List Char} : byteLength cs = 0 ↔ cs = [] := by
  cases cs with
  | nil => simp
  | cons c cs =>
    have := Char.utf8Size_pos c
    simp only [byteLength_cons, reduceCtorEq, iff_false]
    omega

/-- A cut loses nothing and falls where it was asked for. -/
theorem splitAtByte_eq_some_iff {n : Nat} {cs xs ys : List Char} :
    splitAtByte n cs = some (xs, ys) ↔ cs = xs ++ ys ∧ byteLength xs = n := by
  induction cs generalizing n xs with
  | nil =>
    cases n with
    | zero => cases xs <;> cases ys <;> simp [splitAtByte]
    | succ n =>
      simp only [splitAtByte, reduceCtorEq, List.nil_eq, List.append_eq_nil_iff, false_iff, not_and]
      rintro ⟨rfl, -⟩
      simp
  | cons c cs ih =>
    have hc := Char.utf8Size_pos c
    cases n with
    | zero =>
      simp only [splitAtByte, Option.some.injEq, Prod.mk.injEq, byteLength_eq_zero_iff]
      constructor
      · rintro ⟨rfl, rfl⟩
        simp
      · rintro ⟨h, rfl⟩
        simpa using h
    | succ n =>
      simp only [splitAtByte]
      split
      · simp only [Option.map_eq_some_iff, Prod.mk.injEq, Prod.exists]
        constructor
        · rintro ⟨as, bs, h, rfl, rfl⟩
          obtain ⟨rfl, hn⟩ := ih.1 h
          refine ⟨rfl, ?_⟩
          simp only [byteLength_cons]
          omega
        · rintro ⟨h, hn⟩
          cases xs with
          | nil => simp at hn
          | cons x xs =>
            obtain ⟨rfl, rfl⟩ := List.cons.inj h
            refine ⟨xs, ys, ih.2 ⟨rfl, ?_⟩, rfl, rfl⟩
            simp only [byteLength_cons] at hn
            omega
      · simp only [reduceCtorEq, false_iff, not_and]
        intro h hn
        cases xs with
        | nil => simp at hn
        | cons x xs =>
          obtain ⟨rfl, rfl⟩ := List.cons.inj h
          simp only [byteLength_cons] at hn
          omega

end Gatehouse.Text
