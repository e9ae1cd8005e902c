/-
Bytes tell texts apart, and sort them as their characters do.

Thumbprints are taken of bytes while sets and listings are kept in the order of
texts, so two things have to be known of UTF-8: different texts have different
bytes, and the order of texts is the order of their bytes.  Both come from one
fact about two characters, `encode_lt`: the bytes of the smaller character are
the smaller ones already where the two first differ, whatever follows them.

That fact is arithmetic once the bytes of a character are written by the digits
of its number to base 64, which is what `encode_shape` does.  Reading them off
the quotients instead leaves too many remainders to reason about at once.
-/
import Gatehouse.Text.Utf8

namespace Gatehouse.Text

/-! ### One character -/

/-- The four shapes of a character's bytes, by the digits of its number. -/
theorem encode_shape (c : Char) :
    (c.toNat < 128 ∧ String.utf8EncodeChar c = [.ofNat c.toNat]) ∨
    (∃ x y, c.toNat = 64 * x + y ∧ 2 ≤ x ∧ x < 32 ∧ y < 64 ∧
      String.utf8EncodeChar c = [.ofNat (x + 192), .ofNat (y + 128)]) ∨
    (∃ x y z, c.toNat = 4096 * x + 64 * y + z ∧ 2048 ≤ c.toNat ∧ x < 16 ∧ y < 64 ∧ z < 64 ∧
      String.utf8EncodeChar c = [.ofNat (x + 224), .ofNat (y + 128), .ofNat (z + 128)]) ∨
    (∃ w x y z, c.toNat = 262144 * w + 4096 * x + 64 * y + z ∧ 65536 ≤ c.toNat ∧
      w < 8 ∧ x < 64 ∧ y < 64 ∧ z < 64 ∧ String.utf8EncodeChar c =
        [.ofNat (w + 240), .ofNat (x + 128), .ofNat (y + 128), .ofNat (z + 128)]) := by
  have hc : c.toNat < 0x110000 := by
    have := c.valid
    simp only [UInt32.isValidChar, Nat.isValidChar] at this
    unfold Char.toNat
    omega
  unfold String.utf8EncodeChar
  simp only [show c.val.toNat = c.toNat from rfl]
  by_cases h1 : c.toNat ≤ 0x7f
  · exact .inl ⟨by omega, if_pos h1⟩
  by_cases h2 : c.toNat ≤ 0x7ff
  · refine .inr (.inl ⟨c.toNat / 64 % 32, c.toNat % 64, ?_, ?_, ?_, ?_, ?_⟩)
    · omega
    · omega
    · omega
    · omega
    · rw [if_neg h1, if_pos h2]
  by_cases h3 : c.toNat ≤ 0xffff
  · refine .inr (.inr (.inl
      ⟨c.toNat / 4096 % 16, c.toNat / 64 % 64, c.toNat % 64, ?_, ?_, ?_, ?_, ?_, ?_⟩))
    · omega
    · omega
    · omega
    · omega
    · omega
    · rw [if_neg h1, if_neg h2, if_pos h3]
  · refine .inr (.inr (.inr ⟨c.toNat / 262144 % 8, c.toNat / 4096 % 64, c.toNat / 64 % 64,
      c.toNat % 64, ?_, ?_, ?_, ?_, ?_, ?_, ?_⟩))
    · omega
    · omega
    · omega
    · omega
    · omega
    · omega
    · rw [if_neg h1, if_neg h2, if_neg h3]

/-- The bytes of the smaller character are smaller, whatever follows. -/
theorem encode_lt {c d : Char} (h : c < d) (xs ys : List UInt8) :
    String.utf8EncodeChar c ++ xs < String.utf8EncodeChar d ++ ys := by
  have hcd : c.toNat < d.toNat := h
  -- Every pair of shapes is decided by the first digit in which the numbers differ.
  rcases encode_shape c with ⟨_, hc⟩ | ⟨_, _, _, _, _, _, hc⟩ | ⟨_, _, _, _, _, _, _, _, hc⟩ |
      ⟨_, _, _, _, _, _, _, _, _, _, hc⟩ <;>
    rcases encode_shape d with ⟨_, hd⟩ | ⟨_, _, _, _, _, _, hd⟩ | ⟨_, _, _, _, _, _, _, _, hd⟩ |
      ⟨_, _, _, _, _, _, _, _, _, _, hd⟩ <;>
    simp only [hc, hd, List.cons_append, List.nil_append, List.cons_lt_cons_iff,
      UInt8.lt_iff_toNat_lt, ← UInt8.toNat_inj, UInt8.toNat_ofNat'] <;> omega

/-! ### Texts -/

@[simp] theorem utf8_nil : utf8 [] = [] := rfl

@[simp] theorem utf8_cons (c : Char) (cs : List Char) :
    utf8 (c :: cs) = String.utf8EncodeChar c ++ utf8 cs := rfl

theorem utf8_append (cs ds : List Char) : utf8 (cs ++ ds) = utf8 cs ++ utf8 ds :=
  List.flatMap_append

theorem utf8_ne_nil_of_cons (c : Char) (cs : List Char) : utf8 (c :: cs) ≠ [] := by
  rw [utf8_cons]
  intro h
  exact String.utf8EncodeChar_ne_nil (List.append_eq_nil_iff.1 h).1

/-- Different texts have different bytes. -/
theorem utf8_injective : ∀ {cs ds : List Char}, utf8 cs = utf8 ds → cs = ds := by
  intro cs
  induction cs with
  | nil =>
    intro ds h
    cases ds with
    | nil => rfl
    | cons d ds => exact absurd h.symm (utf8_ne_nil_of_cons d ds)
  | cons c cs ih =>
    intro ds h
    cases ds with
    | nil => exact absurd h (utf8_ne_nil_of_cons c cs)
    | cons d ds =>
      rw [utf8_cons, utf8_cons] at h
      rcases Std.lt_trichotomy c d with hlt | rfl | hgt
      · have := encode_lt hlt (utf8 cs) (utf8 ds)
        rw [h] at this
        exact absurd this (List.lt_irrefl _)
      · rw [ih (List.append_cancel_left h)]
      · have := encode_lt hgt (utf8 ds) (utf8 cs)
        rw [h] at this
        exact absurd this (List.lt_irrefl _)

theorem utf8_lt_of_lt {cs ds : List Char} (h : cs < ds) : utf8 cs < utf8 ds := by
  induction cs generalizing ds with
  | nil =>
    cases ds with
    | nil => exact absurd h (List.lt_irrefl _)
    | cons d ds =>
      have hne := utf8_ne_nil_of_cons d ds
      cases hd : utf8 (d :: ds) with
      | nil => exact absurd hd hne
      | cons b bs => exact List.nil_lt_cons b bs
  | cons c cs ih =>
    cases ds with
    | nil => exact absurd h (List.not_lt_nil _)
    | cons d ds =>
      rw [utf8_cons, utf8_cons]
      rcases List.cons_lt_cons_iff.1 h with hlt | ⟨rfl, htail⟩
      · exact encode_lt hlt _ _
      · exact List.append_left_lt (ih htail)

/-- The order of texts is the order of their bytes. -/
theorem utf8_lt_iff {s t : String} : utf8 s.toList < utf8 t.toList ↔ s < t := by
  refine ⟨?_, ?_⟩
  · intro h
    rcases Std.lt_trichotomy s t with hlt | rfl | hgt
    · exact hlt
    · exact absurd h (List.lt_irrefl _)
    · exact absurd h (List.lt_asymm (utf8_lt_of_lt hgt))
  · exact utf8_lt_of_lt

end Gatehouse.Text
