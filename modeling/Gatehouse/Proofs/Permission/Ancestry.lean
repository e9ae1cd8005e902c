/-
Lying under a code, as an order.

A code is cut off at the length of the ancestor as it was written, and the piece is
compared in upper case.  A code that goes on from the ancestor in a spelling of another
length is therefore cut at the wrong place (`Shifts`), and does not count.

What goes on from what (`Continues`) is a strict order and a matter of normal forms
alone: upper case keeps the points, so it can be told from the number of points where
the ancestor has to end.  Lying under is that order less the shifted pairs, and so it is
itself an order, and blind to letter case, just as far as none of the codes is shifted.
A chain can be: `I.ı.x` lies under `ı.I`, where one letter is longer and the other is
shorter, and `ı.I` under `ı`, but `I.ı.x` does not lie under `ı`.
-/
import Gatehouse.Proofs.Permission.Descent

namespace Gatehouse

namespace Text

theorem upper_eq_empty_iff {s : String} : upper s = "" ↔ s = "" := by
  refine ⟨?_, ?_⟩
  · intro h
    rw [← String.toList_eq_nil_iff, toList_upper, List.flatMap_eq_nil_iff] at h
    rw [← String.toList_eq_nil_iff, List.eq_nil_iff_forall_not_mem]
    exact fun c hc => upperChar_ne_nil c (h c hc)
  · rintro rfl
    exact upper_empty

/-- Two ways to cut a text at a point are one if as many points stand before the cut. -/
theorem head_unique {hs hs' rs rs' : List Char} (h : hs ++ '.' :: rs = hs' ++ '.' :: rs')
    (hcount : hs.count '.' = hs'.count '.') : hs = hs' := by
  induction hs generalizing hs' with
  | nil =>
    cases hs' with
    | nil => rfl
    | cons d ds =>
      obtain ⟨rfl, -⟩ := List.cons.inj h
      rw [List.count_cons_self] at hcount
      cases hcount
  | cons c cs ih =>
    cases hs' with
    | nil =>
      obtain ⟨rfl, -⟩ := List.cons.inj h
      rw [List.count_cons_self] at hcount
      cases hcount
    | cons d ds =>
      obtain ⟨rfl, htail⟩ := List.cons.inj h
      rw [List.count_cons, List.count_cons, Nat.add_right_cancel_iff] at hcount
      rw [ih htail hcount]

end Text

namespace Code

variable {a a' b c c' : Code}

/-- The code goes on, after a point, from the text in a spelling of another length, so that it is cut
at the wrong place. -/
def Shifts (c : Code) (a : String) : Prop :=
  ∃ head rest, c.text = head ++ "." ++ rest ∧ Text.upper head = Text.upper a ∧
    Text.byteLength head.toList ≠ Text.byteLength a.toList

/-! ### Where the ancestor ends -/

theorem count_point_of_upper_eq {s t : String} (h : Text.upper s = Text.upper t) :
    s.toList.count '.' = t.toList.count '.' := by
  rw [← Text.count_point_flatMap_upperChar s.toList, Text.upper_eq_iff.1 h,
    Text.count_point_flatMap_upperChar]

/-- A code goes on from a text in one place only. -/
theorem head_eq_of_upper_eq {s s' : String} {rest rest' : String}
    (h : s ++ "." ++ rest = s' ++ "." ++ rest') (hupper : Text.upper s = Text.upper s') :
    s = s' := by
  have hpoint : ".".toList = ['.'] := rfl
  rw [← String.toList_inj] at h ⊢
  simp only [String.toList_append, hpoint, List.append_assoc, List.singleton_append] at h
  exact Text.head_unique h (count_point_of_upper_eq hupper)

/-- Lying under a code is going on from it without being shifted. -/
theorem isDescendantOf_iff_not_shifts : c.isDescendantOf a = true ↔
    a.text ≠ "" ∧ c.Continues a.text ∧ ¬ c.Shifts a.text := by
  rw [isDescendantOf_iff]
  refine and_congr_right fun _ => ⟨?_, ?_⟩
  · rintro ⟨head, rest, hc, hlength, hupper⟩
    refine ⟨⟨head, rest, hc, hupper⟩, ?_⟩
    rintro ⟨head', rest', hc', hupper', hother⟩
    obtain rfl := head_eq_of_upper_eq (hc.symm.trans hc') (hupper.trans hupper'.symm)
    exact hother hlength
  · rintro ⟨⟨head, rest, hc, hupper⟩, hfixed⟩
    have hlength : Text.byteLength head.toList = Text.byteLength a.text.toList := by
      by_contra hother
      exact hfixed ⟨head, rest, hc, hupper, hother⟩
    exact ⟨head, rest, hc, hlength, hupper⟩

/-! ### Going on is a strict order of normal forms -/

/-- A code goes on from a text if the text and a point begin its normal form. -/
theorem continues_iff_normalized {s : String} :
    c.Continues s ↔ ∃ rest, c.normalized = Text.upper s ++ "." ++ rest := by
  have hpoint : ".".toList = ['.'] := rfl
  rw [continues_iff]
  refine ⟨?_, ?_⟩
  · rintro ⟨head, rest, hc, hupper⟩
    refine ⟨.ofList (rest.flatMap Text.upperChar), ?_⟩
    rw [← String.toList_inj, normalized, Text.toList_upper, hc]
    simp [hpoint, hupper, Text.upperChar_point]
  · rintro ⟨rest, hform⟩
    rw [← String.toList_inj, normalized, Text.toList_upper, String.toList_append,
      String.toList_append, hpoint, Text.toList_upper, List.append_assoc] at hform
    obtain ⟨head, rest', hc, hupper, -⟩ := Text.flatMap_upperChar_eq_append_point.1 hform
    exact ⟨head, rest', hc, hupper⟩

theorem not_continues_self : ¬ c.Continues c.text := by
  rw [continues_iff_normalized]
  rintro ⟨rest, hform⟩
  have hlength := congrArg String.length hform
  have hpoint : ".".length = 1 := rfl
  rw [normalized, String.length_append, String.length_append, hpoint] at hlength
  omega

theorem Continues.trans {s : String} (hcb : c.Continues b.text) (hba : b.Continues s) :
    c.Continues s := by
  rw [continues_iff_normalized] at hcb hba ⊢
  obtain ⟨rest, hb⟩ := hba
  obtain ⟨rest', hc⟩ := hcb
  rw [← normalized, hb] at hc
  refine ⟨rest ++ "." ++ rest', ?_⟩
  simp only [hc, String.append_assoc]

theorem continues_congr (hc : c.normalized = c'.normalized) (ha : a.normalized = a'.normalized) :
    c.Continues a.text ↔ c'.Continues a'.text := by
  rw [continues_iff_normalized, continues_iff_normalized, ← normalized, ← normalized, hc, ha]

/-! ### Codes that are not shifted -/

theorem text_ne_empty_congr (ha : a.normalized = a'.normalized) : a.text ≠ "" ↔ a'.text ≠ "" := by
  rw [ne_eq, ne_eq, ← Text.upper_eq_empty_iff (s := a.text), ← Text.upper_eq_empty_iff (s := a'.text),
    ← normalized, ← normalized, ha]

theorem Shifts.continues {s : String} (h : c.Shifts s) : c.Continues s := by
  obtain ⟨head, rest, hc, hupper, -⟩ := h
  exact ⟨head, rest, hc, hupper⟩

theorem not_shifts_empty : ¬ c.Shifts "" := by
  rintro ⟨head, rest, -, hupper, hother⟩
  rw [Text.upper_empty, Text.upper_eq_empty_iff] at hupper
  exact hother (by rw [hupper])

/-- Nothing is shifted in upper case. -/
theorem not_shifts_normalized : ¬ (⟨c.normalized⟩ : Code).Shifts a.normalized := by
  rintro ⟨head, rest, hform, hupper, hother⟩
  have hhead : Text.upper head = head := by
    rw [← String.toList_inj, normalized, Text.toList_upper, String.toList_append,
      String.toList_append, List.append_assoc] at hform
    obtain ⟨h, -, -, hh, -⟩ := Text.flatMap_upperChar_eq_append_point.1 hform
    rw [← String.toList_inj, Text.toList_upper, ← hh, List.flatMap_assoc]
    simp only [Text.flatMap_upperChar]
  rw [hhead, normalized, Text.upper_upper] at hupper
  exact hother (by rw [hupper, normalized])

/-- Nothing is shifted where upper case keeps lengths. -/
theorem not_shifts_of_keepsLength {s : String} (hs : Text.KeepsLength s)
    (hc : ∀ head rest, c.text = head ++ "." ++ rest → Text.KeepsLength head) : ¬ c.Shifts s := by
  rintro ⟨head, rest, htext, hupper, hother⟩
  have hhead := hc head rest htext
  rw [Text.KeepsLength, hupper, hs] at hhead
  exact hother hhead.symm

theorem keepsLength_head_of_ascii (h : ∀ ch ∈ c.text.toList, ch.toNat < 128) :
    ∀ head rest, c.text = head ++ "." ++ rest → Text.KeepsLength head := by
  intro head rest htext
  refine Text.keepsLength_of_ascii fun ch hch => h ch ?_
  rw [htext]
  simp [hch]

theorem isDescendantOf_self : c.isDescendantOf c = false := by
  rw [Bool.eq_false_iff]
  exact fun h => not_continues_self (continues_of_isDescendantOf h)

theorem isDescendantOf_trans_iff (hcb : c.isDescendantOf b = true)
    (hba : b.isDescendantOf a = true) : c.isDescendantOf a = true ↔ ¬ c.Shifts a.text := by
  have hcontinues := (continues_of_isDescendantOf hcb).trans (continues_of_isDescendantOf hba)
  have hne := (isDescendantOf_iff.1 hba).1
  rw [isDescendantOf_iff_not_shifts]
  exact ⟨fun h => h.2.2, fun hfixed => ⟨hne, hcontinues, hfixed⟩⟩

/-- Other spellings get the same answer if they are shifted alike. -/
theorem isDescendantOf_congr_iff (hc : c.normalized = c'.normalized)
    (ha : a.normalized = a'.normalized) :
    c.isDescendantOf a = c'.isDescendantOf a' ↔ (c.Shifts a.text ↔ c'.Shifts a'.text) := by
  have hnone : ∀ {d e : Code}, ¬ (e.text ≠ "" ∧ d.Continues e.text) → ¬ d.Shifts e.text := by
    intro d e hnot hshifts
    refine hnot ⟨?_, hshifts.continues⟩
    intro hempty
    rw [hempty] at hshifts
    exact not_shifts_empty hshifts
  have hsame := and_congr (text_ne_empty_congr ha) (continues_congr hc ha)
  rw [Bool.eq_iff_iff, isDescendantOf_iff_not_shifts, isDescendantOf_iff_not_shifts,
    ← and_assoc, ← and_assoc, ← hsame]
  by_cases hgoes : a.text ≠ "" ∧ c.Continues a.text
  · rw [and_iff_right hgoes, and_iff_right hgoes]
    exact not_iff_not
  · exact iff_of_true (iff_of_false (fun h => hgoes h.1) fun h => hgoes h.1)
      (iff_of_false (hnone hgoes) (hnone fun h => hgoes (hsame.2 h)))

/-- **Lying under a code is a strict order, and blind to case, as far as no code is shifted.**  No
code lies under itself.  A chain can be shortened, and codes that are written in another way get the
same answer, exactly if the ancestor is not shifted, or is in both.  Nothing is shifted in upper
case, nor where upper case keeps lengths. -/
theorem strict_order_unless_shifted (a a' b c c' : Code) :
    (c.isDescendantOf a = true ↔ a.text ≠ "" ∧ c.Continues a.text ∧ ¬ c.Shifts a.text) ∧
    c.isDescendantOf c = false ∧
    (c.isDescendantOf b = true → b.isDescendantOf a = true →
      (c.isDescendantOf a = true ↔ ¬ c.Shifts a.text)) ∧
    (c.normalized = c'.normalized → a.normalized = a'.normalized →
      (c.isDescendantOf a = c'.isDescendantOf a' ↔ (c.Shifts a.text ↔ c'.Shifts a'.text))) ∧
    ¬ (⟨c.normalized⟩ : Code).Shifts a.normalized ∧
    (Text.KeepsLength a.text →
      (∀ head rest, c.text = head ++ "." ++ rest → Text.KeepsLength head) →
      ¬ c.Shifts a.text) :=
  ⟨isDescendantOf_iff_not_shifts, isDescendantOf_self, isDescendantOf_trans_iff,
    isDescendantOf_congr_iff, not_shifts_normalized, not_shifts_of_keepsLength⟩

/-- In ASCII the chain holds in whatever case its codes are written. -/
theorem chain_in_small_letters :
    let a : Code := ⟨"AA"⟩
    let a' : Code := ⟨"aA"⟩
    let b : Code := ⟨"aa.bB"⟩
    let c : Code := ⟨"Aa.Bb.CC"⟩
    let c' : Code := ⟨"aa.bb.cc"⟩
    c.isDescendantOf b = true ∧ b.isDescendantOf a = true ∧ ¬ c.Shifts a.text ∧
      c.isDescendantOf a = true ∧
      c.normalized = c'.normalized ∧ a.normalized = a'.normalized ∧
      (c.isDescendantOf a = c'.isDescendantOf a' ↔ (c.Shifts a.text ↔ c'.Shifts a'.text)) := by
  intro a a' b c c'
  have hcb : c.isDescendantOf b = true := by decide +kernel
  have hba : b.isDescendantOf a = true := by decide +kernel
  have hc : c.normalized = c'.normalized := by decide +kernel
  have ha : a.normalized = a'.normalized := by decide +kernel
  have hkeeps : Text.KeepsLength a.text := by
    unfold Text.KeepsLength
    decide +kernel
  have hascii : (c.text.toList.all fun ch => ch.toNat < 128) = true := by decide
  have hheads := keepsLength_head_of_ascii fun ch hch =>
    of_decide_eq_true (List.all_eq_true.1 hascii ch hch)
  obtain ⟨-, -, hchain, hforms, -, hnone⟩ := strict_order_unless_shifted a a' b c c'
  have hfixed := hnone hkeeps hheads
  exact ⟨hcb, hba, hfixed, (hchain hcb hba).2 hfixed, hc, ha, hforms hc ha⟩

/-- The small `ı` is the capital `I` and one byte longer.  It may take the place of `I`, and in a chain
the one too long may make up for one too short, but not further up. -/
theorem chain_broken_by_dotless :
    ((⟨"I.ı.x"⟩ : Code).isDescendantOf ⟨"ı.I"⟩ = true ∧
      (⟨"ı.I"⟩ : Code).isDescendantOf ⟨"ı"⟩ = true ∧
      (⟨"I.ı.x"⟩ : Code).isDescendantOf ⟨"ı"⟩ = false) ∧
    ((⟨"ı.x"⟩ : Code).normalized = (⟨"I.x"⟩ : Code).normalized ∧
      (⟨"I.x"⟩ : Code).isDescendantOf ⟨"I"⟩ = true ∧
      (⟨"ı.x"⟩ : Code).isDescendantOf ⟨"I"⟩ = false) := by
  decide +kernel

end Code

end Gatehouse
