/-
What lies under a text in a permission set.

A code is asked as it was written: it lies under an ancestor if a piece of it, as many
bytes long as the ancestor and spelled like it, is followed by a point.  A set asks the
normal forms instead, and cuts them at the length of an ancestor that is not in normal
form.  Upper case may take more or fewer bytes (`ı` takes two and `I` one), so the two
cut at different places.

Both look for the codes that go on from the ancestor in some spelling (`Continues`).
A code wants that spelling to be as long as the ancestor; a set wants the ancestor to
be as long as its own upper case, and then takes every spelling.  Where upper case
keeps lengths, as it does in ASCII, there is no difference.
-/
import Gatehouse.Permission.Set
import Gatehouse.Proofs.Text.Uppercase
import Mathlib.Tactic.ByContra

namespace Gatehouse

namespace Text

/-- Upper case takes as many bytes. -/
def KeepsLength (s : String) : Prop := byteLength (upper s).toList = byteLength s.toList

theorem byteLength_upperChar_ascii : ∀ n < 128,
    byteLength (upperChar (Char.ofNat n)) = (Char.ofNat n).utf8Size := by
  decide

theorem keepsLength_of_ascii {s : String} (h : ∀ c ∈ s.toList, c.toNat < 128) : KeepsLength s := by
  unfold KeepsLength
  rw [toList_upper]
  revert h
  induction s.toList with
  | nil =>
    intro h
    rfl
  | cons c cs ih =>
    intro h
    have hc := byteLength_upperChar_ascii c.toNat (h c (by simp))
    rw [Char.ofNat_toNat] at hc
    rw [List.flatMap_cons, byteLength_append, hc, ih fun d hd => h d (by simp [hd])]
    rfl

theorem upper_eq_iff {s t : String} :
    upper s = upper t ↔ s.toList.flatMap upperChar = t.toList.flatMap upperChar := by
  rw [← String.toList_inj, toList_upper, toList_upper]

/-- A split at a point, in characters and in texts. -/
theorem exists_split_point {s : String} {p : List Char → Prop} :
    (∃ head rest, s.toList = head ++ '.' :: rest ∧ p head) ↔
      ∃ head rest, s = head ++ "." ++ rest ∧ p head.toList := by
  have hpoint : ".".toList = ['.'] := rfl
  refine ⟨?_, ?_⟩
  · rintro ⟨head, rest, hs, hp⟩
    refine ⟨.ofList head, .ofList rest, ?_, by rwa [String.toList_ofList]⟩
    rw [← String.toList_inj, hs]
    simp [hpoint]
  · rintro ⟨head, rest, rfl, hp⟩
    exact ⟨head.toList, rest.toList, by simp [hpoint], hp⟩

end Text

/-! ### One code -/

namespace Code

/-- The code goes on, after a point, from the text in some spelling. -/
def Continues (c : Code) (a : String) : Prop :=
  ∃ head rest, c.text = head ++ "." ++ rest ∧ Text.upper head = Text.upper a

theorem continues_iff {c : Code} {a : String} : c.Continues a ↔
    ∃ head rest, c.text.toList = head ++ '.' :: rest ∧
      head.flatMap Text.upperChar = a.toList.flatMap Text.upperChar := by
  unfold Continues
  rw [Text.exists_split_point]
  simp only [Text.upper_eq_iff]

/-- A code lies under an ancestor if it goes on from it in a spelling of the same length. -/
theorem isDescendantOf_iff {c a : Code} : c.isDescendantOf a = true ↔
    a.text ≠ "" ∧ ∃ head rest, c.text = head ++ "." ++ rest ∧
      Text.byteLength head.toList = Text.byteLength a.text.toList ∧
      Text.upper head = Text.upper a.text := by
  unfold isDescendantOf
  rw [liesUnder_iff, Text.exists_split_point, ne_eq, String.toList_eq_nil_iff]
  simp only [Text.upper_eq_iff, ne_eq]

theorem continues_of_isDescendantOf {c a : Code} (h : c.isDescendantOf a = true) :
    c.Continues a.text := by
  obtain ⟨-, head, rest, hc, -, hupper⟩ := isDescendantOf_iff.1 h
  exact ⟨head, rest, hc, hupper⟩

/-- A normal form lies under a text if the text keeps its length and the code goes on from it, in
whatever spelling: once in upper case all spellings are as long. -/
theorem liesUnder_normalized_iff {c : Code} {a : String} :
    liesUnder c.normalized.toList a.toList = true ↔
      a ≠ "" ∧ Text.KeepsLength a ∧ c.Continues a := by
  have htwice : ∀ cs : List Char,
      (cs.flatMap Text.upperChar).flatMap Text.upperChar = cs.flatMap Text.upperChar := by
    intro cs
    rw [List.flatMap_assoc]
    simp only [Text.flatMap_upperChar]
  rw [liesUnder_iff, continues_iff, Text.KeepsLength, normalized, Text.toList_upper,
    Text.toList_upper, ne_eq, String.toList_eq_nil_iff]
  refine and_congr_right fun _ => ?_
  refine ⟨?_, ?_⟩
  · rintro ⟨head, rest, hform, hlength, hupper⟩
    obtain ⟨h, r, hc, rfl, -⟩ := Text.flatMap_upperChar_eq_append_point.1 hform
    rw [htwice] at hupper
    exact ⟨by rw [← hupper, hlength], h, r, hc, hupper⟩
  · rintro ⟨hkeeps, h, r, hc, hupper⟩
    refine ⟨h.flatMap Text.upperChar, r.flatMap Text.upperChar,
      Text.flatMap_upperChar_eq_append_point.2 ⟨h, r, hc, rfl, rfl⟩, ?_, ?_⟩
    · rw [hupper, hkeeps]
    · rw [htwice, hupper]

end Code

namespace PermissionSet

variable {s : PermissionSet} {a : String}

/-- Something listed lies under the text, and the set misses it, since upper case changes the length
of the text. -/
def Overlooks (s : PermissionSet) (a : String) : Prop :=
  s.contains a = false ∧ ¬ Text.KeepsLength a ∧ ∃ c ∈ s.codes, c.isDescendantOf ⟨a⟩ = true

/-- Nothing listed lies under the text, and the set finds something that goes on from a spelling of
another length. -/
def Imagines (s : PermissionSet) (a : String) : Prop :=
  s.contains a = false ∧ a ≠ "" ∧ Text.KeepsLength a ∧ (∃ c ∈ s.codes, c.Continues a) ∧
    ∀ c ∈ s.codes, c.isDescendantOf ⟨a⟩ = false

theorem containsDescendantOf_iff : s.containsDescendantOf a = true ↔
    s.contains a = true ∨ a ≠ "" ∧ Text.KeepsLength a ∧ ∃ c ∈ s.codes, c.Continues a := by
  have hforms : s.spellings.forms.any (fun f => liesUnder f.toList a.toList) = true ↔
      ∃ c ∈ s.codes, liesUnder c.normalized.toList a.toList = true := by
    rw [Catalog.forms_eq, List.any_map, List.any_eq_true]
    rfl
  unfold containsDescendantOf
  rw [Bool.or_eq_true, hforms]
  refine or_congr_right ?_
  simp only [Code.liesUnder_normalized_iff]
  refine ⟨?_, ?_⟩
  · rintro ⟨c, hc, hne, hkeeps, hcontinues⟩
    exact ⟨hne, hkeeps, c, hc, hcontinues⟩
  · rintro ⟨hne, hkeeps, c, hc, hcontinues⟩
    exact ⟨c, hc, hne, hkeeps, hcontinues⟩

/-- Where nothing that stands before a point of a listed code changes its length, codes that go on
from the text lie under it. -/
theorem isDescendantOf_of_continues {c : Code} (hne : a ≠ "") (ha : Text.KeepsLength a)
    (hc : ∀ head rest, c.text = head ++ "." ++ rest → Text.KeepsLength head)
    (h : c.Continues a) : c.isDescendantOf ⟨a⟩ = true := by
  obtain ⟨head, rest, htext, hupper⟩ := h
  have hhead := hc head rest htext
  rw [Text.KeepsLength, hupper, ha] at hhead
  exact Code.isDescendantOf_iff.2 ⟨hne, head, rest, htext, hhead.symm, hupper⟩

theorem answers_iff : (s.containsDescendantOf a = true ↔
      s.contains a = true ∨ ∃ c ∈ s.codes, c.isDescendantOf ⟨a⟩ = true) ↔
    ¬ s.Overlooks a ∧ ¬ s.Imagines a := by
  rw [containsDescendantOf_iff]
  refine ⟨?_, ?_⟩
  · intro hiff
    refine ⟨?_, ?_⟩
    · rintro ⟨hnot, hchanges, hlisted⟩
      rcases hiff.2 (.inr hlisted) with hc | ⟨-, hkeeps, -⟩
      · rw [hnot] at hc
        cases hc
      · exact hchanges hkeeps
    · rintro ⟨hnot, hne, hkeeps, hcontinues, hnone⟩
      rcases hiff.1 (.inr ⟨hne, hkeeps, hcontinues⟩) with hc | ⟨c, hc, hunder⟩
      · rw [hnot] at hc
        cases hc
      · rw [hnone c hc] at hunder
        cases hunder
  · rintro ⟨hoverlooks, himagines⟩
    by_cases hcontains : s.contains a = true
    · exact iff_of_true (.inl hcontains) (.inl hcontains)
    have hnot : s.contains a = false := by simpa using hcontains
    rw [or_iff_right hcontains, or_iff_right hcontains]
    refine ⟨?_, ?_⟩
    · rintro ⟨hne, hkeeps, hcontinues⟩
      by_contra hlisted
      refine himagines ⟨hnot, hne, hkeeps, hcontinues, fun c hc => ?_⟩
      rw [Bool.eq_false_iff]
      exact fun hunder => hlisted ⟨c, hc, hunder⟩
    · rintro ⟨c, hc, hunder⟩
      have hkeeps : Text.KeepsLength a := by
        by_contra hchanges
        exact hoverlooks ⟨hnot, hchanges, c, hc, hunder⟩
      exact ⟨(Code.isDescendantOf_iff.1 hunder).1, hkeeps, c, hc,
        Code.continues_of_isDescendantOf hunder⟩

/-- **A set finds the text or something listed under it, unless it overlooks or imagines
something.**  A code listed under the text is overlooked exactly if upper case changes the length of
the text, and where upper case keeps all lengths there is neither. -/
theorem containsDescendantOf_iff_listed (s : PermissionSet) (a : String) :
    (s.containsDescendantOf a = true ↔
      s.contains a = true ∨ a ≠ "" ∧ Text.KeepsLength a ∧ ∃ c ∈ s.codes, c.Continues a) ∧
    ((s.containsDescendantOf a = true ↔
        s.contains a = true ∨ ∃ c ∈ s.codes, c.isDescendantOf ⟨a⟩ = true) ↔
      ¬ s.Overlooks a ∧ ¬ s.Imagines a) ∧
    (∀ rest, a ≠ "" → ⟨a ++ "." ++ rest⟩ ∈ s.codes →
      (s.containsDescendantOf a = true ↔ s.contains a = true ∨ Text.KeepsLength a)) ∧
    (Text.KeepsLength a →
      (∀ c ∈ s.codes, ∀ head rest, c.text = head ++ "." ++ rest → Text.KeepsLength head) →
      ¬ s.Overlooks a ∧ ¬ s.Imagines a) := by
  refine ⟨containsDescendantOf_iff, answers_iff, ?_, ?_⟩
  · intro rest hne hlisted
    have hcontinues : ∃ c ∈ s.codes, c.Continues a := ⟨_, hlisted, a, rest, rfl, rfl⟩
    rw [containsDescendantOf_iff]
    refine or_congr_right ?_
    exact ⟨fun h => h.2.1, fun hkeeps => ⟨hne, hkeeps, hcontinues⟩⟩
  · intro hkeeps hheads
    refine ⟨fun h => h.2.1 hkeeps, ?_⟩
    rintro ⟨-, hne, -, ⟨c, hc, hcontinues⟩, hnone⟩
    have hunder := isDescendantOf_of_continues hne hkeeps (hheads c hc) hcontinues
    rw [hnone c hc] at hunder
    cases hunder

/-- In ASCII a set finds what is listed under a text in any spelling. -/
theorem descendant_of_small_letters :
    let s := ofCodes [⟨"AA.Bb.CC"⟩]
    (s.containsDescendantOf "aa.bB" = true ↔
      s.contains "aa.bB" = true ∨ ∃ c ∈ s.codes, c.isDescendantOf ⟨"aa.bB"⟩ = true) ∧
    (⟨"AA.Bb.CC"⟩ : Code).isDescendantOf ⟨"aa.bB"⟩ = true := by
  intro s
  have hcodes : s.codes = [⟨"AA.Bb.CC"⟩] := by decide +kernel
  have ha : Text.KeepsLength "aa.bB" := by
    unfold Text.KeepsLength
    decide +kernel
  have hheads : ∀ c ∈ s.codes, ∀ head rest, c.text = head ++ "." ++ rest →
      Text.KeepsLength head := by
    intro c hc head rest htext
    rw [hcodes, List.mem_singleton] at hc
    subst hc
    have hascii : ("AA.Bb.CC".toList.all fun ch => ch.toNat < 128) = true := by decide
    refine Text.keepsLength_of_ascii fun ch hch => of_decide_eq_true
      (List.all_eq_true.1 hascii ch ?_)
    rw [show "AA.Bb.CC" = head ++ "." ++ rest from htext]
    simp [hch]
  obtain ⟨-, hiff, -, hneither⟩ := containsDescendantOf_iff_listed s "aa.bB"
  exact ⟨hiff.2 (hneither ha hheads), by decide +kernel⟩

/-- The small `ı` is the capital `I` and one byte longer.  A set that lists a code under `ı` overlooks
it, and imagines one under `I`. -/
theorem descendant_of_dotless :
    let s := ofCodes [⟨"ı.x"⟩]
    s.codes = [⟨"ı.x"⟩] ∧
    ((⟨"ı.x"⟩ : Code).isDescendantOf ⟨"ı"⟩ = true ∧ s.containsDescendantOf "ı" = false) ∧
    ((⟨"ı.x"⟩ : Code).isDescendantOf ⟨"I"⟩ = false ∧ s.contains "I" = false ∧
      s.containsDescendantOf "I" = true) := by
  decide +kernel

end PermissionSet

end Gatehouse
