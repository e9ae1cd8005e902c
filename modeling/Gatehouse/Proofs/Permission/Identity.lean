/-
What the thumbprint of a permission set identifies.

Sets are compared by a digest of their normal forms, written one after the other
with a separator between them.  Read backwards, such a message gives the pieces
between the separators and nothing else: where a form has a separator inside it,
and whether there was an empty form or none at all, is no longer to be seen.  So,
the digest apart, equality of sets is equality of pieces (`message_eq_iff`), and it
is equality of members exactly where the pieces show the forms.

Every set has its pieces, so nothing has to be assumed to say when sets compare
equal.  Of the two ways in which pieces say too little, one needs a code with a
separator in it; the other is the pair of the set with no code and the set with
the empty code, `{}` and `{""}`.
-/
import Gatehouse.Permission.Set
import Gatehouse.Proofs.Permission.Catalog
import Gatehouse.Proofs.Text.Utf8

namespace Gatehouse

namespace Thumbprint

/-! ### Reading a message backwards -/

/-- The character whose byte stands between two texts. -/
def separator : Char := '\x1f'

/-- The texts of a message, written out as one. -/
def joined : List String → List Char
  | [] => []
  | [s] => s.toList
  | s :: ss => s.toList ++ separator :: joined ss

/-- What stands between the separators of the texts.  No text at all looks like an empty one. -/
def pieces (forms : List String) : List (List Char) :=
  if forms = [] then [[]] else forms.flatMap fun f => f.toList.splitOn separator

theorem message_eq_utf8 (forms : List String) : message forms = Text.utf8 (joined forms) := by
  fun_induction joined forms with
  | case1 => rfl
  | case2 s => rfl
  | case3 s ss hne ih =>
    rw [message.eq_3 _ _ hne, Text.utf8_append, Text.utf8_cons, ih]
    rfl

theorem splitOn_joined (forms : List String) : (joined forms).splitOn separator = pieces forms := by
  fun_induction joined forms with
  | case1 => rfl
  | case2 s => simp [pieces]
  | case3 s ss hne ih =>
    have hss : ss ≠ [] := fun h => hne h
    rw [List.splitOn_append_cons_self, ih, pieces, pieces, if_neg hss,
      if_neg (List.cons_ne_nil s ss), List.flatMap_cons]

/-- Two messages are the same when nothing but their pieces is. -/
theorem message_eq_iff {fs gs : List String} : message fs = message gs ↔ pieces fs = pieces gs := by
  rw [message_eq_utf8, message_eq_utf8, ← splitOn_joined, ← splitOn_joined]
  refine ⟨?_, ?_⟩
  · intro h
    rw [Text.utf8_injective h]
  · intro h
    have hjoined := congrArg (List.intercalate [separator]) h
    rw [List.intercalate_splitOn, List.intercalate_splitOn] at hjoined
    rw [hjoined]

/-- Texts without separators are their own pieces. -/
theorem pieces_eq_map {forms : List String} (hne : forms ≠ [])
    (hsep : ∀ f ∈ forms, separator ∉ f.toList) : pieces forms = forms.map String.toList := by
  rw [pieces, if_neg hne]
  clear hne
  induction forms with
  | nil => rfl
  | cons f fs ih =>
    rw [List.flatMap_cons, List.splitOn_eq_singleton (hsep f (by simp)),
      ih fun g hg => hsep g (by simp [hg])]
    rfl

/-- Texts without separators that have the same pieces are the same texts, unless there are none
on one side and only the empty text on the other. -/
theorem pieces_eq_iff {fs gs : List String} (hfs : ∀ f ∈ fs, separator ∉ f.toList)
    (hgs : ∀ g ∈ gs, separator ∉ g.toList) :
    pieces fs = pieces gs ↔ fs = gs ∨ fs = [] ∧ gs = [""] ∨ fs = [""] ∧ gs = [] := by
  have hinj : ∀ {xs ys : List String}, xs.map String.toList = ys.map String.toList → xs = ys :=
    fun h => (List.map_inj_right fun _ _ => String.toList_inj.1).1 h
  have hone : ∀ {xs : List String}, [[]] = xs.map String.toList ↔ xs = [""] := by
    intro xs
    refine ⟨?_, ?_⟩
    · intro h
      exact (hinj (h.symm.trans rfl : xs.map String.toList = [""].map String.toList))
    · intro heq
      subst heq
      rfl
  by_cases hf : fs = []
  · by_cases hg : gs = []
    · simp [hf, hg]
    · rw [pieces_eq_map hg hgs, pieces, if_pos hf, hone]
      simp [hf, hg, Ne.symm hg]
  · by_cases hg : gs = []
    · rw [pieces_eq_map hf hfs, eq_comm, pieces, if_pos hg, hone]
      simp [hf, hg]
    · rw [pieces_eq_map hf hfs, pieces_eq_map hg hgs]
      exact ⟨fun h => .inl (hinj h), by rintro (rfl | ⟨rfl, -⟩ | ⟨-, rfl⟩) <;> simp_all⟩

end Thumbprint

namespace PermissionSet

/-! ### Members and forms -/

/-- What stands between the separators of the set's normal forms. -/
def pieces (s : PermissionSet) : List (List Char) := Thumbprint.pieces s.spellings.forms

/-- The digest tells apart what it is taken of for the two sets. -/
def DigestTellsApart (s t : PermissionSet) : Prop :=
  sha256 (Thumbprint.message s.spellings.forms) = sha256 (Thumbprint.message t.spellings.forms) →
    Thumbprint.message s.spellings.forms = Thumbprint.message t.spellings.forms

/-- No normal form of the set has a separator in it. -/
def SeparatorFree (s : PermissionSet) : Prop :=
  ∀ f ∈ s.spellings.forms, Thumbprint.separator ∉ f.toList

theorem contains_iff {s : PermissionSet} {code : String} :
    s.contains code = true ↔ Text.upper code ∈ s.spellings.forms :=
  Catalog.mem_forms_iff.symm

/-- Sets that grant the same have the same normal forms, since every form is the upper case of
some code. -/
theorem forms_eq_iff {s t : PermissionSet} :
    s.spellings.forms = t.spellings.forms ↔ ∀ code, s.contains code = t.contains code := by
  refine ⟨?_, ?_⟩
  · intro h code
    rw [Bool.eq_iff_iff, contains_iff, contains_iff, h]
  · intro h
    refine Catalog.forms_ext fun f => ?_
    -- A form that is in use on either side is the upper case of the code filed there.
    have hform : ∀ {u : PermissionSet}, f ∈ u.spellings.forms → ∃ code, Text.upper code = f := by
      intro u hu
      rw [Catalog.forms_eq] at hu
      obtain ⟨c, -, rfl⟩ := List.mem_map.1 hu
      exact ⟨c.text, rfl⟩
    refine ⟨?_, ?_⟩
    · intro hs
      obtain ⟨code, rfl⟩ := hform hs
      exact contains_iff.1 (h code ▸ contains_iff.2 hs)
    · intro ht
      obtain ⟨code, rfl⟩ := hform ht
      exact contains_iff.1 ((h code).symm ▸ contains_iff.2 ht)

theorem beq_iff_digest {s t : PermissionSet} : (s == t) = true ↔
    sha256 (Thumbprint.message s.spellings.forms) =
      sha256 (Thumbprint.message t.spellings.forms) := by
  show (s.thumbprint == t.thumbprint) = true ↔ _
  rw [beq_iff_eq]
  exact Thumbprint.mk.injEq .. ▸ Iff.rfl

/-- Without a collision, sets compare equal when their messages are the same. -/
theorem beq_iff_message {s t : PermissionSet} (h : DigestTellsApart s t) : (s == t) = true ↔
    Thumbprint.message s.spellings.forms = Thumbprint.message t.spellings.forms := by
  rw [beq_iff_digest]
  exact ⟨h, fun heq => by rw [heq]⟩

/-! ### Equality -/

/-- Sets that have the same pieces but not the same members. -/
def Confusable (s t : PermissionSet) : Prop :=
  s.pieces = t.pieces ∧ ∃ code, s.contains code ≠ t.contains code

theorem confusable_iff_forms {s t : PermissionSet} :
    Confusable s t ↔ s.pieces = t.pieces ∧ s.spellings.forms ≠ t.spellings.forms := by
  unfold Confusable
  rw [Ne, forms_eq_iff, not_forall]

/-- Without separators, only the set with no code is confused with another one: the set with the
empty code. -/
theorem confusable_iff_of_separatorFree {s t : PermissionSet} (hs : s.SeparatorFree)
    (ht : t.SeparatorFree) : Confusable s t ↔
      s.spellings.forms = [] ∧ t.spellings.forms = [""] ∨
      s.spellings.forms = [""] ∧ t.spellings.forms = [] := by
  rw [confusable_iff_forms, pieces, pieces, Thumbprint.pieces_eq_iff hs ht]
  refine ⟨?_, ?_⟩
  · intro hcase
    rcases hcase with ⟨heq | hone | hone, hne⟩
    · exact absurd heq hne
    · exact .inl hone
    · exact .inr hone
  · intro hcase
    rcases hcase with hone | hone
    · exact ⟨.inr (.inl hone), by rw [hone.1, hone.2]; simp⟩
    · exact ⟨.inr (.inr hone), by rw [hone.1, hone.2]; simp⟩

/-- **Sets compare equal when they have the same members, and otherwise exactly when they are
confusable.**  So equality is membership for two sets just if they are not confusable, which
without separators means that they are not `{}` and `{""}`. -/
theorem beq_iff_same_members {s t : PermissionSet} (h : DigestTellsApart s t) :
    (((s == t) = true ↔ ∀ code, s.contains code = t.contains code) ↔ ¬ Confusable s t) ∧
    ((s == t) = true ↔ (∀ code, s.contains code = t.contains code) ∨ Confusable s t) ∧
    (s.SeparatorFree → t.SeparatorFree →
      (Confusable s t ↔
        s.spellings.forms = [] ∧ t.spellings.forms = [""] ∨
        s.spellings.forms = [""] ∧ t.spellings.forms = [])) := by
  have hpieces : (s == t) = true ↔ s.pieces = t.pieces :=
    (beq_iff_message h).trans Thumbprint.message_eq_iff
  have hsame : (∀ code, s.contains code = t.contains code) → s.pieces = t.pieces := by
    intro hmem
    rw [pieces, pieces, forms_eq_iff.2 hmem]
  have heq : (s == t) = true ↔ (∀ code, s.contains code = t.contains code) ∨ Confusable s t := by
    rw [hpieces, Confusable, ← not_forall]
    refine ⟨?_, ?_⟩
    · intro hp
      by_cases hmem : ∀ code, s.contains code = t.contains code
      · exact .inl hmem
      · exact .inr ⟨hp, hmem⟩
    · intro hcase
      rcases hcase with hmem | ⟨hp, -⟩
      · exact hsame hmem
      · exact hp
  refine ⟨?_, heq, confusable_iff_of_separatorFree⟩
  rw [heq]
  refine ⟨?_, ?_⟩
  · intro hiff hconf
    obtain ⟨-, code, hcode⟩ := id hconf
    exact hcode (hiff.1 (.inr hconf) code)
  · intro hnot
    exact or_iff_left hnot

/-- The digest tells `{AB}` from `{a, B}`, so they are not equal. -/
theorem joined_ne_split :
    DigestTellsApart (ofCodes [⟨"AB"⟩]) (ofCodes [⟨"a"⟩, ⟨"B"⟩]) ∧
    (ofCodes [⟨"AB"⟩]).SeparatorFree ∧ (ofCodes [⟨"a"⟩, ⟨"B"⟩]).SeparatorFree ∧
    ¬ (ofCodes [⟨"AB"⟩] == ofCodes [⟨"a"⟩, ⟨"B"⟩]) = true := by
  have hapart : DigestTellsApart (ofCodes [⟨"AB"⟩]) (ofCodes [⟨"a"⟩, ⟨"B"⟩]) := by
    unfold DigestTellsApart
    decide +kernel
  have hs : (ofCodes [⟨"AB"⟩]).SeparatorFree := by
    unfold SeparatorFree
    decide +kernel
  have ht : (ofCodes [⟨"a"⟩, ⟨"B"⟩]).SeparatorFree := by
    unfold SeparatorFree
    decide +kernel
  obtain ⟨hiff, -, hfree⟩ := beq_iff_same_members hapart
  refine ⟨hapart, hs, ht, fun heq => ?_⟩
  have hconf : ¬ Confusable (ofCodes [⟨"AB"⟩]) (ofCodes [⟨"a"⟩, ⟨"B"⟩]) := by
    rw [hfree hs ht]
    decide +kernel
  have hcode := (hiff.2 hconf).1 heq "AB"
  revert hcode
  decide +kernel

/-- The set with no code equals the set with the empty code, and the set of one code with a
separator in it equals the set of its two pieces, though they do not grant the same. -/
theorem beq_of_other_members :
    (DigestTellsApart (ofCodes []) (ofCodes [⟨""⟩]) ∧
      (ofCodes [] == ofCodes [⟨""⟩]) = true ∧
      (ofCodes []).contains "" = false ∧ (ofCodes [⟨""⟩]).contains "" = true) ∧
    (DigestTellsApart (ofCodes [⟨"A\x1fB"⟩]) (ofCodes [⟨"A"⟩, ⟨"B"⟩]) ∧
      (ofCodes [⟨"A\x1fB"⟩] == ofCodes [⟨"A"⟩, ⟨"B"⟩]) = true ∧
      (ofCodes [⟨"A\x1fB"⟩]).contains "A" = false ∧
      (ofCodes [⟨"A"⟩, ⟨"B"⟩]).contains "A" = true) := by
  have hempty : Thumbprint.message (ofCodes []).spellings.forms =
      Thumbprint.message (ofCodes [⟨""⟩]).spellings.forms := by decide +kernel
  have hsplit : Thumbprint.message (ofCodes [⟨"A\x1fB"⟩]).spellings.forms =
      Thumbprint.message (ofCodes [⟨"A"⟩, ⟨"B"⟩]).spellings.forms := by decide +kernel
  exact ⟨⟨fun _ => hempty, beq_iff_digest.2 (by rw [hempty]), by decide +kernel, by decide +kernel⟩,
    ⟨fun _ => hsplit, beq_iff_digest.2 (by rw [hsplit]), by decide +kernel, by decide +kernel⟩⟩

end PermissionSet

end Gatehouse
