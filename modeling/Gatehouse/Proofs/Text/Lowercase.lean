/-
Upper case after lower case.

Putting a text in lower case and then in upper case gives its upper case again, with
six characters excepted (`upper_lower_eq_iff`).  These are capitals that share their
small letter with another capital, which is the one the small letter goes back to: the
sign for Kelvin becomes a `k`, and that becomes a `K`.

Lower case is for the most part upper case read backwards, so what has to be seen of
a table of more than a thousand characters is only that its runs lie apart: then the
run that a small letter was found with is the run it is found in when it goes back.
What is left are some thirty letters that no small letter goes to.
-/
import Gatehouse.Proofs.Text.Uppercase
import Gatehouse.Text.Lowercase
import Mathlib.Data.List.Basic
import Mathlib.Data.List.Pairwise

namespace Gatehouse.Text

/-! ### The runs of upper case -/

/-- The run is one of characters outside ASCII, and none of them moves below zero. -/
def CaseRun.Proper (run : CaseRun) : Prop :=
  128 ≤ run.first ∧ run.first ≤ run.last ∧
    (run.last < 0xD800 ∨ 0xDFFF < run.first ∧ run.last < 0x110000) ∧ 0 ≤ run.first + run.shift

instance (run : CaseRun) : Decidable run.Proper := inferInstanceAs (Decidable (_ ∧ _))

theorem caseRuns_proper : ∀ run ∈ caseRuns, run.Proper := by decide +kernel

/-- Every run ends before the next one begins. -/
theorem caseRuns_increasing : caseRuns.Pairwise fun r s => r.last < s.first := by decide +kernel

/-- What becomes several characters is in no run. -/
theorem expansions_apart :
    bits (caseRuns.flatMap CaseRun.members) &&& bits (caseExpansions.map (·.1)) = 0 := by
  decide +kernel

theorem CaseRun.covers_iff {run : CaseRun} {n : Nat} : run.covers n = true ↔
    run.first ≤ n ∧ n ≤ run.last ∧ (n - run.first) % run.stride = 0 := by
  simp [covers, and_assoc]

/-- A character is in one run at most. -/
theorem eq_of_covers {r s : CaseRun} {n : Nat} (hr : r ∈ caseRuns) (hs : s ∈ caseRuns)
    (hrn : r.covers n = true) (hsn : s.covers n = true) : r = s := by
  have hpairs : caseRuns.Pairwise fun r s => r.covers n = true → s.covers n = true → r = s := by
    refine caseRuns_increasing.imp fun hlt hrn hsn => ?_
    obtain ⟨-, hlast, -⟩ := CaseRun.covers_iff.1 hrn
    obtain ⟨hfirst, -⟩ := CaseRun.covers_iff.1 hsn
    omega
  have hsymm : Std.Symm fun r s : CaseRun => r.covers n = true → s.covers n = true → r = s :=
    ⟨fun _ _ h hs hr => (h hr hs).symm⟩
  exact hpairs.forall_of_forall (fun _ _ _ _ => rfl) hr hs hrn hsn

/-- A character in a run moves with it. -/
theorem upperChar_of_covers {run : CaseRun} {c : Char} (hrun : run ∈ caseRuns)
    (hc : run.covers c.toNat = true) : upperChar c = [Char.ofNat (c.toNat + run.shift).toNat] := by
  obtain ⟨hbeyond, -⟩ := caseRuns_proper run hrun
  obtain ⟨hfirst, -⟩ := CaseRun.covers_iff.1 hc
  have hone : caseExpansions.find? (fun e => e.1 == c.toNat) = none := by
    have hmem : c.toNat ∈ caseRuns.flatMap CaseRun.members :=
      List.mem_flatMap.2 ⟨run, hrun, CaseRun.mem_members hc⟩
    rw [List.find?_eq_none]
    intro e he heq
    exact not_mem_of_bits expansions_apart hmem (List.mem_map.2 ⟨e, he, beq_iff_eq.1 heq⟩)
  rw [upperChar, if_neg (by omega), upperBeyondAscii, hone]
  cases hfind : caseRuns.find? (fun run => run.covers c.toNat) with
  | none => exact absurd hc (by simpa using List.find?_eq_none.1 hfind run hrun)
  | some other =>
    have hother : other.covers c.toNat = true := by simpa using List.find?_some hfind
    rw [eq_of_covers (List.mem_of_find?_eq_some hfind) hrun hother hc]

/-! ### There and back -/

/-- What a reversed run covers is where some character of the run goes. -/
theorem CaseRun.covers_of_reversed {run : CaseRun} (h : run.Proper) {n : Nat}
    (hn : run.reversed.covers n = true) :
    ∃ m : Nat, run.covers m = true ∧ m.isValidChar ∧ (n + run.reversed.shift).toNat = m ∧
      (m + run.shift).toNat = n := by
  obtain ⟨-, horder, hvalid, hzero⟩ := h
  obtain ⟨hfirst, hlast, hstep⟩ := covers_iff.1 hn
  simp only [reversed] at hfirst hlast hstep ⊢
  have hsame : (n + -run.shift).toNat - run.first = n - (run.first + run.shift).toNat := by omega
  refine ⟨(n + -run.shift).toNat, covers_iff.2 ⟨by omega, by omega, by rw [hsame, hstep]⟩, ?_, rfl,
    by omega⟩
  show _ < 0xD800 ∨ 0xDFFF < _ ∧ _ < 0x110000
  omega

/-- A character that a run leads to goes back, and comes again. -/
theorem upperChar_reversed {run : CaseRun} {c : Char} (hrun : run ∈ caseRuns)
    (hc : run.reversed.covers c.toNat = true) :
    upperChar (Char.ofNat (c.toNat + run.reversed.shift).toNat) = [c] := by
  obtain ⟨m, hm, hvalid, hback, hforth⟩ := CaseRun.covers_of_reversed (caseRuns_proper run hrun) hc
  have hnat : (Char.ofNat m).toNat = m := by
    rw [Char.ofNat, dif_pos hvalid]
    rfl
  rw [hback, upperChar_of_covers hrun (by rw [hnat]; exact hm), hnat, hforth, Char.ofNat_toNat]

/-- The capitals whose small letter goes back to another capital. -/
def estranged : List Char := ['\u0130', '\u03f4', '\u1e9e', '\u2126', '\u212a', '\u212b']

/-- The letters that no small letter goes to have the capital of their small letter. -/
theorem furtherRuns_forth : ∀ run ∈ furtherRuns, ∀ n ∈ run.members, Char.ofNat n ∉ estranged →
    upperChar (Char.ofNat (n + run.shift).toNat) = upperChar (Char.ofNat n) := by
  decide +kernel

theorem upperChar_toLower_ascii : ∀ n < 128,
    upperChar (Char.ofNat n).toLower = upperChar (Char.ofNat n) := by
  decide +kernel

/-- Outside ASCII a character stays as it is or goes where a run takes it. -/
theorem lowerBeyondAscii_cases {c : Char} (hdot : c ≠ '\u0130') : lowerBeyondAscii c = [c] ∨
    ∃ run, (run ∈ furtherRuns ∨ run ∈ lowerRuns) ∧ run.covers c.toNat = true ∧
      lowerBeyondAscii c = [Char.ofNat (c.toNat + run.shift).toNat] := by
  rw [lowerBeyondAscii, if_neg hdot]
  split
  · rename_i run hrun
    have hcovers : run.covers c.toNat = true := by simpa using List.find?_some hrun
    exact .inr ⟨run, List.mem_append.1 (List.mem_of_find?_eq_some hrun), hcovers, rfl⟩
  · exact .inl rfl

/-- **A character in lower case has its upper case again, unless it is estranged from it.** -/
theorem flatMap_upperChar_lowerChar {c : Char} (hc : c ∉ estranged) :
    (lowerChar c).flatMap upperChar = upperChar c := by
  unfold lowerChar
  by_cases hascii : c.toNat < 128
  · have hcase := upperChar_toLower_ascii c.toNat hascii
    rw [Char.ofNat_toNat] at hcase
    rw [if_pos hascii, List.flatMap_singleton, hcase]
  · have hdot : c ≠ '\u0130' := by
      rintro rfl
      exact hc List.mem_cons_self
    rw [if_neg hascii]
    rcases lowerBeyondAscii_cases hdot with hstays | ⟨run, hfurther | hback, hcovers, hmoves⟩
    · rw [hstays, List.flatMap_singleton]
    · have hforth := furtherRuns_forth run hfurther c.toNat (CaseRun.mem_members hcovers)
      rw [Char.ofNat_toNat] at hforth
      rw [hmoves, List.flatMap_singleton, hforth hc]
    · obtain ⟨there, hthere, rfl⟩ := List.mem_map.1 hback
      have hforth := upperChar_reversed (List.mem_filter.1 hthere).1 hcovers
      -- What something becomes is its own upper case.
      have hself := flatMap_upperChar (Char.ofNat (c.toNat + there.reversed.shift).toNat)
      rw [hforth, List.flatMap_singleton] at hself
      rw [hmoves, List.flatMap_singleton, hforth, hself]

/-! ### The estranged -/

/-- Nothing becomes one of the estranged, and none of them changes. -/
theorem estranged_apart :
    bits (estranged.map Char.toNat) &&& bits (0 :: (becoming ++ changing)) = 0 := by
  decide +kernel

/-- An estranged character comes of itself only. -/
theorem estranged_mem_upperChar {c d : Char} (hd : d ∈ estranged) : d ∈ upperChar c ↔ c = d := by
  have hapart := not_mem_of_bits estranged_apart (List.mem_map_of_mem (f := Char.toNat) hd)
  refine ⟨?_, ?_⟩
  · intro h
    rcases upperChar_cases c with hc | ⟨ns, hns, hc⟩
    · rw [hc] at h
      exact (List.mem_singleton.1 h).symm
    · rw [hc] at h
      obtain ⟨n, hn, rfl⟩ := List.mem_map.1 h
      rcases toNat_ofNat_cases n with hnat | hnat
      · rw [hnat] at hapart
        exact absurd (List.mem_cons_of_mem _ (List.mem_append_left _ (hns n hn))) hapart
      · rw [hnat] at hapart
        exact absurd List.mem_cons_self hapart
  · rintro rfl
    have hstill : c.toNat ∉ changing := fun h =>
      hapart (List.mem_cons_of_mem _ (List.mem_append_right _ h))
    rw [upperChar_of_not_changing hstill]
    exact List.mem_singleton_self c

theorem estranged_leave :
    (estranged.flatMap fun c => (lowerChar c).flatMap upperChar).all
      (fun d => !estranged.contains d) = true := by
  decide +kernel

/-- After lower case no character is estranged any more. -/
theorem not_estranged_of_mem {c d : Char} (hd : d ∈ (lowerChar c).flatMap upperChar) :
    d ∉ estranged := by
  by_cases hc : c ∈ estranged
  · simpa using List.all_eq_true.1 estranged_leave d (List.mem_flatMap.2 ⟨c, hc, hd⟩)
  · intro hmem
    rw [flatMap_upperChar_lowerChar hc, estranged_mem_upperChar hmem] at hd
    exact hc (hd ▸ hmem)

/-! ### Texts -/

/-- Both small letters of the sigma go back to it, so the end of a word is forgotten. -/
theorem flatMap_upperChar_lowerAfter (before cs : List Char) :
    (lowerAfter before cs).flatMap upperChar =
      cs.flatMap fun c => (lowerChar c).flatMap upperChar := by
  have hsigma : ∀ small ∈ [['\u03c2'], ['\u03c3']],
      small.flatMap upperChar = (lowerChar '\u03a3').flatMap upperChar := by decide +kernel
  induction cs generalizing before with
  | nil => rfl
  | cons c cs ih =>
    rw [lowerAfter, List.flatMap_append, ih, List.flatMap_cons]
    congr 1
    by_cases hc : c = '\u03a3'
    · subst hc
      rw [if_pos rfl]
      by_cases hends : endsWord before cs
      · rw [if_pos hends, hsigma _ (by simp)]
      · rw [if_neg hends, hsigma _ (by simp)]
    · rw [if_neg hc]

/-- The text has a character that is estranged from its capital. -/
def Estranged (s : String) : Prop := ∃ c ∈ s.toList, c ∈ estranged

instance (s : String) : Decidable (Estranged s) :=
  decidable_of_iff (s.toList.any estranged.contains = true) (by simp [Estranged])

theorem estranged_upper {s : String} : Estranged (upper s) ↔ Estranged s := by
  unfold Estranged
  rw [toList_upper]
  refine ⟨?_, ?_⟩
  · rintro ⟨d, hd, hmem⟩
    obtain ⟨c, hc, hcd⟩ := List.mem_flatMap.1 hd
    rw [estranged_mem_upperChar hmem] at hcd
    exact ⟨d, hcd ▸ hc, hmem⟩
  · rintro ⟨c, hc, hmem⟩
    exact ⟨c, List.mem_flatMap.2 ⟨c, hc, (estranged_mem_upperChar hmem).2 rfl⟩, hmem⟩

theorem not_estranged_upper_lower (s : String) : ¬ Estranged (upper (lower s)) := by
  rintro ⟨d, hd, hmem⟩
  rw [toList_upper, toList_lower, flatMap_upperChar_lowerAfter] at hd
  obtain ⟨c, -, hcd⟩ := List.mem_flatMap.1 hd
  exact not_estranged_of_mem hcd hmem

/-- **Lower case keeps the upper case of a text just if no character is estranged.** -/
theorem upper_lower_eq_iff {s : String} : upper (lower s) = upper s ↔ ¬ Estranged s := by
  refine ⟨?_, ?_⟩
  · intro h hs
    have hupper : Estranged (upper s) := estranged_upper.2 hs
    rw [← h] at hupper
    exact not_estranged_upper_lower s hupper
  · intro h
    apply String.toList_inj.1
    rw [toList_upper, toList_upper, toList_lower, flatMap_upperChar_lowerAfter]
    have hchars : ∀ c ∈ s.toList, (lowerChar c).flatMap upperChar = upperChar c :=
      fun c hc => flatMap_upperChar_lowerChar fun hmem => h ⟨c, hc, hmem⟩
    exact List.flatMap_congr hchars

end Gatehouse.Text
