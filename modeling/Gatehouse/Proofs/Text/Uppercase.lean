/-
Upper case is settled at once, and it keeps points.

Normal forms are compared with each other, and sometimes the upper case of a normal
form is taken again.  That changes nothing, since no character that something becomes
is one that changes.  And only a point becomes a point, so the segments of a normal
form are the upper case of the segments.

Both facts are about tables of well over a thousand characters, too many to be looked
up one in the other.  They are read off two numbers instead, whose bits stand for the
characters that change and for those that something becomes: the two have no bit in
common (`bits_apart`).
-/
import Gatehouse.Text.Uppercase

namespace Gatehouse.Text

/-! ### Numbers as bits -/

/-- The number whose bits stand at the given places. -/
def bits (ns : List Nat) : Nat := ns.foldr (fun n m => Nat.pow 2 n ||| m) 0

theorem testBit_bits (ns : List Nat) (n : Nat) : (bits ns).testBit n = decide (n ∈ ns) := by
  induction ns with
  | nil => simp [bits]
  | cons m ns ih =>
    have hcons : bits (m :: ns) = Nat.pow 2 m ||| bits ns := rfl
    have hplace : (Nat.pow 2 m).testBit n = decide (m = n) := Nat.testBit_two_pow
    rw [hcons, Nat.testBit_or, ih, hplace]
    by_cases h : m = n
    · simp [h]
    · simp [h, Ne.symm h]

/-- Lists are disjoint if their numbers have no bit in common. -/
theorem not_mem_of_bits {ms ns : List Nat} (h : bits ms &&& bits ns = 0) {n : Nat} (hn : n ∈ ms) :
    n ∉ ns := by
  intro hmem
  have hbit := congrArg (Nat.testBit · n) h
  simp [Nat.testBit_and, testBit_bits, hn, hmem] at hbit

/-! ### What changes, and what it becomes -/

/-- The characters of a run. -/
def CaseRun.members (run : CaseRun) : List Nat :=
  (List.range ((run.last - run.first) / run.stride + 1)).map fun i => run.first + run.stride * i

/-- The characters that change, the small letters of ASCII first. -/
def changing : List Nat :=
  List.range' 97 26 ++ caseRuns.flatMap CaseRun.members ++ caseExpansions.map (·.1)

/-- The characters that something becomes, the capital letters of ASCII first. -/
def becoming : List Nat :=
  List.range' 65 26 ++
    (caseRuns.flatMap fun run => run.members.map fun n : Nat => (n + run.shift).toNat) ++
    caseExpansions.flatMap (·.2)

theorem CaseRun.mem_members {run : CaseRun} {n : Nat} (h : run.covers n = true) :
    n ∈ run.members := by
  simp only [covers, Bool.and_eq_true, decide_eq_true_eq, beq_iff_eq] at h
  obtain ⟨⟨hfirst, hlast⟩, hstep⟩ := h
  have hdiv := Nat.div_add_mod (n - run.first) run.stride
  have hle : (n - run.first) / run.stride ≤ (run.last - run.first) / run.stride :=
    Nat.div_le_div_right (by omega)
  refine List.mem_map.2 ⟨(n - run.first) / run.stride, List.mem_range.2 (by omega), ?_⟩
  omega

/-- In ASCII only the small letters change. -/
theorem toUpper_ascii : ∀ n < 128,
    (Char.ofNat n).toUpper = Char.ofNat n ∧ ¬ (97 ≤ n ∧ n < 97 + 26) ∨
    (Char.ofNat n).toUpper = Char.ofNat (n - 32) ∧ 97 ≤ n ∧ n < 97 + 26 := by
  decide

/-- A character stays as it is or becomes characters of the tables. -/
theorem upperChar_cases (c : Char) : upperChar c = [c] ∨
    ∃ ns : List Nat, (∀ n ∈ ns, n ∈ becoming) ∧ upperChar c = ns.map Char.ofNat := by
  unfold upperChar
  by_cases hascii : c.toNat < 128
  · rw [if_pos hascii]
    have hcases := toUpper_ascii c.toNat hascii
    rw [Char.ofNat_toNat] at hcases
    rcases hcases with ⟨hstays, -⟩ | ⟨hmoves, hfrom, hto⟩
    · exact .inl (by rw [hstays])
    · refine .inr ⟨[c.toNat - 32], ?_, by rw [hmoves]; rfl⟩
      intro n hn
      obtain rfl := List.mem_singleton.1 hn
      have hcapital : c.toNat - 32 ∈ List.range' 65 26 := List.mem_range'_1.2 (by omega)
      exact List.mem_append_left _ (List.mem_append_left _ hcapital)
  · rw [if_neg hascii]
    unfold upperBeyondAscii
    split
    · rename_i e he
      refine .inr ⟨e.2, ?_, rfl⟩
      intro n hn
      exact List.mem_append_right _ (List.mem_flatMap.2 ⟨e, List.mem_of_find?_eq_some he, hn⟩)
    · split
      · rename_i run hrun
        have hcovers : run.covers c.toNat = true := by simpa using List.find?_some hrun
        refine .inr ⟨[(c.toNat + run.shift).toNat], ?_, rfl⟩
        intro n hn
        obtain rfl := List.mem_singleton.1 hn
        have hmoved := List.mem_map_of_mem (f := fun n : Nat => (n + run.shift).toNat)
          (CaseRun.mem_members hcovers)
        exact List.mem_append_left _ (List.mem_append_right _
          (List.mem_flatMap.2 ⟨run, List.mem_of_find?_eq_some hrun, hmoved⟩))
      · exact .inl rfl

/-- What is not among the characters that change stays as it is. -/
theorem upperChar_of_not_changing {c : Char} (h : c.toNat ∉ changing) : upperChar c = [c] := by
  simp only [changing, List.mem_append, not_or] at h
  obtain ⟨⟨hsmall, hruns⟩, hexpansions⟩ := h
  unfold upperChar
  by_cases hascii : c.toNat < 128
  · rw [if_pos hascii]
    have hcases := toUpper_ascii c.toNat hascii
    rw [Char.ofNat_toNat] at hcases
    rcases hcases with ⟨hstays, -⟩ | ⟨-, hfrom, hto⟩
    · rw [hstays]
    · exact absurd (List.mem_range'_1.2 ⟨hfrom, hto⟩) hsmall
  · rw [if_neg hascii]
    have hone : caseExpansions.find? (fun e => e.1 == c.toNat) = none := by
      rw [List.find?_eq_none]
      intro e he heq
      exact hexpansions (List.mem_map.2 ⟨e, he, beq_iff_eq.1 heq⟩)
    have hstill : caseRuns.find? (fun run => run.covers c.toNat) = none := by
      rw [List.find?_eq_none]
      intro run hrun hcovers
      exact hruns (List.mem_flatMap.2 ⟨run, hrun, CaseRun.mem_members hcovers⟩)
    rw [upperBeyondAscii, hone, hstill]

theorem flatMap_upperChar_eq_self {cs : List Char} (h : ∀ c ∈ cs, upperChar c = [c]) :
    cs.flatMap upperChar = cs := by
  induction cs with
  | nil => rfl
  | cons c cs ih =>
    rw [List.flatMap_cons, h c (by simp), ih fun d hd => h d (by simp [hd])]
    rfl

/-- Nothing vanishes. -/
theorem upperChar_ne_nil (c : Char) : upperChar c ≠ [] := by
  have hexpansions : ∀ e ∈ caseExpansions, e.2 ≠ [] := by decide
  unfold upperChar
  split
  · exact List.cons_ne_nil _ _
  · unfold upperBeyondAscii
    split
    · rename_i e he
      rw [ne_eq, List.map_eq_nil_iff]
      exact hexpansions e (List.mem_of_find?_eq_some he)
    · split <;> exact List.cons_ne_nil _ _

/-! ### The two do not meet -/

/-- Zero stands for the numbers of no character, and 46 is the point. -/
theorem bits_apart : bits (0 :: becoming) &&& bits (46 :: changing) = 0 := by decide +kernel

theorem toNat_ofNat_cases (n : Nat) : (Char.ofNat n).toNat = n ∨ (Char.ofNat n).toNat = 0 := by
  by_cases h : n.isValidChar
  · rw [Char.ofNat, dif_pos h]
    exact .inl rfl
  · rw [Char.ofNat, dif_neg h]
    exact .inr rfl

theorem not_changing_of_becoming {n : Nat} (h : n ∈ becoming) :
    (Char.ofNat n).toNat ∉ 46 :: changing := by
  apply not_mem_of_bits bits_apart
  rcases toNat_ofNat_cases n with hn | hn
  · rw [hn]
    exact List.mem_cons_of_mem _ h
  · rw [hn]
    exact List.mem_cons_self

/-- What a character becomes is its own upper case. -/
theorem flatMap_upperChar (c : Char) : (upperChar c).flatMap upperChar = upperChar c := by
  rcases upperChar_cases c with hc | ⟨ns, hns, hc⟩
  · rw [hc, List.flatMap_singleton, hc]
  · rw [hc]
    refine flatMap_upperChar_eq_self fun d hd => ?_
    obtain ⟨n, hn, rfl⟩ := List.mem_map.1 hd
    have hapart := not_changing_of_becoming (hns n hn)
    exact upperChar_of_not_changing fun h => hapart (List.mem_cons_of_mem _ h)

/-- **Taking the upper case twice is taking it once.** -/
@[simp] theorem upper_upper (s : String) : upper (upper s) = upper s := by
  apply String.toList_inj.1
  rw [toList_upper, toList_upper, List.flatMap_assoc]
  congr 1
  funext c
  exact flatMap_upperChar c

/-! ### Points -/

theorem upperChar_point : upperChar '.' = ['.'] := by decide

/-- Only a point becomes a point. -/
theorem point_mem_upperChar {c : Char} : '.' ∈ upperChar c ↔ c = '.' := by
  refine ⟨?_, ?_⟩
  · intro h
    rcases upperChar_cases c with hc | ⟨ns, hns, hc⟩
    · rw [hc] at h
      exact (List.mem_singleton.1 h).symm
    · rw [hc] at h
      obtain ⟨n, hn, hpoint⟩ := List.mem_map.1 h
      have hapart := not_changing_of_becoming (hns n hn)
      rw [hpoint] at hapart
      exact absurd List.mem_cons_self hapart
  · rintro rfl
    decide

/-- The points of a text in upper case are the points of the text. -/
theorem flatMap_upperChar_eq_append_point {cs hs rs : List Char} :
    cs.flatMap upperChar = hs ++ '.' :: rs ↔
      ∃ h r, cs = h ++ '.' :: r ∧ h.flatMap upperChar = hs ∧ r.flatMap upperChar = rs := by
  refine ⟨?_, ?_⟩
  · intro heq
    induction cs generalizing hs with
    | nil => simp at heq
    | cons c cs ih =>
      rw [List.flatMap_cons] at heq
      rcases List.append_eq_append_iff.1 heq with ⟨before, rfl, hrest⟩ | ⟨part, hc, hrest⟩
      · obtain ⟨h, r, rfl, rfl, rfl⟩ := ih hrest
        exact ⟨c :: h, r, rfl, by rw [List.flatMap_cons], rfl⟩
      · cases part with
        | nil =>
          obtain ⟨h, r, rfl, hnil, rfl⟩ := @ih [] hrest.symm
          exact ⟨c :: h, r, rfl, by simp [hc, hnil], rfl⟩
        | cons d part =>
          -- The point is in what `c` becomes, so `c` is the point.
          obtain ⟨rfl, hrs⟩ := List.cons.inj hrest
          have hmem : '.' ∈ upperChar c := by rw [hc]; simp
          rw [point_mem_upperChar.1 hmem, upperChar_point] at hc
          have hlength := congrArg List.length hc
          simp only [List.length_cons, List.length_nil, List.length_append] at hlength
          obtain rfl : hs = [] := List.length_eq_zero_iff.1 (by omega)
          obtain rfl : part = [] := List.length_eq_zero_iff.1 (by omega)
          exact ⟨[], cs, by rw [point_mem_upperChar.1 hmem]; rfl, rfl, hrs.symm⟩
  · rintro ⟨h, r, rfl, rfl, rfl⟩
    rw [List.flatMap_append, List.flatMap_cons, upperChar_point]
    rfl

theorem count_point_flatMap_upperChar (cs : List Char) :
    (cs.flatMap upperChar).count '.' = cs.count '.' := by
  induction cs with
  | nil => rfl
  | cons c cs ih =>
    rw [List.flatMap_cons, List.count_append, ih, List.count_cons]
    by_cases hc : c = '.'
    · subst hc
      rw [upperChar_point]
      exact Nat.add_comm _ _
    · have hnone : (upperChar c).count '.' = 0 :=
        List.count_eq_zero.2 fun h => hc (point_mem_upperChar.1 h)
      simp [hnone, hc]

end Gatehouse.Text
