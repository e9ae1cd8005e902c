/-
Pieces of a text and the points between them.

Splitting and joining undo each other as long as no piece has a point of its own, and
both go through a text from point to point: what stands before a point and what stands
after it can be split, or joined, on their own.  So do the beginnings of a text that end
at a point: those of what stands after a point go on from what stands before it.

A code finds these beginnings by counting bytes, and cuts itself off where it has counted
to.  The count is that of the beginnings themselves (`pieceEnds_splitPoints`), so every cut
falls between two characters, and what is cut off are the beginnings (`prefixes_eq`).
-/
import Gatehouse.Permission.Code

namespace Gatehouse

/-- What precedes each point, shortest first, and the whole text last. -/
def pointPrefixes : List Char → List (List Char)
  | [] => [[]]
  | c :: cs =>
    if c = '.' then [] :: (pointPrefixes cs).map (c :: ·)
    else (pointPrefixes cs).map (c :: ·)

theorem splitPoints_append_point (xs ys : List Char) :
    splitPoints (xs ++ '.' :: ys) = splitPoints xs ++ splitPoints ys := by
  induction xs with
  | nil => rfl
  | cons x xs ih =>
    rw [List.cons_append, splitPoints, splitPoints]
    by_cases hx : x = '.'
    · rw [if_pos hx, if_pos hx, ih]
      rfl
    · rw [if_neg hx, if_neg hx, ih]
      cases hs : splitPoints xs with
      | nil => exact absurd hs (splitPoints_ne_nil xs)
      | cons s ss => rfl

theorem splitPoints_of_not_mem {cs : List Char} (h : '.' ∉ cs) : splitPoints cs = [cs] := by
  induction cs with
  | nil => rfl
  | cons c cs ih =>
    rw [List.mem_cons, not_or] at h
    obtain ⟨hc, hcs⟩ := h
    rw [splitPoints, if_neg (Ne.symm hc), ih hcs]

theorem pointPrefixes_append_point (xs ys : List Char) : pointPrefixes (xs ++ '.' :: ys) =
    pointPrefixes xs ++ (pointPrefixes ys).map fun s => xs ++ '.' :: s := by
  induction xs with
  | nil => rfl
  | cons x xs ih =>
    rw [List.cons_append, pointPrefixes, pointPrefixes, ih, List.map_append, List.map_map]
    by_cases hx : x = '.'
    · rw [if_pos hx, if_pos hx]
      rfl
    · rw [if_neg hx, if_neg hx]
      rfl

theorem pointPrefixes_of_not_mem {cs : List Char} (h : '.' ∉ cs) : pointPrefixes cs = [cs] := by
  induction cs with
  | nil => rfl
  | cons c cs ih =>
    rw [List.mem_cons, not_or] at h
    obtain ⟨hc, hcs⟩ := h
    rw [pointPrefixes, if_neg (Ne.symm hc), ih hcs]
    rfl

theorem length_pointPrefixes (cs : List Char) :
    (pointPrefixes cs).length = (splitPoints cs).length := by
  induction cs with
  | nil => rfl
  | cons c cs ih =>
    rw [pointPrefixes, splitPoints]
    split
    · simp [ih]
    · cases hs : splitPoints cs with
      | nil => exact absurd hs (splitPoints_ne_nil cs)
      | cons s ss => simp [ih, hs]

/-- Counted from piece to piece, the ends are those of the beginnings. -/
theorem pieceEnds_splitPoints (start : Nat) (cs : List Char) :
    pieceEnds start (splitPoints cs) =
      (pointPrefixes cs).map fun p => start + Text.byteLength p := by
  induction cs generalizing start with
  | nil => rfl
  | cons c cs ih =>
    rw [splitPoints, pointPrefixes]
    by_cases hc : c = '.'
    · rw [if_pos hc, if_pos hc, pieceEnds, ih, List.map_cons, List.map_map, hc]
      refine congrArg _ (List.map_congr_left fun p _ => ?_)
      have hpoint : Char.utf8Size '.' = 1 := rfl
      simp only [Function.comp_apply, Text.byteLength_nil, Text.byteLength_cons, hpoint]
      omega
    · rw [if_neg hc, if_neg hc, List.map_map]
      -- The character is the first of the first piece, which begins the rest of the text.
      have hrest := ih (start + c.utf8Size)
      cases hs : splitPoints cs with
      | nil => exact absurd hs (splitPoints_ne_nil cs)
      | cons s ss =>
        rw [hs] at hrest
        simp only [pieceEnds, Text.byteLength_cons, Function.comp_def] at hrest ⊢
        simp only [Nat.add_assoc] at hrest ⊢
        exact hrest

theorem prefix_of_mem_pointPrefixes {cs p : List Char} (h : p ∈ pointPrefixes cs) : p <+: cs := by
  induction cs generalizing p with
  | nil => simpa [pointPrefixes] using h
  | cons c cs ih =>
    have hgoes : p ∈ (pointPrefixes cs).map (c :: ·) → p <+: c :: cs := by
      intro hp
      obtain ⟨q, hq, rfl⟩ := List.mem_map.1 hp
      exact List.cons_prefix_cons.2 ⟨rfl, ih hq⟩
    rw [pointPrefixes] at h
    by_cases hc : c = '.'
    · rw [if_pos hc] at h
      rcases List.mem_cons.1 h with rfl | hp
      · exact List.nil_prefix
      · exact hgoes hp
    · rw [if_neg hc] at h
      exact hgoes h

theorem joinPoints_cons {s : List Char} {ss : List (List Char)} (h : ss ≠ []) :
    joinPoints (s :: ss) = s ++ '.' :: joinPoints ss := by
  cases ss with
  | nil => exact absurd rfl h
  | cons t ts => rfl

theorem joinPoints_append {ss ts : List (List Char)} (hss : ss ≠ []) (hts : ts ≠ []) :
    joinPoints (ss ++ ts) = joinPoints ss ++ '.' :: joinPoints ts := by
  induction ss with
  | nil => exact absurd rfl hss
  | cons s ss ih =>
    rw [List.cons_append]
    by_cases hnil : ss = []
    · rw [hnil]
      exact joinPoints_cons hts
    · rw [joinPoints_cons (by simp [hnil]), joinPoints_cons hnil, ih hnil, List.append_assoc,
        List.cons_append]

/-- Pieces without points come back from the text they were joined to. -/
theorem splitPoints_joinPoints {ss : List (List Char)} (hne : ss ≠ [])
    (h : ∀ s ∈ ss, '.' ∉ s) : splitPoints (joinPoints ss) = ss := by
  induction ss with
  | nil => exact absurd rfl hne
  | cons s ss ih =>
    have hs := splitPoints_of_not_mem (h s (by simp))
    by_cases hnil : ss = []
    · rw [hnil]
      exact hs
    · rw [joinPoints_cons hnil, splitPoints_append_point, hs,
        ih hnil fun t ht => h t (by simp [ht])]
      rfl

theorem joinPoints_eq_intercalate (ss : List (List Char)) : joinPoints ss = ['.'].intercalate ss := by
  induction ss with
  | nil => rfl
  | cons s ss ih =>
    by_cases hnil : ss = []
    · rw [hnil, List.intercalate_singleton]
      rfl
    · rw [joinPoints_cons hnil, List.intercalate_cons_of_ne_nil hnil, ih, List.append_assoc,
        List.singleton_append]

theorem mem_joinPoints {ss : List (List Char)} {c : Char} (h : c ∈ joinPoints ss) :
    c = '.' ∨ ∃ s ∈ ss, c ∈ s := by
  induction ss with
  | nil => cases h
  | cons s ss ih =>
    by_cases hnil : ss = []
    · rw [hnil] at h
      exact .inr ⟨s, by simp, h⟩
    · rw [joinPoints_cons hnil, List.mem_append, List.mem_cons] at h
      rcases h with hs | hpoint | hrest
      · exact .inr ⟨s, by simp, hs⟩
      · exact .inl hpoint
      · rcases ih hrest with hpoint | ⟨t, ht, hc⟩
        · exact .inl hpoint
        · exact .inr ⟨t, by simp [ht], hc⟩

/-! ### Cutting a code off -/

namespace Code

/-- Wherever a code is cut off, a character ends, and what is left is one of its beginnings. -/
theorem map_upTo?_ends (c : Code) : c.ends.map c.upTo? =
    (pointPrefixes c.text.toList).map fun p => some ⟨String.ofList p⟩ := by
  rw [ends, pieceEnds_splitPoints, List.map_map]
  refine List.map_congr_left fun p hp => ?_
  obtain ⟨rest, hrest⟩ := prefix_of_mem_pointPrefixes hp
  have hcut : Text.splitAtByte (Text.byteLength p) c.text.toList = some (p, rest) :=
    Text.splitAtByte_eq_some_iff.2 ⟨hrest.symm, rfl⟩
  rw [Function.comp_apply, upTo?, Nat.zero_add, hcut]
  rfl

theorem prefixes_eq (c : Code) :
    c.prefixes = (pointPrefixes c.text.toList).map fun p => ⟨String.ofList p⟩ := by
  have hcuts : c.ends.filterMap c.upTo? = (c.ends.map c.upTo?).filterMap id := by
    rw [List.filterMap_map]
    rfl
  rw [prefixes, hcuts, map_upTo?_ends, List.filterMap_map]
  exact congrFun List.filterMap_eq_map' _

end Code

end Gatehouse
