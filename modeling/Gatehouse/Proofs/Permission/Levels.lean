/-
The levels of a code.

The segments of a code, its beginnings, its parent and its depth are found in four ways: by
splitting at every point, by counting bytes from segment to segment, by looking for the last
point, and by counting segments.  They tell of one chain.  What carries this is how each of
them goes on when a character is put in front of a text: a point opens a new segment and a new
beginning, and anything else lengthens the first segment and every beginning.

Where a code can be cut at a point, the beginning before the cut is one of its levels, and
these are all but the last.  So a code lies under just those levels, apart from the empty one,
and under what is spelled like one of them and as long.
-/
import Gatehouse.Proofs.Permission.Descent
import Gatehouse.Proofs.Permission.Points

namespace Gatehouse

/-! ### Beginnings of a text -/

theorem not_mem_of_mem_splitPoints {cs s : List Char} (h : s ∈ splitPoints cs) : '.' ∉ s := by
  induction cs generalizing s with
  | nil =>
    simp only [splitPoints, List.mem_singleton] at h
    simp [h]
  | cons c cs ih =>
    rw [splitPoints] at h
    by_cases hc : c = '.'
    · rw [if_pos hc] at h
      rcases List.mem_cons.1 h with rfl | hrest
      · simp
      · exact ih hrest
    · rw [if_neg hc] at h
      cases hs : splitPoints cs with
      | nil => exact absurd hs (splitPoints_ne_nil cs)
      | cons t ts =>
        rw [hs] at h ih
        rcases List.mem_cons.1 h with rfl | hrest
        · have ht : '.' ∉ t := ih List.mem_cons_self
          simp [ht, Ne.symm hc]
        · exact ih (List.mem_cons_of_mem t hrest)

theorem pointPrefixes_ne_nil (cs : List Char) : pointPrefixes cs ≠ [] := by
  intro h
  have hlength := length_pointPrefixes cs
  rw [h, List.length_nil] at hlength
  exact splitPoints_ne_nil cs (List.length_eq_zero_iff.1 hlength.symm)

theorem getLast?_pointPrefixes (cs : List Char) : (pointPrefixes cs).getLast? = some cs := by
  induction cs with
  | nil => rfl
  | cons c cs ih =>
    rw [pointPrefixes]
    split
    · rw [List.getLast?_cons, List.getLast?_map, ih]
      rfl
    · rw [List.getLast?_map, ih]
      rfl

/-- Each beginning is joined of the pieces up to it. -/
theorem getElem?_pointPrefixes {cs : List Char} {i : Nat} (hi : i < (splitPoints cs).length) :
    (pointPrefixes cs)[i]? = some (joinPoints ((splitPoints cs).take (i + 1))) := by
  induction cs generalizing i with
  | nil =>
    have hzero : i = 0 := by simpa [splitPoints] using hi
    simp [hzero, pointPrefixes, splitPoints, joinPoints]
  | cons c cs ih =>
    rw [splitPoints] at hi ⊢
    rw [pointPrefixes]
    by_cases hc : c = '.'
    · rw [if_pos hc] at hi ⊢
      rw [if_pos hc]
      cases i with
      | zero => simp [joinPoints]
      | succ i =>
        have hlt : i < (splitPoints cs).length := by simpa using hi
        have hsome : (splitPoints cs).take (i + 1) ≠ [] := by
          simp [List.take_eq_nil_iff, splitPoints_ne_nil]
        simp [ih hlt, joinPoints_cons hsome, hc]
    · rw [if_neg hc] at hi ⊢
      rw [if_neg hc]
      cases hs : splitPoints cs with
      | nil => exact absurd hs (splitPoints_ne_nil cs)
      | cons s ss =>
        rw [hs] at hi ih
        have hlt : i < (s :: ss).length := by simpa using hi
        simp [ih hlt, joinPoints_cons_cons]

/-- The first beginning has no point, and before the last point of any other stands the one before
it. -/
theorem map_beforeLastPoint_pointPrefixes (cs : List Char) :
    (pointPrefixes cs).map beforeLastPoint = none :: (pointPrefixes cs).dropLast.map some := by
  induction cs with
  | nil => rfl
  | cons c cs ih =>
    have hcons : ∀ p, beforeLastPoint (c :: p) = ((beforeLastPoint p).map (c :: ·)).or
        (if c = '.' then some [] else none) := by
      intro p
      rw [beforeLastPoint]
      cases beforeLastPoint p <;> rfl
    have hmap : ((pointPrefixes cs).map (c :: ·)).map beforeLastPoint =
        ((pointPrefixes cs).map beforeLastPoint).map fun b =>
          (b.map (c :: ·)).or (if c = '.' then some [] else none) := by
      rw [List.map_map, List.map_map]
      exact List.map_congr_left fun p _ => hcons p
    rw [pointPrefixes]
    by_cases hc : c = '.'
    · have hsome : (pointPrefixes cs).map (c :: ·) ≠ [] := by simp [pointPrefixes_ne_nil]
      rw [if_pos hc, List.map_cons, hmap, ih, List.dropLast_cons_of_ne_nil hsome]
      simp [hc, beforeLastPoint, Function.comp_def]
    · rw [if_neg hc, hmap, ih]
      simp [hc, Function.comp_def]

/-- A text can be cut at a point just after each beginning but the last. -/
theorem mem_dropLast_pointPrefixes {cs p : List Char} :
    p ∈ (pointPrefixes cs).dropLast ↔ ∃ rest, cs = p ++ '.' :: rest := by
  induction cs generalizing p with
  | nil => simp [pointPrefixes]
  | cons c cs ih =>
    have hgoes : p ∈ ((pointPrefixes cs).map (c :: ·)).dropLast ↔
        ∃ q, p = c :: q ∧ ∃ rest, cs = q ++ '.' :: rest := by
      rw [← List.map_dropLast, List.mem_map]
      exact exists_congr fun q => by rw [ih, eq_comm (a := c :: q), and_comm]
    rw [pointPrefixes]
    by_cases hc : c = '.'
    · have hsome : (pointPrefixes cs).map (c :: ·) ≠ [] := by simp [pointPrefixes_ne_nil]
      rw [if_pos hc, List.dropLast_cons_of_ne_nil hsome, List.mem_cons, hgoes]
      cases p with
      | nil => simp [hc]
      | cons d p => grind
    · rw [if_neg hc, hgoes]
      cases p with
      | nil => simp [hc]
      | cons d p => grind

/-! ### Levels of a code -/

namespace Code

variable {a c p : Code}

theorem intercalate_map_ofList (ss : List (List Char)) :
    ".".intercalate (ss.map String.ofList) = String.ofList (joinPoints ss) := by
  rw [← String.toList_inj, String.toList_intercalate, String.toList_ofList,
    joinPoints_eq_intercalate, List.map_map]
  simp [Function.comp_def]

theorem intercalate_segments (c : Code) : ".".intercalate c.segments = c.text := by
  rw [segments, intercalate_map_ofList, joinPoints_splitPoints, String.ofList_toList]

theorem point_not_mem_of_mem_segments {s : String} (h : s ∈ c.segments) : '.' ∉ s.toList := by
  obtain ⟨piece, hpiece, rfl⟩ := List.mem_map.1 h
  rw [String.toList_ofList]
  exact not_mem_of_mem_splitPoints hpiece

theorem length_prefixes (c : Code) : c.prefixes.length = c.depth := by
  rw [prefixes_eq, depth, segments, List.length_map, List.length_map, length_pointPrefixes]

theorem getLast?_prefixes (c : Code) : c.prefixes.getLast? = some c := by
  rw [prefixes_eq, List.getLast?_map, getLast?_pointPrefixes, Option.map_some, String.ofList_toList]

theorem getElem?_prefixes {i : Nat} (hi : i < c.depth) :
    c.prefixes[i]? = some ⟨".".intercalate (c.segments.take (i + 1))⟩ := by
  rw [depth, segments, List.length_map] at hi
  rw [prefixes_eq, List.getElem?_map, getElem?_pointPrefixes hi, segments, ← List.map_take,
    intercalate_map_ofList]
  rfl

theorem map_parent_prefixes (c : Code) :
    c.prefixes.map parent = none :: c.prefixes.dropLast.map some := by
  have hparent : ∀ p : List Char, parent ⟨String.ofList p⟩ =
      (beforeLastPoint p).map fun s => ⟨String.ofList s⟩ := by
    intro p
    rw [parent, String.toList_ofList]
  have hmap : c.prefixes.map parent =
      ((pointPrefixes c.text.toList).map beforeLastPoint).map
        (Option.map fun s => (⟨String.ofList s⟩ : Code)) := by
    rw [prefixes_eq, List.map_map, List.map_map]
    exact List.map_congr_left fun p _ => hparent p
  rw [hmap, map_beforeLastPoint_pointPrefixes, prefixes_eq, ← List.map_dropLast]
  simp [Function.comp_def]

theorem mem_dropLast_prefixes :
    p ∈ c.prefixes.dropLast ↔ ∃ rest, c.text = p.text ++ "." ++ rest := by
  rw [prefixes_eq, ← List.map_dropLast, List.mem_map]
  refine ⟨?_, ?_⟩
  · rintro ⟨head, hhead, rfl⟩
    obtain ⟨rest, hrest⟩ := mem_dropLast_pointPrefixes.1 hhead
    refine ⟨.ofList rest, ?_⟩
    rw [← String.toList_inj, hrest]
    simp
  · rintro ⟨rest, htext⟩
    refine ⟨p.text.toList, mem_dropLast_pointPrefixes.2 ⟨rest.toList, ?_⟩, ?_⟩
    · rw [htext]
      simp
    · rw [String.ofList_toList]

/-- A code lies under what is spelled like one of its levels above and takes as many bytes. -/
theorem isDescendantOf_iff_level : c.isDescendantOf a = true ↔
    a.text ≠ "" ∧ ∃ p ∈ c.prefixes.dropLast, p.normalized = a.normalized ∧
      Text.byteLength p.text.toList = Text.byteLength a.text.toList := by
  rw [isDescendantOf_iff]
  refine and_congr_right fun _ => ⟨?_, ?_⟩
  · rintro ⟨head, rest, htext, hlength, hupper⟩
    exact ⟨⟨head⟩, mem_dropLast_prefixes.2 ⟨rest, htext⟩, hupper, hlength⟩
  · rintro ⟨p, hp, hupper, hlength⟩
    obtain ⟨rest, htext⟩ := mem_dropLast_prefixes.1 hp
    exact ⟨p.text, rest, htext, hlength, hupper⟩

/-- **The segments of a code, joined one after another, are its levels, of which each is the parent
of the next.**  To find them the code is cut off where its segments end, and always between two
characters.  It lies under all levels above it but the empty one, and under nothing else than what
is spelled like one of them and as long. -/
theorem levels_form_one_chain (c a : Code) :
    ".".intercalate c.segments = c.text ∧ (∀ s ∈ c.segments, '.' ∉ s.toList) ∧
    c.prefixes.length = c.depth ∧ c.prefixes.getLast? = some c ∧
    (∀ i < c.depth, c.prefixes[i]? = some ⟨".".intercalate (c.segments.take (i + 1))⟩) ∧
    c.prefixes.map parent = none :: c.prefixes.dropLast.map some ∧
    c.ends.map c.upTo? = c.prefixes.map some ∧
    (∀ p ∈ c.prefixes.dropLast, p.text ≠ "" → c.isDescendantOf p = true) ∧
    (c.isDescendantOf a = true ↔ a.text ≠ "" ∧
      ∃ p ∈ c.prefixes.dropLast, p.normalized = a.normalized ∧
        Text.byteLength p.text.toList = Text.byteLength a.text.toList) := by
  refine ⟨intercalate_segments c, ?_, length_prefixes c, getLast?_prefixes c, ?_,
    map_parent_prefixes c, ?_, ?_, isDescendantOf_iff_level⟩
  · intro s hs
    exact point_not_mem_of_mem_segments hs
  · intro i hi
    exact getElem?_prefixes hi
  · rw [map_upTo?_ends, prefixes_eq, List.map_map]
    rfl
  · intro p hp hne
    exact isDescendantOf_iff_level.2 ⟨hne, p, hp, rfl, rfl⟩

/-- A code that begins with a point, has two of them side by side, and a letter of two bytes.  It is
cut off after the letter, and lies under the two capitals that are spelled like it and as long. -/
theorem levels_of_sharp_s :
    let c : Code := ⟨".ß..x"⟩
    let a : Code := ⟨".SS"⟩
    let p : Code := ⟨".ß."⟩
    (c.ends = [0, 3, 4, 6] ∧ c.prefixes = [⟨""⟩, ⟨".ß"⟩, p, c] ∧
      c.ends.map c.upTo? = c.prefixes.map some) ∧
    ("ß" ∈ c.segments ∧ '.' ∉ "ß".toList) ∧
    (2 < c.depth ∧ c.prefixes[2]? = some ⟨".".intercalate (c.segments.take 3)⟩) ∧
    (p ∈ c.prefixes.dropLast ∧ p.text ≠ "" ∧ c.isDescendantOf p = true) ∧
    c.isDescendantOf a = true ∧ ∃ q ∈ c.prefixes.dropLast, q.normalized = a.normalized ∧
      Text.byteLength q.text.toList = Text.byteLength a.text.toList := by
  intro c a p
  obtain ⟨-, hpieces, -, -, hjoined, -, hcuts, habove, hunder⟩ := levels_form_one_chain c a
  have hsegment : "ß" ∈ c.segments := by decide +kernel
  have hdepth : 2 < c.depth := by decide +kernel
  have hp : p ∈ c.prefixes.dropLast := by decide +kernel
  have hne : p.text ≠ "" := by decide
  have ha : c.isDescendantOf a = true := by decide +kernel
  exact ⟨⟨by decide +kernel, by decide +kernel, hcuts⟩, ⟨hsegment, hpieces "ß" hsegment⟩,
    ⟨hdepth, hjoined 2 hdepth⟩, ⟨hp, hne, habove p hp hne⟩, ha, (hunder.1 ha).2⟩

end Code

end Gatehouse
