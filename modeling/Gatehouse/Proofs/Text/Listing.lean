/-
Listings of texts that have forms.

A text is listed under its form: of the texts with one form only the first is listed, and
the listing goes by the bytes of the forms.  Codes are listed so under their upper case,
and plain texts under themselves.

A listing is determined by what is on it, since the forms strictly increase along it
(`listing_eq`).  So nothing has to be known of how a listing came about to see that it is
the one, and taking the listing of a listing changes nothing.
-/
import Gatehouse.Proofs.Text.Utf8
import Mathlib.Data.List.Dedup
import Mathlib.Data.List.Pairwise

namespace Gatehouse.Text

/-! ### Sorting by bytes -/

/-- Things that are sorted by the bytes of their texts come in the one order in which these
increase. -/
theorem mergeSort_eq_of_perm {α : Type} {text : α → String} {found listed : List α}
    (hlisted : listed.Pairwise fun a b => utf8 (text a).toList < utf8 (text b).toList)
    (h : found.Perm listed) :
    found.mergeSort (fun a b => utf8 (text a).toList ≤ utf8 (text b).toList) = listed := by
  have htrans : ∀ a b c : α, decide (utf8 (text a).toList ≤ utf8 (text b).toList) = true →
      decide (utf8 (text b).toList ≤ utf8 (text c).toList) = true →
      decide (utf8 (text a).toList ≤ utf8 (text c).toList) = true := by
    intro a b c hab hbc
    exact decide_eq_true (List.le_trans (of_decide_eq_true hab) (of_decide_eq_true hbc))
  have htotal : ∀ a b : α, (decide (utf8 (text a).toList ≤ utf8 (text b).toList) ||
      decide (utf8 (text b).toList ≤ utf8 (text a).toList)) = true := by
    intro a b
    rcases List.le_total (utf8 (text a).toList) (utf8 (text b).toList) with hab | hba
    · simp [hab]
    · simp [hba]
  have hne : listed.Pairwise fun a b => utf8 (text a).toList ≠ utf8 (text b).toList := by
    refine hlisted.imp fun hlt heq => ?_
    rw [heq] at hlt
    exact List.lt_irrefl _ hlt
  have : Std.Symm fun a b : α => utf8 (text a).toList ≠ utf8 (text b).toList :=
    ⟨fun _ _ => Ne.symm⟩
  refine List.Perm.eq_of_pairwise ?_ (List.pairwise_mergeSort htrans htotal found)
    (hlisted.imp fun hlt => decide_eq_true (List.le_of_lt hlt))
    ((List.mergeSort_perm found _).trans h)
  intro a b ha hb hab hba
  have ha := h.mem_iff.1 (List.mem_mergeSort.1 ha)
  -- Different things on the list have different bytes.
  by_contra hdiffer
  exact hne.forall ha hb hdiffer
    (List.le_antisymm (of_decide_eq_true hab) (of_decide_eq_true hba))

/-! ### The first of each form -/

/-- The texts that come first among those with their form. -/
def firstOfEach (form : String → String) : List String → List String
  | [] => []
  | t :: ts => t :: (firstOfEach form ts).filter fun u => form u ≠ form t

/-- The first text of each form, by the bytes of the forms. -/
def listing (form : String → String) (ts : List String) : List String :=
  (firstOfEach form ts).mergeSort fun t u => utf8 (form t).toList ≤ utf8 (form u).toList

variable {form : String → String} {ts : List String}

theorem mem_firstOfEach_iff {t : String} :
    t ∈ firstOfEach form ts ↔ ts.find? (fun u => form u == form t) = some t := by
  induction ts with
  | nil => simp [firstOfEach]
  | cons u us ih =>
    rw [firstOfEach, List.mem_cons, List.mem_filter, ih]
    by_cases hform : form u = form t
    · rw [List.find?_cons_of_pos (by simpa using hform)]
      simp [hform, eq_comm]
    · rw [List.find?_cons_of_neg (by simpa using hform)]
      have hne : t ≠ u := fun heq => hform (by rw [heq])
      simp [hne, Ne.symm hform]

theorem nodup_firstOfEach (form : String → String) (ts : List String) :
    (firstOfEach form ts).Nodup := by
  induction ts with
  | nil => exact List.nodup_nil
  | cons t ts ih =>
    refine List.nodup_cons.2 ⟨?_, ih.filter _⟩
    simp

/-- **What lists the first text of each form, and increases in the bytes of the forms, is the
listing.** -/
theorem listing_eq {listed : List String}
    (hincreasing : listed.Pairwise fun t u => utf8 (form t).toList < utf8 (form u).toList)
    (hmem : ∀ t, t ∈ listed ↔ ts.find? (fun u => form u == form t) = some t) :
    listing form ts = listed := by
  have hnodup : listed.Nodup := by
    refine hincreasing.imp fun hlt heq => ?_
    rw [heq] at hlt
    exact List.lt_irrefl _ hlt
  have hperm : (firstOfEach form ts).Perm listed := by
    rw [List.perm_ext_iff_of_nodup (nodup_firstOfEach form ts) hnodup]
    intro t
    rw [mem_firstOfEach_iff, hmem]
  exact mergeSort_eq_of_perm hincreasing hperm

/-! ### Plain texts -/

/-- Each text once, by the bytes. -/
def plainListing (ts : List String) : List String := listing id ts

theorem find?_self_iff {t : String} : ts.find? (fun u => id u == id t) = some t ↔ t ∈ ts := by
  constructor
  · exact List.mem_of_find?_eq_some
  · intro ht
    have hsome : (ts.find? fun u => id u == id t).isSome = true := by
      rw [List.find?_isSome]
      exact ⟨t, ht, by simp⟩
    obtain ⟨u, hu⟩ := Option.isSome_iff_exists.1 hsome
    have heq : u = t := by simpa using List.find?_some hu
    rw [hu, heq]

theorem plainListing_eq {listed : List String}
    (hincreasing : listed.Pairwise fun t u => utf8 t.toList < utf8 u.toList)
    (hmem : ∀ t, t ∈ listed ↔ t ∈ ts) : plainListing ts = listed := by
  refine listing_eq hincreasing fun t => ?_
  rw [find?_self_iff, hmem]

end Gatehouse.Text
