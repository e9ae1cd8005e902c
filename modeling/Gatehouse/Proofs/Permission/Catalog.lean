/-
What a catalog lists.

A thing in a catalog is filed under its own form, so a thing is listed exactly when
it is what its form looks up, and the listing by things is the listing by forms.
-/
import Gatehouse.Permission.Catalog
import Gatehouse.Proofs.SortedMap

namespace Gatehouse.Catalog

variable {α : Type} {form : α → String}

theorem pairwise_forms (c : Catalog α form) : c.forms.Pairwise (· < ·) :=
  c.table.pairwise_keys

theorem nodup_forms (c : Catalog α form) : c.forms.Nodup := by
  refine c.pairwise_forms.imp ?_
  intro f g hlt heq
  rw [heq] at hlt
  exact Std.lt_irrefl hlt

/-- Two catalogs that have the same forms list them alike, as both list them in order. -/
theorem forms_ext {c d : Catalog α form} (h : ∀ key, key ∈ c.forms ↔ key ∈ d.forms) :
    c.forms = d.forms :=
  c.pairwise_forms.eq_of_mem_iff d.pairwise_forms h

theorem mem_forms_iff {c : Catalog α form} {key : String} :
    key ∈ c.forms ↔ c.contains key = true :=
  SortedMap.mem_keys_iff

theorem mem_items_iff {c : Catalog α form} {x : α} : x ∈ c.items ↔ c.get? (form x) = some x := by
  refine ⟨?_, ?_⟩
  · intro h
    obtain ⟨key, hk⟩ := SortedMap.mem_values_iff.1 h
    rw [form_of_get? hk]
    exact hk
  · intro h
    exact SortedMap.mem_values_iff.2 ⟨form x, h⟩

/-- Two catalogs with the same lookups are the same catalog. -/
theorem ext_get? {c d : Catalog α form} (h : ∀ key, c.get? key = d.get? key) : c = d :=
  Catalog.ext (SortedMap.ext_get? h)

theorem size_eq_length_forms (c : Catalog α form) : c.size = c.forms.length := by
  rw [forms_eq, List.length_map, length_items]

/-- What is there stays, and of the things added the first with a form is kept. -/
theorem get?_addAll (c : Catalog α form) (xs : List α) (key : String) :
    (c.addAll xs).get? key = (c.get? key).or (xs.find? fun x => form x == key) := by
  induction xs generalizing c with
  | nil => simp [addAll]
  | cons x xs ih =>
    show ((c.add x).addAll xs).get? key = _
    rw [ih, get?_add]
    by_cases hkey : key = form x
    · subst hkey
      rw [if_pos rfl, List.find?_cons_of_pos (by simp)]
      cases c.get? (form x) <;> rfl
    · rw [if_neg hkey, List.find?_cons_of_neg (by simpa using Ne.symm hkey)]

/-- A form is looked up by looking through the listing. -/
theorem find?_items (c : Catalog α form) (key : String) :
    c.items.find? (fun x => form x == key) = c.get? key := by
  cases hkey : c.get? key with
  | none =>
    rw [List.find?_eq_none]
    intro x hx heq
    rw [mem_items_iff, beq_iff_eq.1 heq, hkey] at hx
    cases hx
  | some x =>
    have hform := form_of_get? hkey
    have hx : x ∈ c.items := by rw [mem_items_iff, hform, hkey]
    have hfound : (c.items.find? fun y => form y == key).isSome = true := by
      rw [List.find?_isSome]
      exact ⟨x, hx, by simpa using hform⟩
    obtain ⟨y, hy⟩ := Option.isSome_iff_exists.1 hfound
    -- What is found has the same form, and a form looks up one thing.
    have hyform : form y = key := by simpa using List.find?_some hy
    have hyitem := mem_items_iff.1 (List.mem_of_find?_eq_some hy)
    rw [hyform, hkey] at hyitem
    rw [hy, ← hyitem]

/-- A catalog is what adding all that it lists makes of nothing. -/
theorem addAll_items (c : Catalog α form) : (∅ : Catalog α form).addAll c.items = c := by
  refine ext_get? fun key => ?_
  rw [get?_addAll, get?_empty, Option.none_or, find?_items]

theorem isEmpty_iff_forms {c : Catalog α form} : c.isEmpty = true ↔ c.forms = [] :=
  SortedMap.isEmpty_iff_keys

end Gatehouse.Catalog
