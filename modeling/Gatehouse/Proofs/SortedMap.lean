/-
A sorted map is its lookups.

The entries of a map stand in strictly increasing key order, so what can be looked
up determines the listing, order included.  That is what makes two maps that were
filled in different ways the same map once they answer alike, and it is all that
equality of permission sets and of stores comes down to.
-/
import Gatehouse.SortedMap
import Mathlib.Data.List.Sort

namespace Gatehouse.SortedMap

variable {κ α : Type} [DecidableEq κ] [LT κ] [LE κ] [Std.IsLinearOrder κ] [Std.LawfulOrderLT κ]

/-! ### Keys -/

theorem pairwise_keys {κ α : Type} [LT κ] (m : SortedMap κ α) : m.keys.Pairwise (· < ·) :=
  List.pairwise_map.2 m.sorted

theorem mem_keys_iff {m : SortedMap κ α} {k : κ} : k ∈ m.keys ↔ m.contains k = true := by
  unfold keys contains
  rw [Option.isSome_iff_exists]
  refine ⟨?_, ?_⟩
  · intro h
    obtain ⟨⟨j, v⟩, he, rfl⟩ := List.mem_map.1 h
    exact ⟨v, mem_entries_iff.1 he⟩
  · intro hcase
    obtain ⟨v, hv⟩ := hcase
    exact List.mem_map.2 ⟨(k, v), mem_entries_iff.2 hv, rfl⟩

theorem isEmpty_iff_keys {κ α : Type} [LT κ] {m : SortedMap κ α} :
    m.isEmpty = true ↔ m.keys = [] := by
  unfold isEmpty keys
  rw [List.isEmpty_iff, List.map_eq_nil_iff]

/-! ### Values -/

theorem mem_values_iff {m : SortedMap κ α} {v : α} : v ∈ m.values ↔ ∃ k, m.get? k = some v := by
  unfold values
  refine ⟨?_, ?_⟩
  · intro h
    obtain ⟨⟨k, w⟩, he, rfl⟩ := List.mem_map.1 h
    exact ⟨k, mem_entries_iff.1 he⟩
  · intro hcase
    obtain ⟨k, hk⟩ := hcase
    exact List.mem_map.2 ⟨(k, v), mem_entries_iff.2 hk, rfl⟩

/-! ### The whole map -/

/-- Two maps with the same lookups are the same map. -/
theorem ext_get? {m n : SortedMap κ α} (h : ∀ k, m.get? k = n.get? k) : m = n := by
  apply SortedMap.ext
  -- Distinct entries have distinct keys, so an entry is never below itself.
  have : Std.Irrefl (fun a b : κ × α => a.1 < b.1) := ⟨fun a => Std.lt_irrefl⟩
  have : Std.Antisymm (fun a b : κ × α => a.1 < b.1) :=
    ⟨fun a b hab hba => absurd (Std.lt_trans hab hba) Std.lt_irrefl⟩
  refine m.sorted.eq_of_mem_iff n.sorted fun e => ?_
  rw [mem_entries_iff (k := e.1) (v := e.2), mem_entries_iff (k := e.1) (v := e.2), h e.1]

end Gatehouse.SortedMap
