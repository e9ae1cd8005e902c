/-
Finite maps in key order.

A permission set, a registry, a data bag and a store are all finite maps, and
everything they list comes out in the order of their keys.  Here a map *is* that
listing: the entries in strictly increasing key order, with the order carried by
the type.  A key therefore occurs once, two maps with the same lookups are the
same map, and no listing depends on how the map was filled.
-/
namespace Gatehouse

/-- A finite map, given by its entries in strictly increasing key order. -/
structure SortedMap (κ : Type) (α : Type) [LT κ] where
  /-- Each key with its value. -/
  entries : List (κ × α)
  /-- Keys strictly increase along the entries. -/
  sorted : entries.Pairwise (fun a b => a.1 < b.1)

namespace SortedMap

/-! ### Entries as a plain list -/

section Entries

variable {κ α : Type} [DecidableEq κ]

/-- The value stored under `k`. -/
def find (k : κ) : List (κ × α) → Option α
  | [] => none
  | e :: es => if e.1 = k then some e.2 else find k es

theorem find_filter_ne (k j : κ) (es : List (κ × α)) :
    find j (es.filter (fun e => e.1 ≠ k)) = if j = k then none else find j es := by
  induction es with
  | nil => simp [find]
  | cons d es ih => grind [find]

variable [LT κ] [DecidableLT κ]

/-- Puts `v` under `k`, in place of what was there. -/
def place (k : κ) (v : α) : List (κ × α) → List (κ × α)
  | [] => [(k, v)]
  | e :: es =>
    if k < e.1 then (k, v) :: e :: es
    else if k = e.1 then (k, v) :: es
    else e :: place k v es

theorem mem_place {k : κ} {v : α} {e : κ × α} {es : List (κ × α)} (h : e ∈ place k v es) :
    e = (k, v) ∨ e ∈ es := by
  induction es with
  | nil => simp_all [place]
  | cons d es ih => grind [place]

theorem find_place (k j : κ) (v : α) (es : List (κ × α)) :
    find j (place k v es) = if j = k then some v else find j es := by
  induction es with
  | nil => grind [place, find]
  | cons d es ih => grind [place, find]

end Entries

section Laws

variable {κ α : Type} [DecidableEq κ] [LT κ] [LE κ] [Std.IsLinearOrder κ] [Std.LawfulOrderLT κ]

theorem mem_iff_find {k : κ} {v : α} {es : List (κ × α)}
    (h : es.Pairwise (fun a b => a.1 < b.1)) : (k, v) ∈ es ↔ find k es = some v := by
  induction es with
  | nil => simp [find]
  | cons d es ih =>
    rw [List.pairwise_cons] at h
    have ih := ih h.2
    have hd := h.1 (k, v)
    grind [find]

theorem pairwise_place [DecidableLT κ] (k : κ) (v : α) {es : List (κ × α)}
    (h : es.Pairwise (fun a b => a.1 < b.1)) :
    (place k v es).Pairwise (fun a b => a.1 < b.1) := by
  induction es with
  | nil => simp [place]
  | cons d es ih =>
    rw [List.pairwise_cons] at h
    rw [place]
    split
    · rename_i hlt
      refine List.pairwise_cons.2 ⟨fun e he => ?_, List.pairwise_cons.2 h⟩
      rcases List.mem_cons.1 he with rfl | he
      · exact hlt
      · exact Std.lt_trans hlt (h.1 e he)
    · split
      · rename_i heq
        exact List.pairwise_cons.2 ⟨fun e he => by simpa [heq] using h.1 e he, h.2⟩
      · refine List.pairwise_cons.2 ⟨fun e he => ?_, ih h.2⟩
        rcases mem_place he with rfl | he
        · grind
        · exact h.1 e he

end Laws

/-! ### The map -/

section Basic

variable {κ α : Type} [LT κ]

/-- Two maps with the same entries are the same map. -/
@[ext] theorem ext {m n : SortedMap κ α} (h : m.entries = n.entries) : m = n := by
  cases m; cases n; simp_all

/-- The map with no entries. -/
def empty : SortedMap κ α := ⟨[], .nil⟩

instance : EmptyCollection (SortedMap κ α) := ⟨empty⟩
instance : Inhabited (SortedMap κ α) := ⟨empty⟩

/-- How many keys are in use. -/
def size (m : SortedMap κ α) : Nat := m.entries.length

/-- Whether no key is in use. -/
def isEmpty (m : SortedMap κ α) : Bool := m.entries.isEmpty

/-- The keys, in increasing order. -/
def keys (m : SortedMap κ α) : List κ := m.entries.map (·.1)

/-- The values, in the order of their keys. -/
def values (m : SortedMap κ α) : List α := m.entries.map (·.2)

variable [DecidableEq κ]

/-- The value stored under `k`, if any. -/
def get? (m : SortedMap κ α) (k : κ) : Option α := find k m.entries

/-- Whether something is stored under `k`. -/
def contains (m : SortedMap κ α) (k : κ) : Bool := (m.get? k).isSome

/-- Takes away what is stored under `k`. -/
def erase (m : SortedMap κ α) (k : κ) : SortedMap κ α :=
  ⟨m.entries.filter (fun e => e.1 ≠ k), m.sorted.filter _⟩

@[simp] theorem get?_empty (k : κ) : (∅ : SortedMap κ α).get? k = none := rfl

@[simp] theorem get?_erase (m : SortedMap κ α) (k j : κ) :
    (m.erase k).get? j = if j = k then none else m.get? j :=
  find_filter_ne k j m.entries

theorem mem_erase {m : SortedMap κ α} {k : κ} {e : κ × α} (h : e ∈ (m.erase k).entries) :
    e ∈ m.entries :=
  (List.mem_filter.1 h).1

end Basic

section Insertion

variable {κ α : Type} [LT κ] [DecidableLT κ] [DecidableEq κ] [LE κ] [Std.IsLinearOrder κ]
  [Std.LawfulOrderLT κ]

/-- Stores `v` under `k`, in place of what was there. -/
def insert (m : SortedMap κ α) (k : κ) (v : α) : SortedMap κ α :=
  ⟨place k v m.entries, pairwise_place k v m.sorted⟩

/-- Stores `v` under `k` unless something is there already. -/
def insertIfNew (m : SortedMap κ α) (k : κ) (v : α) : SortedMap κ α :=
  if m.contains k then m else m.insert k v

/-- Entries put one by one into the empty map; of two with one key the later stays. -/
def ofList (es : List (κ × α)) : SortedMap κ α := es.foldl (fun m e => m.insert e.1 e.2) ∅

@[simp] theorem get?_insert (m : SortedMap κ α) (k j : κ) (v : α) :
    (m.insert k v).get? j = if j = k then some v else m.get? j :=
  find_place k j v m.entries

theorem get?_insertIfNew (m : SortedMap κ α) (k j : κ) (v : α) :
    (m.insertIfNew k v).get? j = if j = k then some ((m.get? k).getD v) else m.get? j := by
  unfold insertIfNew contains
  cases h : m.get? k with
  | none => simp
  | some w => by_cases hj : j = k <;> simp_all

omit [DecidableLT κ] in
theorem mem_entries_iff {m : SortedMap κ α} {k : κ} {v : α} :
    (k, v) ∈ m.entries ↔ m.get? k = some v :=
  mem_iff_find m.sorted

theorem isEmpty_insert (m : SortedMap κ α) (k : κ) (v : α) : (m.insert k v).isEmpty = false := by
  cases h : (m.insert k v).entries with
  | nil =>
    have hplaced := get?_insert m k k v
    rw [get?, h] at hplaced
    simp [find] at hplaced
  | cons e es =>
    unfold isEmpty
    rw [h]
    rfl

theorem mem_insert {m : SortedMap κ α} {k : κ} {v : α} {e : κ × α}
    (h : e ∈ (m.insert k v).entries) : e = (k, v) ∨ e ∈ m.entries :=
  mem_place h

theorem mem_insertIfNew {m : SortedMap κ α} {k : κ} {v : α} {e : κ × α}
    (h : e ∈ (m.insertIfNew k v).entries) : e = (k, v) ∨ e ∈ m.entries := by
  unfold insertIfNew at h
  split at h
  · exact .inr h
  · exact mem_insert h

end Insertion

end SortedMap

end Gatehouse
