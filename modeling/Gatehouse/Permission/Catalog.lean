/-
Catalogs: things filed under a text of their own.

Permission sets and registries both file things under the normal form of a code
and both keep what was filed first.  The text under which a thing is filed is a
function of the thing, and the type says so, so a listing by key is a listing of
the things in the order of their texts.
-/
import Gatehouse.SortedMap

namespace Gatehouse

/-- Things of type `α`, each filed under its `form`, in the order of the forms. -/
structure Catalog (α : Type) (form : α → String) where
  /-- The things with the texts they are filed under. -/
  table : SortedMap String α
  /-- Each is filed under its own form. -/
  keyed : ∀ e ∈ table.entries, e.1 = form e.2

namespace Catalog

variable {α : Type} {form : α → String}

@[ext] theorem ext {c d : Catalog α form} (h : c.table = d.table) : c = d := by
  cases c; cases d; simp_all

/-- The catalog with nothing in it. -/
def empty : Catalog α form := ⟨∅, by intro e he; cases he⟩

instance : EmptyCollection (Catalog α form) := ⟨empty⟩
instance : Inhabited (Catalog α form) := ⟨empty⟩

/-- What is filed under `key`. -/
def get? (c : Catalog α form) (key : String) : Option α := c.table.get? key

/-- Whether something is filed under `key`. -/
def contains (c : Catalog α form) (key : String) : Bool := c.table.contains key

/-- Files `x` unless its place is taken. -/
def add (c : Catalog α form) (x : α) : Catalog α form :=
  ⟨c.table.insertIfNew (form x) x, fun e he => by
    rcases SortedMap.mem_insertIfNew he with rfl | he
    · rfl
    · exact c.keyed e he⟩

/-- Files each thing in turn. -/
def addAll (c : Catalog α form) (xs : List α) : Catalog α form := xs.foldl add c

/-- Takes out what is filed under `key`. -/
def drop (c : Catalog α form) (key : String) : Catalog α form :=
  ⟨c.table.erase key, fun e he => c.keyed e (SortedMap.mem_erase he)⟩

/-- Takes out what is filed under each of the keys. -/
def dropAll (c : Catalog α form) (keys : List String) : Catalog α form := keys.foldl drop c

/-- The things, in the order of their forms. -/
def items (c : Catalog α form) : List α := c.table.values

/-- The forms in use, in order. -/
def forms (c : Catalog α form) : List String := c.table.keys

/-- How many things there are. -/
def size (c : Catalog α form) : Nat := c.table.size

/-- Whether there is nothing. -/
def isEmpty (c : Catalog α form) : Bool := c.table.isEmpty

@[simp] theorem get?_empty (key : String) : (∅ : Catalog α form).get? key = none := rfl

theorem get?_add (c : Catalog α form) (x : α) (key : String) :
    (c.add x).get? key = if key = form x then some ((c.get? (form x)).getD x) else c.get? key :=
  SortedMap.get?_insertIfNew _ _ _ _

@[simp] theorem get?_drop (c : Catalog α form) (key k : String) :
    (c.drop key).get? k = if k = key then none else c.get? k :=
  SortedMap.get?_erase _ _ _

theorem contains_eq (c : Catalog α form) (key : String) :
    c.contains key = (c.get? key).isSome := rfl

/-- What is filed under a key has that key as its form. -/
theorem form_of_get? {c : Catalog α form} {key : String} {x : α} (h : c.get? key = some x) :
    form x = key :=
  (c.keyed (key, x) (SortedMap.mem_entries_iff.2 h)).symm

/-- The forms in use are the forms of the things. -/
theorem forms_eq (c : Catalog α form) : c.forms = c.items.map form := by
  unfold forms items SortedMap.keys SortedMap.values
  rw [List.map_map]
  exact List.map_congr_left c.keyed

theorem length_items (c : Catalog α form) : c.items.length = c.size := by
  simp [items, size, SortedMap.values, SortedMap.size]

end Catalog

end Gatehouse
