/-
Sets as objects.

In a running program a set is an object, and anybody who has a reference to it can ask it
to change.  What it holds is a piece of contents that was published once and never changes.
A copy holds the same piece as the original; a change publishes a new piece and lets one
object hold it.  So pieces are shared, among originals, copies and sessions, while objects
are only ever changed through references to themselves.

What is shown here is that the sharing cannot be seen: each object shows a set (`view?`),
and the operations act on what is shown as if sets were values, each object with its own.
The bound on what objects hold carries this.  A new piece is published behind the old ones,
so no object holds it before it is given to one.
-/
import Gatehouse.Proofs.Permission.History

namespace Gatehouse

/-- A reference to a set. -/
abbrev SetRef := Nat

/-- A set as an object: which of the published pieces it holds, and whether it refuses to change. -/
structure SetObject where
  held : Nat
  readOnly : Bool

/-- All sets of a program.  An object that was dropped leaves its place empty. -/
structure SetHeap where
  published : List (Catalog Code Code.normalized)
  objects : List (Option SetObject)
  /-- What an object holds was published. -/
  bound : ∀ o, some o ∈ objects → o.held < published.length

namespace SetHeap

def empty : SetHeap := ⟨[], [], fun _ ho => nomatch ho⟩

/-- The object that a reference designates, if it was not dropped. -/
def object? (h : SetHeap) (r : SetRef) : Option SetObject := h.objects[r]?.join

/-- The set that a reference shows. -/
def view? (h : SetHeap) (r : SetRef) : Option PermissionSet :=
  (h.object? r).bind fun o => h.published[o.held]?.map fun piece => ⟨piece, o.readOnly⟩

/-! ### Operations -/

/-- Publishes a piece, which no object holds yet. -/
def publish (h : SetHeap) (piece : Catalog Code Code.normalized) : SetHeap where
  published := h.published ++ [piece]
  objects := h.objects
  bound o ho := by
    have hbound := h.bound o ho
    rw [List.length_append]
    omega

/-- Puts an object behind all others, or leaves the place empty. -/
def place (h : SetHeap) (o : Option SetObject)
    (ho : ∀ x, o = some x → x.held < h.published.length) : SetHeap where
  published := h.published
  objects := h.objects ++ [o]
  bound x hx := by
    rcases List.mem_append.1 hx with hbefore | hnew
    · exact h.bound x hbefore
    · exact ho x (List.mem_singleton.1 hnew).symm

/-- Replaces an object, or empties its place. -/
def replace (h : SetHeap) (r : SetRef) (o : Option SetObject)
    (ho : ∀ x, o = some x → x.held < h.published.length) : SetHeap where
  published := h.published
  objects := h.objects.set r o
  bound x hx := by
    rcases List.mem_or_eq_of_mem_set hx with hbefore | hnew
    · exact h.bound x hbefore
    · exact ho x hnew.symm

theorem lt_length_publish (h : SetHeap) (piece : Catalog Code Code.normalized) (readOnly : Bool) :
    ∀ x, some (SetObject.mk h.published.length readOnly) = some x →
      x.held < (h.publish piece).published.length := by
  intro x hx
  obtain rfl := Option.some.inj hx
  simp [publish]

theorem held_lt {h : SetHeap} {r : SetRef} {o : SetObject} (ho : h.object? r = some o) :
    o.held < h.published.length :=
  h.bound o (List.mem_of_getElem? (Option.join_eq_some_iff.1 ho))

/-- A new object that shows a set. -/
def make (h : SetHeap) (s : PermissionSet) : SetHeap :=
  (h.publish s.spellings).place (some ⟨h.published.length, s.readOnly⟩)
    (h.lt_length_publish s.spellings s.readOnly)

/-- A new object that holds the same piece.  It may be told whether to refuse changes; otherwise it
does as the original. -/
def copy (h : SetHeap) (r : SetRef) (readOnly : Option Bool) : SetHeap :=
  h.place ((h.object? r).map fun o => ⟨o.held, readOnly.getD o.readOnly⟩) fun x hx => by
    obtain ⟨o, ho, hheld⟩ := Option.map_eq_some_iff.1 hx
    have hlt := held_lt ho
    rw [← hheld]
    exact hlt

/-- Asks an object to change. -/
def change (h : SetHeap) (r : SetRef) (c : PermissionSet.Change) : SetHeap :=
  match h.view? r with
  | none => h
  | some s =>
    if s.readOnly then h
    else
      (h.publish (s.apply c).spellings).replace r (some ⟨h.published.length, false⟩)
        (h.lt_length_publish (s.apply c).spellings false)

/-- Drops an object. -/
def drop (h : SetHeap) (r : SetRef) : SetHeap := h.replace r none fun _ hx => nomatch hx

/-! ### What references show -/

variable {h : SetHeap} {r r' : SetRef}

theorem object?_of_le (hr : h.objects.length ≤ r) : h.object? r = none := by
  unfold object?
  rw [List.getElem?_eq_none hr]
  rfl

theorem lt_of_view? {s : PermissionSet} (hs : h.view? r = some s) : r < h.objects.length := by
  by_contra hr
  rw [view?, object?_of_le (Nat.le_of_not_lt hr)] at hs
  cases hs

/-- What is shown depends on the object and on what it holds. -/
theorem view?_congr {h' : SetHeap} (hobject : h'.object? r' = h.object? r)
    (hpiece : ∀ o, h.object? r = some o → h'.published[o.held]? = h.published[o.held]?) :
    h'.view? r' = h.view? r := by
  unfold view?
  rw [hobject]
  cases ho : h.object? r with
  | none => rfl
  | some o =>
    show h'.published[o.held]?.map _ = h.published[o.held]?.map _
    rw [hpiece o ho]

/-- A piece that is published shows nowhere. -/
theorem view?_publish (h : SetHeap) (piece : Catalog Code Code.normalized) (r : SetRef) :
    (h.publish piece).view? r = h.view? r := by
  refine view?_congr rfl fun o ho => ?_
  exact List.getElem?_append_left (held_lt ho)

theorem object?_place {o : Option SetObject}
    {ho : ∀ x, o = some x → x.held < h.published.length} :
    (h.place o ho).object? r = if r = h.objects.length then o else h.object? r := by
  unfold object? place
  dsimp only
  rcases Nat.lt_trichotomy r h.objects.length with hlt | heq | hgt
  · rw [if_neg (Nat.ne_of_lt hlt), List.getElem?_append_left hlt]
  · rw [if_pos heq, heq]
    simp
  · rw [if_neg (Nat.ne_of_gt hgt), List.getElem?_eq_none (Nat.le_of_lt hgt),
      List.getElem?_eq_none (by rw [List.length_append]; exact hgt)]

theorem object?_replace_self (hr : r < h.objects.length) {o : Option SetObject}
    {ho : ∀ x, o = some x → x.held < h.published.length} : (h.replace r o ho).object? r = o := by
  unfold object? replace
  dsimp only
  rw [List.getElem?_set_self hr]
  rfl

theorem object?_replace_of_ne (hr : r' ≠ r) {o : Option SetObject}
    {ho : ∀ x, o = some x → x.held < h.published.length} :
    (h.replace r o ho).object? r' = h.object? r' := by
  unfold object? replace
  dsimp only
  rw [List.getElem?_set_ne (Ne.symm hr)]

theorem view?_place_of_ne (hr : r ≠ h.objects.length) {o : Option SetObject}
    {ho : ∀ x, o = some x → x.held < h.published.length} :
    (h.place o ho).view? r = h.view? r :=
  view?_congr (by rw [object?_place, if_neg hr]) fun _ _ => rfl

theorem view?_replace_of_ne (hr : r' ≠ r) {o : Option SetObject}
    {ho : ∀ x, o = some x → x.held < h.published.length} :
    (h.replace r o ho).view? r' = h.view? r' :=
  view?_congr (object?_replace_of_ne hr) fun _ _ => rfl

theorem view?_make (h : SetHeap) (s : PermissionSet) (r : SetRef) :
    (h.make s).view? r = if r = h.objects.length then some s else h.view? r := by
  by_cases hr : r = h.objects.length
  · rw [if_pos hr]
    have hobject : (h.make s).object? r = some ⟨h.published.length, s.readOnly⟩ := by
      unfold make
      rw [object?_place]
      exact if_pos hr
    unfold view?
    rw [hobject]
    simp [make, place, publish]
  · rw [if_neg hr, ← view?_publish h s.spellings r]
    exact view?_place_of_ne (h := h.publish s.spellings) hr

theorem length_make (h : SetHeap) (s : PermissionSet) :
    (h.make s).objects.length = h.objects.length + 1 := by
  simp [make, place, publish]

theorem view?_copy (h : SetHeap) (source : SetRef) (readOnly : Option Bool) (r : SetRef) :
    (h.copy source readOnly).view? r =
      if r = h.objects.length then
        (h.view? source).map fun s => ⟨s.spellings, readOnly.getD s.readOnly⟩
      else h.view? r := by
  by_cases hr : r = h.objects.length
  · rw [if_pos hr]
    have hobject : (h.copy source readOnly).object? r =
        (h.object? source).map fun o => ⟨o.held, readOnly.getD o.readOnly⟩ := by
      unfold copy
      rw [object?_place, if_pos hr]
    unfold view?
    rw [hobject]
    cases h.object? source with
    | none => rfl
    | some o =>
      show h.published[o.held]?.map _ = (h.published[o.held]?.map _).map _
      rw [Option.map_map]
      rfl
  · rw [if_neg hr]
    exact view?_place_of_ne hr

/-- **A change shows in the object that is asked for it, and in no other.** -/
theorem view?_change (h : SetHeap) (target : SetRef) (c : PermissionSet.Change) (r : SetRef) :
    (h.change target c).view? r =
      if r = target then (h.view? target).map (·.apply c) else h.view? r := by
  unfold change
  cases hview : h.view? target with
  | none =>
    by_cases hr : r = target
    · rw [if_pos hr, hr]
      exact hview
    · exact (if_neg hr).symm
  | some s =>
    dsimp only
    by_cases hs : s.readOnly = true
    · rw [if_pos hs]
      by_cases hr : r = target
      · rw [if_pos hr, hr, hview, Option.map_some, PermissionSet.apply_of_readOnly hs]
      · rw [if_neg hr]
    · rw [if_neg hs]
      have hmutable : s.readOnly = false := by simpa using hs
      have hlt : target < (h.publish (s.apply c).spellings).objects.length :=
        lt_of_view? (h := h) hview
      by_cases hr : r = target
      · subst hr
        rw [if_pos rfl, Option.map_some]
        unfold view?
        rw [object?_replace_self hlt]
        simp [replace, publish, PermissionSet.apply_of_mutable hmutable]
      · rw [if_neg hr, ← view?_publish h (s.apply c).spellings r]
        exact view?_replace_of_ne hr

theorem view?_drop_of_ne (hr : r' ≠ r) : (h.drop r).view? r' = h.view? r' :=
  view?_replace_of_ne hr

/-- A set that refuses to change shows the same for as long as there is a reference to it. -/
theorem view?_change_of_readOnly {s : PermissionSet} (hs : h.view? r = some s)
    (hreadOnly : s.readOnly = true) (target : SetRef) (c : PermissionSet.Change) :
    (h.change target c).view? r = some s := by
  rw [view?_change]
  by_cases hr : r = target
  · rw [if_pos hr, ← hr, hs, Option.map_some, PermissionSet.apply_of_readOnly hreadOnly]
  · rw [if_neg hr, hs]

end SetHeap

end Gatehouse
