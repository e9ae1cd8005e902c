/-
A bag of data is a flat map.

A bag keeps a map of keys for each owner, and says that it is empty if it lists no owner.
None of this shows: what is found under an owner and a key is what was set there last,
unless it was removed or the owner cleared since (`kept?_run`), as in a map of pairs.

One lemma for each operation says what every owner keeps after it (`ownedBy_set`,
`ownedBy_remove`, `ownedBy_clearOwner`).  Only a removal has to look at both maps: an owner
whose last key goes away is no longer listed.  This is the invariant that bags carry, and
what lets the outer map alone tell whether the bag is empty (`isEmpty_iff`).
-/
import Gatehouse.Session.DataBag
import Gatehouse.Proofs.Permission.History

namespace Gatehouse.DataBag

variable {τ : Type} {V : τ → Type}

/-! ### Changes -/

/-- A change of what is kept: a datum, or all of an owner's. -/
inductive Change {τ : Type} (V : τ → Type) where
  | set (owner key : String) (datum : Datum V)
  | remove (owner key : String)
  | clearOwner (owner : String)

/-- The owner that a change is made for. -/
def Change.owner : Change V → String
  | .set owner _ _ => owner
  | .remove owner _ => owner
  | .clearOwner owner => owner

/-- A change is about what an owner keeps under a key. -/
def Change.Concerns (owner key : String) : Change V → Prop
  | .set owner' key' _ => owner = owner' ∧ key = key'
  | .remove owner' key' => owner = owner' ∧ key = key'
  | .clearOwner owner' => owner = owner'

/-- The bag after a change. -/
def apply (b : DataBag V) : Change V → DataBag V
  | .set owner key datum => b.set owner key datum
  | .remove owner key => (b.remove owner key).1
  | .clearOwner owner => b.clearOwner owner

/-- The bag after some changes. -/
def run (b : DataBag V) (changes : List (Change V)) : DataBag V := changes.foldl apply b

/-- This was the last to be set under the key, and was neither removed since nor its owner
cleared. -/
def LastSet (owner key : String) (d : Datum V) (changes : List (Change V)) : Prop :=
  ComesAndStays (fun _ c => c = .set owner key d) (fun _ c => c.Concerns owner key) changes

theorem lastSet_of_split {owner key : String} {d : Datum V} (before : List (Change V))
    {after : List (Change V)} (hafter : ∀ c ∈ after, ¬ c.Concerns owner key) :
    LastSet owner key d (before ++ .set owner key d :: after) := by
  refine ⟨before, .set owner key d, after, rfl, rfl, ?_⟩
  rintro since c rest rfl
  exact hafter c (by simp)

/-- After some changes this is kept under the key: it was set last, or it was there before and no
change was about it. -/
def KeptAfter (b : DataBag V) (changes : List (Change V)) (owner key : String) (d : Datum V) :
    Prop :=
  LastSet owner key d changes ∨
    b.kept? owner key = some d ∧ ∀ c ∈ changes, ¬ c.Concerns owner key

variable {b b' : DataBag V}

theorem run_concat (b : DataBag V) (changes : List (Change V)) (c : Change V) :
    b.run (changes ++ [c]) = (b.run changes).apply c := by
  unfold run
  rw [List.foldl_append]
  rfl

/-! ### What each owner keeps -/

theorem ownedBy_of_listed {owner : String} {owned : SortedMap String (Datum V)}
    (h : b.owners.get? owner = some owned) : b.ownedBy owner = owned := by
  unfold ownedBy
  rw [h]
  rfl

theorem ownedBy_of_not_listed {owner : String} (h : b.owners.get? owner = none) :
    b.ownedBy owner = ∅ := by
  unfold ownedBy
  rw [h]
  rfl

theorem ownedBy_withOwned (hb : b.detached = false) (owner : String)
    {owned : SortedMap String (Datum V)} (howned : owned.isEmpty = false) (owner' : String) :
    (b.withOwned hb owner owned howned).ownedBy owner' =
      if owner' = owner then owned else b.ownedBy owner' := by
  unfold withOwned ownedBy
  rw [SortedMap.get?_insert]
  split <;> rfl

theorem ownedBy_set (hb : b.detached = false) (owner key : String) (d : Datum V) (owner' : String) :
    (b.set owner key d).ownedBy owner' =
      if owner' = owner then (b.ownedBy owner).insert key d else b.ownedBy owner' := by
  have hset : ¬ b.detached = true := Bool.eq_false_iff.1 hb
  unfold set
  rw [dif_neg hset]
  exact ownedBy_withOwned ..

theorem ownedBy_clearOwner (b : DataBag V) (owner owner' : String) :
    (b.clearOwner owner).ownedBy owner' = if owner' = owner then ∅ else b.ownedBy owner' := by
  unfold clearOwner ownedBy
  rw [SortedMap.get?_erase]
  split <;> rfl

theorem ownedBy_remove (b : DataBag V) (owner key owner' : String) :
    (b.remove owner key).1.ownedBy owner' =
      if owner' = owner then (b.ownedBy owner).erase key else b.ownedBy owner' := by
  unfold remove
  split
  · rename_i hnone
    -- Nothing is removed, as an owner that is not listed keeps nothing.
    rw [ownedBy_of_not_listed hnone]
    by_cases howner : owner' = owner
    · rw [if_pos howner, howner]
      exact ownedBy_of_not_listed hnone
    · rw [if_neg howner]
  · rename_i owned hlisted
    rw [ownedBy_of_listed hlisted]
    dsimp only
    by_cases hrest : (owned.erase key).isEmpty = true
    · have hnothing : owned.erase key = ∅ := SortedMap.ext (List.isEmpty_iff.1 hrest)
      rw [dif_pos hrest, ownedBy_clearOwner, hnothing]
    · rw [dif_neg hrest, ownedBy_withOwned]

theorem remove_snd (b : DataBag V) (owner key : String) :
    (b.remove owner key).2 = (b.kept? owner key).isSome := by
  unfold remove kept?
  split
  · rename_i hnone
    rw [ownedBy_of_not_listed hnone]
    rfl
  · rename_i owned hlisted
    rw [ownedBy_of_listed hlisted]
    rfl

theorem detached_apply (b : DataBag V) (c : Change V) : (b.apply c).detached = b.detached := by
  cases c with
  | set owner key datum =>
    show (b.set owner key datum).detached = b.detached
    unfold set
    split <;> rfl
  | remove owner key =>
    show (b.remove owner key).1.detached = b.detached
    unfold remove
    split
    · rfl
    · dsimp only
      split <;> rfl
  | clearOwner owner => rfl

theorem detached_run (b : DataBag V) (changes : List (Change V)) :
    (b.run changes).detached = b.detached := by
  induction changes generalizing b with
  | nil => rfl
  | cons c changes ih => exact (ih (b.apply c)).trans (detached_apply b c)

/-! ### What is kept under a key -/

/-- **After a change a key holds what is set, or nothing, or what it held if the change is not about
it.** -/
theorem kept?_apply (hb : b.detached = false) (c : Change V) (owner key : String) (d : Datum V) :
    (b.apply c).kept? owner key = some d ↔
      b.kept? owner key = some d ∧ ¬ c.Concerns owner key ∨ c = .set owner key d := by
  unfold kept?
  cases c with
  | set owner' key' d' =>
    show ((b.set owner' key' d').ownedBy owner).get? key = some d ↔ _
    rw [ownedBy_set hb]
    by_cases howner : owner = owner'
    · subst howner
      rw [if_pos rfl, SortedMap.get?_insert]
      by_cases hkey : key = key'
      · subst hkey
        simp [Change.Concerns, eq_comm]
      · simp [Change.Concerns, hkey, Ne.symm hkey]
    · simp [Change.Concerns, howner, Ne.symm howner]
  | remove owner' key' =>
    show ((b.remove owner' key').1.ownedBy owner).get? key = some d ↔ _
    rw [ownedBy_remove]
    by_cases howner : owner = owner'
    · subst howner
      rw [if_pos rfl, SortedMap.get?_erase]
      by_cases hkey : key = key'
      · simp [Change.Concerns, hkey]
      · simp [Change.Concerns, hkey]
    · simp [Change.Concerns, howner]
  | clearOwner owner' =>
    show ((b.clearOwner owner').ownedBy owner).get? key = some d ↔ _
    rw [ownedBy_clearOwner]
    by_cases howner : owner = owner'
    · simp [Change.Concerns, howner]
    · simp [Change.Concerns, howner]

/-- **After some changes a key holds what was set there last.** -/
theorem kept?_run (hb : b.detached = false) (changes : List (Change V)) (owner key : String)
    (d : Datum V) :
    (b.run changes).kept? owner key = some d ↔ b.KeptAfter changes owner key d := by
  unfold KeptAfter LastSet
  induction changes using List.reverseRecOn with
  | nil => simp [run, not_comesAndStays_nil]
  | append_singleton changes c ih =>
    have hattached : (b.run changes).detached = false := (detached_run b changes).trans hb
    rw [run_concat, kept?_apply hattached, ih, comesAndStays_concat, List.forall_mem_append,
      List.forall_mem_singleton]
    tauto

theorem get?_eq_some_iff [DecidableEq τ] {owner key : String} {type : τ} {v : V type} :
    b.get? owner key type = some v ↔ b.kept? owner key = some ⟨type, v⟩ := by
  unfold get?
  rw [Option.bind_eq_some_iff]
  constructor
  · rintro ⟨d, hkept, hd⟩
    rw [hkept, Datum.as?_eq_some_iff.1 hd]
  · intro hkept
    exact ⟨_, hkept, Datum.as?_eq_some_iff.2 rfl⟩

/-- Whether a bag is empty can be read off the owners, as none is listed without a key. -/
theorem isEmpty_iff : b.isEmpty = true ↔ ∀ owner key, b.kept? owner key = none := by
  constructor
  · intro hempty owner key
    have hnone : b.owners = ∅ := SortedMap.ext (List.isEmpty_iff.1 hempty)
    unfold kept? ownedBy
    rw [hnone]
    rfl
  · intro hnone
    refine List.isEmpty_iff.2 (List.eq_nil_iff_forall_not_mem.2 ?_)
    rintro ⟨owner, owned⟩ hlisted
    have hsome : owned.entries ≠ [] := by
      intro hnil
      have hinhabited := b.inhabited _ hlisted
      rw [SortedMap.isEmpty, hnil] at hinhabited
      cases hinhabited
    obtain ⟨⟨key, d⟩, hd⟩ := List.exists_mem_of_ne_nil _ hsome
    have hkept : b.kept? owner key = some d := by
      unfold kept?
      rw [ownedBy_of_listed (SortedMap.mem_entries_iff.1 hlisted)]
      exact SortedMap.mem_entries_iff.1 hd
    rw [hnone] at hkept
    cases hkept

/-! ### Owners among themselves -/

/-- Nothing that can be asked on behalf of an owner tells two bags apart. -/
structure AlikeTo (owner : String) [DecidableEq τ] (b b' : DataBag V) : Prop where
  /-- The same is found, under every key and of every type. -/
  get? : ∀ key type, b.get? owner key type = b'.get? owner key type
  /-- A removal gives the same answer. -/
  remove : ∀ key, (b.remove owner key).2 = (b'.remove owner key).2
  /-- The same keys are listed. -/
  keys : (b.keys owner).Perm (b'.keys owner)

theorem alikeTo_of_ownedBy [DecidableEq τ] {owner : String}
    (h : b.ownedBy owner = b'.ownedBy owner) : AlikeTo owner b b' := by
  have hkept : ∀ key, b.kept? owner key = b'.kept? owner key := fun key =>
    congrArg (fun owned => owned.get? key) h
  constructor
  case get? =>
    intro key type
    unfold DataBag.get?
    rw [hkept]
  case remove =>
    intro key
    rw [remove_snd, remove_snd, hkept]
  case keys =>
    unfold DataBag.keys
    rw [h]

/-- A change for another owner leaves what an owner keeps. -/
theorem ownedBy_apply_of_ne (hb : b.detached = false) {c : Change V} {owner : String}
    (hc : c.owner ≠ owner) : (b.apply c).ownedBy owner = b.ownedBy owner := by
  cases c with
  | set owner' key d => exact (ownedBy_set hb ..).trans (if_neg (Ne.symm hc))
  | remove owner' key => exact (ownedBy_remove ..).trans (if_neg (Ne.symm hc))
  | clearOwner owner' => exact (ownedBy_clearOwner ..).trans (if_neg (Ne.symm hc))

/-- What an owner keeps after a change depends on nothing but what it kept before. -/
theorem ownedBy_apply_congr (hb : b.detached = false) (hb' : b'.detached = false) {owner : String}
    (h : b.ownedBy owner = b'.ownedBy owner) (c : Change V) (hc : c.owner = owner) :
    (b.apply c).ownedBy owner = (b'.apply c).ownedBy owner := by
  subst hc
  cases c with
  | set owner' key d =>
    show (b.set owner' key d).ownedBy owner' = (b'.set owner' key d).ownedBy owner'
    rw [ownedBy_set hb, ownedBy_set hb', if_pos rfl, if_pos rfl]
    exact congrArg (fun owned => owned.insert key d) h
  | remove owner' key =>
    show (b.remove owner' key).1.ownedBy owner' = (b'.remove owner' key).1.ownedBy owner'
    rw [ownedBy_remove, ownedBy_remove, if_pos rfl, if_pos rfl]
    exact congrArg (fun owned => owned.erase key) h
  | clearOwner owner' =>
    show (b.clearOwner owner').ownedBy owner' = (b'.clearOwner owner').ownedBy owner'
    rw [ownedBy_clearOwner, ownedBy_clearOwner, if_pos rfl, if_pos rfl]

/-- Changes for other owners can be left out. -/
theorem ownedBy_run_filter (hb : b.detached = false) (hb' : b'.detached = false) {owner : String}
    (h : b.ownedBy owner = b'.ownedBy owner) (changes : List (Change V)) :
    (b.run changes).ownedBy owner =
      (b'.run (changes.filter (·.owner = owner))).ownedBy owner := by
  induction changes generalizing b b' with
  | nil => exact h
  | cons c changes ih =>
    have hafter : (b.apply c).detached = false := (detached_apply b c).trans hb
    by_cases hc : c.owner = owner
    · rw [List.filter_cons_of_pos (by simpa using hc)]
      exact ih hafter ((detached_apply b' c).trans hb') (ownedBy_apply_congr hb hb' h c hc)
    · rw [List.filter_cons_of_neg (by simpa using hc)]
      exact ih hafter hb' ((ownedBy_apply_of_ne hb hc).trans h)

/-! ### The bag as a map of pairs -/

/-- **A bag that is not detached finds under an owner and a key what was set there last, whatever
was done in between and by whomever.** -/
theorem flat_map_of_last_sets [DecidableEq τ] (hb : b.detached = false)
    (changes : List (Change V)) :
    let after := b.run changes
    -- What was set last is found if it is of the type that is asked for, and nothing otherwise.
    (∀ owner key type v, after.get? owner key type = some v ↔
      b.KeptAfter changes owner key ⟨type, v⟩) ∧
    -- A removal tells whether there was anything, of whatever type.
    (∀ owner key, (after.remove owner key).2 = true ↔ ∃ d, b.KeptAfter changes owner key d) ∧
    -- Each key of an owner is listed once.
    (∀ owner, (after.keys owner).Nodup ∧
      ∀ key, key ∈ after.keys owner ↔ ∃ d, b.KeptAfter changes owner key d) ∧
    -- What is done for others does not show, be it more or less of it.
    (∀ owner changes',
      changes'.filter (fun c => c.owner = owner) = changes.filter (fun c => c.owner = owner) →
      AlikeTo owner after (b.run changes')) ∧
    -- The bag is empty if nothing is kept, however it went away.
    (after.isEmpty = true ↔ ∀ owner key d, ¬ b.KeptAfter changes owner key d) := by
  intro after
  have hkept := kept?_run hb changes
  refine ⟨?_, ?_, ?_, ?_, ?_⟩
  · intro owner key type v
    rw [get?_eq_some_iff, hkept]
  · intro owner key
    rw [remove_snd, Option.isSome_iff_exists]
    exact exists_congr fun d => hkept owner key d
  · intro owner
    refine ⟨(SortedMap.pairwise_keys _).imp Std.ne_of_lt, fun key => ?_⟩
    rw [keys, SortedMap.mem_keys_iff, SortedMap.contains, Option.isSome_iff_exists]
    exact exists_congr fun d => hkept owner key d
  · intro owner changes' hsame
    apply alikeTo_of_ownedBy
    rw [ownedBy_run_filter hb hb rfl changes, ownedBy_run_filter hb hb rfl changes', hsame]
  · rw [isEmpty_iff]
    refine forall₂_congr fun owner key => ?_
    rw [Option.eq_none_iff_forall_ne_some]
    exact forall_congr' fun d => not_congr (hkept owner key d)

/-- A number gives way to a text.  The reports, whose key has the same name and is cleared, see no
more of it than if billing had kept nothing. -/
theorem cursor_of_billing :
    let start : SessionData := empty.set "billing" "cursor" (.uint32 7)
    let changes : List (Change DatumType.Value) :=
      [.set "reports" "cursor" (.bool true), .set "billing" "cursor" (.string "page-3"),
        .remove "billing" "limit", .clearOwner "reports"]
    let after := start.run changes
    start.detached = false ∧ after.get? "billing" "cursor" .string = some "page-3" ∧
      (after.remove "billing" "cursor").2 = true ∧ after.isEmpty = false ∧
      AlikeTo "reports" after
        (start.run [.set "reports" "cursor" (.bool true), .clearOwner "reports"]) := by
  intro start changes after
  obtain ⟨hget, hremove, -, hothers, hempty⟩ := flat_map_of_last_sets (b := start) rfl changes
  have hpage : start.KeptAfter changes "billing" "cursor" (.string "page-3") :=
    .inl (lastSet_of_split [_] (by simp [Change.Concerns]))
  refine ⟨rfl, (hget ..).2 hpage, (hremove ..).2 ⟨_, hpage⟩, ?_, hothers _ _ rfl⟩
  exact Bool.eq_false_iff.2 fun h => hempty.1 h _ _ _ hpage

end Gatehouse.DataBag
