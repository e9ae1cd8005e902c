/-
What an eviction takes out.

An eviction first looks for the sessions that have ended and then takes them out one by
one, looking again each time.  What it takes out last was therefore found before anything
was taken out.  As everything is filed under its own id, and no id is used twice, taking
one session out leaves the others where they were found; so the second look never
disagrees with the first, and an eviction is no more than the removal of a list of ids
(`evict_eq`).

With the chronicle of the run this says which sessions go: those whose life is over.
-/
import Gatehouse.Proofs.House.Chronicle
import Gatehouse.Proofs.SortedMap

namespace Gatehouse.House

variable {h : House} {name : StoreName} {time : Instant}

/-! ### Taking out a list of ids -/

/-- Takes out what is filed under an id, and tells of it. -/
def takeOne (h : House) (name : StoreName) (id : SessionId) : House :=
  (h.setStore name ((h.store name).erase id)).notifyFrom name (.remove id)

/-- Takes out what is filed under each of some ids. -/
def takeAll (h : House) (name : StoreName) (ids : List SessionId) : House :=
  ids.foldl (fun h id => h.takeOne name id) h

theorem isAudited_of_auth {h' : House} (hauth : h'.auth.isSome = h.auth.isSome)
    (name : StoreName) : h'.isAudited name = h.isAudited name := by
  cases name with
  | main => exact hauth
  | bare => rfl

theorem journal_setStore (h : House) (name : StoreName) (store : Store) :
    (h.setStore name store).journal = h.journal := by
  cases name <;> rfl

theorem journal_notifyFrom (h : House) (name : StoreName) (n : Notice) :
    (h.notifyFrom name n).journal = h.journal ++ if h.isAudited name then [n] else [] := by
  unfold notifyFrom
  by_cases haudited : h.isAudited name = true
  · rw [if_pos haudited, if_pos haudited]
    cases name with
    | main => exact journal_notify haudited n
    | bare => cases haudited
  · rw [if_neg haudited, if_neg haudited, List.append_nil]

theorem sessions_takeOne (h : House) (name : StoreName) (id : SessionId) :
    (h.takeOne name id).sessions = h.sessions :=
  sessions_restocked ..

theorem store_takeOne (h : House) (name : StoreName) (id : SessionId) (other : StoreName) :
    (h.takeOne name id).store other =
      if other = name then (h.store name).erase id else h.store other := by
  rw [takeOne, store_notifyFrom, store_setStore]

/-- Nothing is left under the ids, and all else is where it was. -/
theorem get?_takeAll (h : House) (name : StoreName) (ids : List SessionId) (key : SessionId) :
    ((h.takeAll name ids).store name).get? key =
      if key ∈ ids then none else (h.store name).get? key := by
  induction ids generalizing h with
  | nil => simp [takeAll]
  | cons id rest ih =>
    show ((takeAll (h.takeOne name id) name rest).store name).get? key = _
    rw [ih, store_takeOne, if_pos rfl, SortedMap.get?_erase]
    by_cases hid : key = id <;> simp [hid]

theorem store_takeAll_of_ne (h : House) (ids : List SessionId) {other : StoreName}
    (hother : other ≠ name) : (h.takeAll name ids).store other = h.store other := by
  induction ids generalizing h with
  | nil => rfl
  | cons id rest ih =>
    show (takeAll (h.takeOne name id) name rest).store other = _
    rw [ih, store_takeOne, if_neg hother]

/-- The ids of the stored sessions that have ended before a time. -/
def ended (h : House) (name : StoreName) (time : Instant) : List SessionId :=
  (h.expired name time).map fun r => (h.session r).id

/-- What has ended and is there goes. -/
theorem evictOne_eq {r : SessionRef} (hthere : (h.store name).get? (h.session r).id = some r)
    (hended : (h.session r).isExpired time = true) :
    h.evictOne name time r = (h.takeOne name (h.session r).id, [(h.session r).id]) := by
  have hid : ∀ store : Store, ((h.setStore name store).session r).id = (h.session r).id := by
    intro store
    rw [session_setStore]
  unfold evictOne
  dsimp only
  rw [hthere]
  dsimp only
  rw [if_pos hended, hid]
  rfl

/-- All go that have ended and are there under different ids. -/
theorem evictAll_eq {rs : List SessionRef} (hnodup : (rs.map fun r => (h.session r).id).Nodup)
    (hthere : ∀ r ∈ rs, (h.store name).get? (h.session r).id = some r)
    (hended : ∀ r ∈ rs, (h.session r).isExpired time = true) :
    h.evictAll name time rs = (h.takeAll name (rs.map fun r => (h.session r).id),
      rs.map fun r => (h.session r).id) := by
  induction rs generalizing h with
  | nil => rfl
  | cons r rest ih =>
    obtain ⟨hnew, hnodup⟩ := List.nodup_cons.1 hnodup
    -- The sessions are the same after the first removal, so the rest is about the same ids.
    have hsession : ∀ r', (h.takeOne name (h.session r).id).session r' = h.session r' :=
      session_of_sessions (sessions_takeOne h name _)
    have hrest := ih (h := h.takeOne name (h.session r).id) (by simpa only [hsession] using hnodup)
      (fun r' hr' => ?_) fun r' hr' => ?_
    · unfold evictAll
      rw [evictOne_eq (hthere r List.mem_cons_self) (hended r List.mem_cons_self)]
      dsimp only
      rw [hrest]
      simp only [hsession]
      rfl
    · have hne : (h.session r').id ≠ (h.session r).id := by
        intro heq
        exact hnew (List.mem_map.2 ⟨r', hr', heq⟩)
      rw [hsession, store_takeOne, if_pos rfl, SortedMap.get?_erase, if_neg hne]
      exact hthere r' (List.mem_cons_of_mem _ hr')
    · rw [hsession]
      exact hended r' (List.mem_cons_of_mem _ hr')

/-- The ids of what is stored are its keys. -/
theorem map_id_values (hs : Sound h) (name : StoreName) :
    ((h.store name).values.map fun r => (h.session r).id) = (h.store name).keys := by
  unfold SortedMap.values SortedMap.keys
  rw [List.map_map]
  refine List.map_congr_left fun e he => ?_
  exact (hs.keyed name e.1 e.2 (SortedMap.mem_entries_iff.1 he)).1

theorem mem_expired_iff {r : SessionRef} : r ∈ h.expired name time ↔
    (∃ key, (h.store name).get? key = some r) ∧ (h.session r).isExpired time = true := by
  unfold expired Store.expired Store.select
  rw [List.mem_filter, SortedMap.mem_values_iff]

theorem get?_of_mem_expired (hs : Sound h) {r : SessionRef} (hr : r ∈ h.expired name time) :
    (h.store name).get? (h.session r).id = some r := by
  obtain ⟨⟨key, hkey⟩, -⟩ := mem_expired_iff.1 hr
  rw [(hs.keyed name key r hkey).1]
  exact hkey

theorem mem_ended_iff (hs : Sound h) {id : SessionId} : id ∈ h.ended name time ↔
    ∃ r, (h.store name).get? id = some r ∧ (h.session r).isExpired time = true := by
  refine ⟨fun hid => ?_, fun hcase => ?_⟩
  · obtain ⟨r, hr, rfl⟩ := List.mem_map.1 hid
    exact ⟨r, get?_of_mem_expired hs hr, (mem_expired_iff.1 hr).2⟩
  · obtain ⟨r, hr, hexpired⟩ := hcase
    exact List.mem_map.2 ⟨r, mem_expired_iff.2 ⟨⟨id, hr⟩, hexpired⟩, (hs.keyed name id r hr).1⟩

theorem nodup_keys (h : House) (name : StoreName) : (h.store name).keys.Nodup := by
  refine (SortedMap.pairwise_keys (h.store name)).imp fun hlt heq => ?_
  rw [heq] at hlt
  exact Std.lt_irrefl hlt

theorem nodup_ended (hs : Sound h) (name : StoreName) (time : Instant) :
    (h.ended name time).Nodup := by
  have hkeys := nodup_keys h name
  rw [← map_id_values hs] at hkeys
  exact hkeys.sublist (List.filter_sublist.map _)

/-- **An eviction removes what has ended, and nothing else.** -/
theorem evict_eq (hs : Sound h) (name : StoreName) (time : Instant) :
    h.evict name time = (h.takeAll name (h.ended name time), h.ended name time) :=
  evictAll_eq (nodup_ended hs name time) (fun _ hr => get?_of_mem_expired hs hr) fun _ hr =>
    (mem_expired_iff.1 hr).2

/-- What is stored has the times of the life that is written down for it. -/
theorem Told.life_of_stored {lives : Chronicle} (ht : Told h lives) {id : SessionId}
    {r : SessionRef} (hr : (h.store name).get? id = some r) :
    ∃ life, lives r = some life ∧ (h.session r).Lives life := by
  have hne : r ≠ emptyRef := by
    rintro rfl
    obtain ⟨hid, hkey⟩ := ht.keyed name id emptyRef hr
    have hfirst := ht.first
    rw [Session.isEmpty, hid, hkey] at hfirst
    cases hfirst
  exact ht.lives r hne (ht.toSound.lt_length name hr)

end Gatehouse.House
