/-
The journal of the auth module, replayed.

Whoever has the journal can work out what the auth module should be keeping by now:
what it was told to keep, less what it was told to forget, with the message types it
was told last.  That is what the main store holds, whether or not the module could
keep anything.

Two facts carry the replay through a run.  The store tells what it takes in only when
the id was free, and what it gives up only when it was there.  And a record changes
only by a subscription, of which the module is told under the session's id; so if no
two sessions carry one id, it is told about the session it keeps.
-/
import Gatehouse.Proofs.House.Invariant
import Gatehouse.Proofs.SortedMap

namespace Gatehouse

/-! ### Replaying -/

/-- What is kept after a notice. -/
def Notice.replay (kept : SortedMap SessionId SessionRecord) :
    Notice → SortedMap SessionId SessionRecord
  | .approve _ => kept
  | .persist record => kept.insert record.sessionId record
  | .remove id => kept.erase id
  | .clear => ∅
  | .traffic _ => kept
  | .messageTypes id types =>
    match kept.get? id with
    | some record => kept.insert id { record with messageTypes := types }
    | none => kept

/-- What is kept after all the notices of a journal. -/
def replay (journal : List Notice) : SortedMap SessionId SessionRecord :=
  journal.foldl Notice.replay ∅

@[simp] theorem replay_concat (journal : List Notice) (n : Notice) :
    replay (journal ++ [n]) = n.replay (replay journal) := by
  unfold replay
  rw [List.foldl_append]
  rfl

/-- Nothing is to be kept that is kept already, and nothing is to be forgotten that is not kept. -/
structure Consistent (journal : List Notice) : Prop where
  /-- What is to be kept is new. -/
  persist : ∀ before record after, journal = before ++ .persist record :: after →
    (replay before).contains record.sessionId = false
  /-- What is to be forgotten is there. -/
  remove : ∀ before id after, journal = before ++ .remove id :: after →
    (replay before).contains id = true

theorem consistent_nil : Consistent [] := by
  refine ⟨fun before record after h => ?_, fun before id after h => ?_⟩
  · simp at h
  · simp at h

theorem Consistent.concat {journal : List Notice} {n : Notice} (h : Consistent journal)
    (hpersist : ∀ record, n = .persist record →
      (replay journal).contains record.sessionId = false)
    (hremove : ∀ id, n = .remove id → (replay journal).contains id = true) :
    Consistent (journal ++ [n]) := by
  refine ⟨fun before record after hsplit => ?_, fun before id after hsplit => ?_⟩
  · rcases concat_eq_split hsplit with ⟨rfl, hlast, -⟩ | ⟨init, -, hinit⟩
    · exact hpersist record hlast
    · exact h.persist before record init hinit
  · rcases concat_eq_split hsplit with ⟨rfl, hlast, -⟩ | ⟨init, -, hinit⟩
    · exact hremove id hlast
    · exact h.remove before id init hinit

namespace House

/-! ### The journal and the main store -/

/-- The journal says what the main store holds. -/
structure Mirrors (h : House) : Prop where
  /-- The auth module is told of additions and removals only. -/
  consistent : Consistent h.journal
  /-- What is kept are the ids of the store. -/
  ids : ∀ id, (replay h.journal).contains id = h.main.contains id
  /-- If no two sessions carry one id, what is kept are the records of the stored sessions. -/
  records : DistinctIds h → ∀ id r, h.main.get? id = some r →
    (replay h.journal).get? id = some (h.session r).toRecord

variable {h h' : House}

/-- A move that neither changes the store nor anything that records show. -/
theorem Mirrors.of_same (hm : Mirrors h) (hmain : h'.main = h.main)
    (hconsistent : Consistent h'.journal) (hreplay : replay h'.journal = replay h.journal)
    (hdistinct : DistinctIds h' → DistinctIds h)
    (hrecord : ∀ id r, h.main.get? id = some r →
      (h'.session r).toRecord = (h.session r).toRecord) : Mirrors h' := by
  refine ⟨hconsistent, fun id => ?_, fun hd id r hr => ?_⟩
  · rw [hreplay, hmain]
    exact hm.ids id
  · rw [hmain] at hr
    rw [hreplay, hrecord id r hr]
    exact hm.records (hdistinct hd) id r hr

/-- Nothing about what is to be kept is said. -/
theorem Mirrors.notify_passing (ha : h.auth.isSome = true) (hm : Mirrors h) {n : Notice}
    (hreplay : ∀ kept, n.replay kept = kept) (hpersist : ∀ record, n ≠ .persist record)
    (hremove : ∀ id, n ≠ .remove id) : Mirrors (h.notify n) := by
  have hjournal := journal_notify ha n
  refine hm.of_same rfl ?_ ?_ id fun _ _ _ => rfl
  · rw [hjournal]
    exact hm.consistent.concat (fun record hn => absurd hn (hpersist record))
      fun id hn => absurd hn (hremove id)
  · rw [hjournal, replay_concat, hreplay]

/-- The main store changes, and the module is told what keeps it in step. -/
theorem Mirrors.of_told (ha : h.auth.isSome = true) (hm : Mirrors h) {store : Store} {n : Notice}
    (hpersist : ∀ record, n = .persist record →
      (replay h.journal).contains record.sessionId = false)
    (hremove : ∀ id, n = .remove id → (replay h.journal).contains id = true)
    (hids : ∀ id, (n.replay (replay h.journal)).contains id = store.contains id)
    (hrecords : DistinctIds h → ∀ id r, store.get? id = some r →
      (n.replay (replay h.journal)).get? id = some (h.session r).toRecord) :
    Mirrors ((h.setStore .main store).notify n) := by
  have hjournal : ((h.setStore .main store).notify n).journal = h.journal ++ [n] :=
    journal_notify (h := h.setStore .main store) ha n
  refine ⟨?_, fun id => ?_, fun hd id r hr => ?_⟩
  · rw [hjournal]
    exact hm.consistent.concat hpersist hremove
  · rw [hjournal, replay_concat]
    exact hids id
  · rw [hjournal, replay_concat]
    exact hrecords hd id r hr

/-- A session comes into the main store, which had nothing under its id. -/
theorem Mirrors.stored (ha : h.auth.isSome = true) (hm : Mirrors h)
    {key : SessionId} {r : SessionRef} (hid : (h.session r).id = key)
    (hfree : h.main.get? key = none) :
    Mirrors ((h.setStore .main (h.main.insert key r)).notify
      (.persist (h.session r).toRecord)) := by
  have hrecord : (h.session r).toRecord.sessionId = key := hid
  refine hm.of_told ha (fun record hn => ?_) (fun id hn => nomatch hn) (fun id => ?_)
    fun hd id r' hr' => ?_
  · obtain rfl := Notice.persist.inj hn
    rw [hrecord, hm.ids, SortedMap.contains, hfree]
    rfl
  · show ((replay h.journal).insert _ _).contains id = (h.main.insert key r).contains id
    rw [hrecord, SortedMap.contains, SortedMap.contains, SortedMap.get?_insert,
      SortedMap.get?_insert]
    by_cases hk : id = key
    · rw [if_pos hk, if_pos hk]
      rfl
    · rw [if_neg hk, if_neg hk]
      exact hm.ids id
  · show ((replay h.journal).insert _ _).get? id = some (h.session r').toRecord
    rw [hrecord, SortedMap.get?_insert]
    rw [SortedMap.get?_insert] at hr'
    by_cases hk : id = key
    · rw [if_pos hk] at hr'
      rw [if_pos hk, Option.some.inj hr']
    · rw [if_neg hk] at hr'
      rw [if_neg hk]
      exact hm.records hd id r' hr'

/-- A session goes out of the main store. -/
theorem Mirrors.taken (hs : Sound h) (ha : h.auth.isSome = true) (hm : Mirrors h)
    {key : SessionId} {r : SessionRef} (hthere : h.main.get? key = some r) :
    Mirrors ((h.setStore .main (h.main.erase key)).notify (.remove (h.session r).id)) := by
  have hid : (h.session r).id = key := (hs.keyed .main key r hthere).1
  refine hm.of_told ha (fun record hn => nomatch hn) (fun id hn => ?_) (fun id => ?_)
    fun hd id r' hr' => ?_
  · obtain rfl := Notice.remove.inj hn
    rw [hid, hm.ids, SortedMap.contains, hthere]
    rfl
  · show ((replay h.journal).erase _).contains id = (h.main.erase key).contains id
    rw [hid, SortedMap.contains, SortedMap.contains, SortedMap.get?_erase, SortedMap.get?_erase]
    by_cases hk : id = key
    · rw [if_pos hk, if_pos hk]
      rfl
    · rw [if_neg hk, if_neg hk]
      exact hm.ids id
  · show ((replay h.journal).erase _).get? id = some (h.session r').toRecord
    rw [hid, SortedMap.get?_erase]
    rw [SortedMap.get?_erase] at hr'
    by_cases hk : id = key
    · rw [if_pos hk] at hr'
      cases hr'
    · rw [if_neg hk] at hr'
      rw [if_neg hk]
      exact hm.records hd id r' hr'

theorem Mirrors.cleared (ha : h.auth.isSome = true) (hm : Mirrors h) :
    Mirrors ((h.setStore .main ∅).notify .clear) :=
  hm.of_told ha (fun _ hn => nomatch hn) (fun _ hn => nomatch hn) (fun _ => rfl)
    fun _ _ _ hr => nomatch hr

/-- What the Empty session is asked to listen to changes nothing, and nobody is told. -/
theorem subscribe_of_isEmpty {r : SessionRef} (hempty : (h.session r).isEmpty = true)
    (types : List String) : h.subscribe r types = h.setSession r (h.session r) := by
  have hsame : (h.session r).subscribe types = h.session r := by
    rw [Session.subscribe, if_pos hempty]
  unfold subscribe
  rw [hsame]
  simp [hempty]

/-- Of any other session the auth module is told. -/
theorem subscribe_of_not_isEmpty (hs : Sound h) (ha : h.auth.isSome = true) {r : SessionRef}
    (hr : (h.session r).isEmpty = false) (types : List String) :
    h.subscribe r types = (h.setSession r ((h.session r).subscribe types)).notify
      (.messageTypes (h.session r).id ((h.session r).subscribe types).messageTypes.keys) := by
  have horigin := Session.subscribe_keeps (s := h.session r) types
  have htold : (!((h.session r).subscribe types).isEmpty &&
      ((h.session r).subscribe types).audited) = true := by
    rw [horigin.isEmpty, horigin.audited, hr, hs.audited r hr, ha]
    rfl
  unfold subscribe
  dsimp only
  rw [if_pos htold, horigin.id]

/-- Message types replace those of the record that is kept under the id, if one is. -/
theorem get?_replay_messageTypes (kept : SortedMap SessionId SessionRecord) (id : SessionId)
    (types : List String) (other : SessionId) :
    ((Notice.messageTypes id types).replay kept).get? other =
      if other = id then (kept.get? id).map fun record => { record with messageTypes := types }
      else kept.get? other := by
  simp only [Notice.replay]
  cases hkept : kept.get? id with
  | none =>
    by_cases hother : other = id
    · rw [if_pos hother, hother]
      exact hkept
    · rw [if_neg hother]
  | some record =>
    dsimp only
    rw [SortedMap.get?_insert]
    rfl

theorem contains_replay_messageTypes (kept : SortedMap SessionId SessionRecord) (id : SessionId)
    (types : List String) (other : SessionId) :
    ((Notice.messageTypes id types).replay kept).contains other = kept.contains other := by
  unfold SortedMap.contains
  rw [get?_replay_messageTypes]
  by_cases hother : other = id
  · rw [if_pos hother, hother, Option.isSome_map]
  · rw [if_neg hother]

/-- A session listens to other types, and the module is told.  If it keeps the id, it learns of
them. -/
theorem Mirrors.told_types (hs : Sound h) (ha : h.auth.isSome = true) (hm : Mirrors h)
    {r : SessionRef} {s : Session} (horigin : Session.SameOrigin (h.session r) s)
    (hr : (h.session r).isEmpty = false) :
    Mirrors ((h.setSession r s).notify
      (.messageTypes (h.session r).id s.messageTypes.keys)) := by
  have hjournal : ((h.setSession r s).notify
      (.messageTypes (h.session r).id s.messageTypes.keys)).journal =
        h.journal ++ [.messageTypes (h.session r).id s.messageTypes.keys] :=
    journal_notify (h := h.setSession r s) ha _
  have hlt : r < h.sessions.length := lt_of_not_isEmpty hr
  have hsame : ∀ r', ((h.setSession r s).session r').id = (h.session r').id := by
    intro r'
    rw [session_setSession]
    by_cases hr' : r' = r ∧ r < h.sessions.length
    · rw [if_pos hr', hr'.1, horigin.id]
    · rw [if_neg hr']
  refine ⟨?_, fun id => ?_, fun hd id r' hr' => ?_⟩
  · rw [hjournal]
    exact hm.consistent.concat (fun record hn => nomatch hn) fun id hn => nomatch hn
  · rw [hjournal, replay_concat, contains_replay_messageTypes]
    exact hm.ids id
  · have hd' : DistinctIds h := by
      intro i hi j hj hij
      have hlength : (h.setSession r s).sessions.length = h.sessions.length := List.length_set ..
      refine hd i (hlength.symm ▸ hi) j (hlength.symm ▸ hj) ?_
      exact (hsame i).trans (hij.trans (hsame j).symm)
    have hkept := hm.records hd' id r' hr'
    have hid' : (h.session r').id = id := (hs.keyed .main id r' hr').1
    rw [hjournal, replay_concat, get?_replay_messageTypes]
    show _ = some ((h.setSession r s).session r').toRecord
    rw [session_setSession]
    by_cases hid : id = (h.session r).id
    · -- No other session carries the id, so this is the one that is stored.
      have heq : r' = r := hd' r' (hs.lt_length .main hr') r hlt (hid'.trans hid)
      rw [if_pos hid, if_pos ⟨heq, hlt⟩, ← hid, hkept, heq, horigin.toRecord]
      rfl
    · have hne : r' ≠ r := fun heq => hid (heq ▸ hid'.symm)
      rw [if_neg hid, if_neg fun h => hne h.1]
      exact hkept

/-- A session listens to more. -/
theorem Mirrors.subscribed (hs : Sound h) (ha : h.auth.isSome = true) (hm : Mirrors h)
    (r : SessionRef) (types : List String) : Mirrors (h.subscribe r types) := by
  by_cases hempty : (h.session r).isEmpty = true
  · have hdistinct := DistinctIds.of_move hs (.subscribed (h := h) r types)
    rw [subscribe_of_isEmpty hempty] at *
    refine hm.of_same rfl hm.consistent rfl hdistinct fun id r' _ => ?_
    rw [session_setSession]
    by_cases hr : r' = r ∧ r < h.sessions.length
    · rw [if_pos hr, hr.1]
    · rw [if_neg hr]
  · have hr : (h.session r).isEmpty = false := by simpa using hempty
    rw [subscribe_of_not_isEmpty hs ha hr]
    exact hm.told_types hs ha (Session.subscribe_keeps types) hr

/-- **A move keeps the journal in step with the main store.** -/
theorem Mirrors.move (hs : Sound h) (m : Move h h') (ha : h.auth.isSome = true)
    (hm : Mirrors h) : Mirrors h' := by
  have hdistinct := DistinctIds.of_move hs m
  cases m with
  | elsewhere hsessions hmain _ hjournal _ =>
    refine hm.of_same hmain (hjournal ▸ hm.consistent) (by rw [hjournal]) hdistinct ?_
    intro id r _
    rw [session_of_sessions hsessions]
  | asked login =>
    exact hm.notify_passing ha (fun _ => rfl) (fun record hn => nomatch hn) fun id hn => nomatch hn
  | reported report =>
    exact hm.notify_passing ha (fun _ => rfl) (fun record hn => nomatch hn) fun id hn => nomatch hn
  | opened s _ _ =>
    refine hm.of_same rfl hm.consistent rfl hdistinct fun id r hr => ?_
    have hlt := hs.lt_length .main hr
    rw [session_addSession, if_neg (Nat.ne_of_lt hlt)]
  | used r u hu =>
    refine hm.of_same rfl hm.consistent rfl hdistinct fun id r' _ => ?_
    rw [session_setSession]
    by_cases hr : r' = r ∧ r < h.sessions.length
    · rw [if_pos hr, hr.1, Session.toRecord_after (hs.readOnly r) hu]
    · rw [if_neg hr]
  | subscribed r types => exact hm.subscribed hs ha r types
  | stored name key r hid _ hfree =>
    cases name with
    | main =>
      rw [notifyFrom_setStore_main ha]
      exact hm.stored ha hid hfree
    | bare => exact hm.of_same rfl hm.consistent rfl hdistinct fun _ _ _ => rfl
  | taken name key r hthere =>
    cases name with
    | main =>
      rw [notifyFrom_setStore_main ha]
      exact hm.taken hs ha hthere
    | bare => exact hm.of_same rfl hm.consistent rfl hdistinct fun _ _ _ => rfl
  | cleared name =>
    cases name with
    | main =>
      unfold clear
      rw [notifyFrom_setStore_main ha]
      exact hm.cleared ha
    | bare => exact hm.of_same rfl hm.consistent rfl hdistinct fun _ _ _ => rfl

/-! ### Runs -/

/-- **After every run the journal says what the main store holds.** -/
theorem journal_mirrors_store (settings : SessionSettings) (now : Instant)
    (address : AddressSource) (reviews : Bool) (events : List Event) :
    Mirrors ((fresh settings now address (some (.fresh reviews))).run events) := by
  have hstart : Mirrors (fresh settings now address (some (.fresh reviews))) :=
    ⟨consistent_nil, fun _ => rfl, fun _ _ _ hr => nomatch hr⟩
  have hrun := run_preserves (P := fun h => h.auth.isSome = true ∧ Mirrors h)
    (sound_fresh settings now address _) ⟨rfl, hstart⟩
    (fun hs m hp => ⟨by rw [m.auth_isSome]; exact hp.1, hp.2.move hs m hp.1⟩) events
  exact hrun.2.2

/-- What a session listens to before, while and after it is stored is in its record once it is
stored again. -/
theorem journal_of_listener :
    let h := (fresh .default .first (.fixed "") (some (.fresh true))).run
      [.restore ⟨⟨7⟩, 1, "ada", "", none, ["VIEW"], "", ["a"], ""⟩, .use 1 (.subscribe ["d"]),
       .upkeep .main (.add 1), .circumstance (.failing true), .use 1 (.subscribe ["c"]),
       .upkeep .main (.remove ⟨7⟩), .use 1 (.subscribe ["b"]), .upkeep .main (.getOrAdd ⟨7⟩ 1)]
    DistinctIds h ∧ h.main.get? ⟨7⟩ = some 1 ∧
    (replay h.journal).get? ⟨7⟩ =
      some ⟨⟨7⟩, 1, "ada", "", none, ["VIEW"], "", ["a", "b", "c", "d"], ""⟩ := by
  intro h
  have hdistinct : DistinctIds h := by
    unfold DistinctIds
    decide +kernel
  have hstored : h.main.get? ⟨7⟩ = some 1 := by decide +kernel
  refine ⟨hdistinct, hstored, ?_⟩
  rw [(journal_mirrors_store .default .first (.fixed "") true _).records hdistinct ⟨7⟩ 1 hstored]
  decide +kernel

end House

end Gatehouse
