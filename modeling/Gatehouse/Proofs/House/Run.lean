/-
Runs of a house.

A run is a list of events, each of them one thing that can be asked of the house:
something around the sessions changes, a session is made or brought back, a session
is used, or a store is kept.  An event may be refused or fail halfway; it leaves the
house as far as it got.

What an event does to sessions, stores and journal is a sequence of moves of nine
kinds (`Move`, `moves_after`).  An invariant of runs is shown move by move, with one
case for each thing that can happen, and no operation is opened a second time.
-/
import Gatehouse.House.Sessions
import Gatehouse.House.Stores
import Gatehouse.Proofs.Session.Use
import Mathlib.Logic.Relation

namespace Gatehouse

/-! ### Events -/

/-- Something around the sessions that changes: the time, the address of callers, how the auth module
behaves, the program as a client, or a registry. -/
inductive Circumstance where
  | clock (time : Instant)
  | advance (amount : Int)
  | address (address : String)
  | veto (reason : Option String)
  | approvalError (cause : Option ServiceError)
  | failing (failing : Bool)
  | login (permissions : PermissionSet) (id : SessionId)
  | logout
  | registry (name : String) (next : Registry)

/-- Something that is asked of a store.  An eviction takes out what has ended before a time. -/
inductive Upkeep where
  | getOrAdd (key : SessionId) (r : SessionRef)
  | add (r : SessionRef)
  | remove (key : SessionId)
  | clear
  | evict (time : Instant)

/-- Something that happens to a house: a change around the sessions, a session that is asked for or
brought back, the use of a session, or the upkeep of a store. -/
inductive Event where
  | circumstance (c : Circumstance)
  | create (draw : Draw) (request : LoginRequest)
  | restore (record : SessionRecord)
  | use (r : SessionRef) (u : Session.Use)
  | upkeep (name : StoreName) (u : Upkeep)

namespace House

/-- The house after something around the sessions changed.  A clock that would leave its range stays
as it is. -/
def turn (h : House) : Circumstance → House
  | .clock time => h.setClock time
  | .advance amount =>
    match h.advance amount with
    | .ok h' => h'
    | .error _ => h
  | .address address => { h with address := h.address.set address }
  | .veto reason => h.changeAuth fun m => { m with veto := reason }
  | .approvalError cause => h.changeAuth fun m => { m with approvalError := cause }
  | .failing failing => h.changeAuth fun m => { m with failing := failing }
  | .login permissions id => { h with client := h.client.login permissions id }
  | .logout => { h with client := h.client.logout }
  | .registry name next => h.setRegistry name next

/-- The house after a session was used. -/
def use (h : House) (r : SessionRef) : Session.Use → House
  | .refresh => (h.refresh r).1
  | .markWarned time => h.markWarned r time
  | .countTraffic incoming outgoing => (h.countTraffic r incoming outgoing).1
  | .subscribe types => h.subscribe r types
  | .changeData change => h.changeData r (·.apply change)
  | .changePermissions change => h.changePermissions r (·.apply change)

/-- The house after a store was kept. -/
def keep (h : House) (name : StoreName) : Upkeep → House
  | .getOrAdd key r => (h.getOrAdd name key r).1
  | .add r => (h.add name r).1
  | .remove key => (h.remove name key).1
  | .clear => h.clear name
  | .evict time => (h.evict name time).1

/-- The house after an event. -/
def after (h : House) : Event → House
  | .circumstance c => h.turn c
  | .create draw request => (h.create draw request).1
  | .restore record => (h.restore record).1
  | .use r u => h.use r u
  | .upkeep name u => h.keep name u

/-- The house after a run. -/
def run (h : House) (events : List Event) : House := events.foldl after h

/-! ### Sessions, stores and journal -/

theorem session_of_length_le {h : House} {r : SessionRef} (hr : h.sessions.length ≤ r) :
    h.session r = .empty := by
  unfold session
  rw [List.getD_eq_getElem?_getD, List.getElem?_eq_none hr]
  rfl

/-- Only sessions that were made are other than the Empty session. -/
theorem lt_of_not_isEmpty {h : House} {r : SessionRef} (hr : (h.session r).isEmpty = false) :
    r < h.sessions.length := by
  rcases Nat.lt_or_ge r h.sessions.length with hlt | hge
  · exact hlt
  · rw [session_of_length_le hge] at hr
    cases hr

theorem session_setSession {h : House} {r r' : SessionRef} {s : Session} :
    (h.setSession r s).session r' =
      if r' = r ∧ r < h.sessions.length then s else h.session r' := by
  unfold setSession session
  rw [List.getD_eq_getElem?_getD, List.getD_eq_getElem?_getD, List.getElem?_set]
  by_cases heq : r = r'
  · subst heq
    by_cases hr : r < h.sessions.length
    · simp [hr]
    · simp [hr]
  · simp [heq, Ne.symm heq]

theorem session_setSession_self {h : House} {r : SessionRef} (hr : r < h.sessions.length)
    (s : Session) : (h.setSession r s).session r = s := by
  rw [session_setSession, if_pos ⟨rfl, hr⟩]

theorem session_addSession {h : House} {s : Session} {r : SessionRef} :
    (h.addSession s).1.session r = if r = h.sessions.length then s else h.session r := by
  unfold addSession session
  rw [List.getD_eq_getElem?_getD, List.getD_eq_getElem?_getD]
  rcases Nat.lt_trichotomy r h.sessions.length with hlt | heq | hgt
  · rw [List.getElem?_append_left hlt, if_neg (Nat.ne_of_lt hlt)]
  · subst heq
    simp
  · rw [if_neg (Nat.ne_of_gt hgt), List.getElem?_eq_none (Nat.le_of_lt hgt),
      List.getElem?_eq_none (by rw [List.length_append]; exact hgt)]

/-- What is told is added to the journal. -/
theorem journal_notify {h : House} (ha : h.auth.isSome = true) (n : Notice) :
    (h.notify n).journal = h.journal ++ [n] := by
  obtain ⟨m, hm⟩ := Option.isSome_iff_exists.1 ha
  simp [notify, journal, hm, AuthModule.deliver]

@[simp] theorem auth_notify (h : House) (n : Notice) :
    (h.notify n).auth.isSome = h.auth.isSome := by
  simp [notify]

@[simp] theorem store_notify (h : House) (n : Notice) (name : StoreName) :
    (h.notify n).store name = h.store name := by
  cases name <;> rfl

@[simp] theorem session_setStore (h : House) (name : StoreName) (store : Store) (r : SessionRef) :
    (h.setStore name store).session r = h.session r := by
  cases name <;> rfl

theorem sessions_setStore (h : House) (name : StoreName) (store : Store) :
    (h.setStore name store).sessions = h.sessions := by
  cases name <;> rfl

theorem sessions_notifyFrom (h : House) (name : StoreName) (n : Notice) :
    (h.notifyFrom name n).sessions = h.sessions := by
  unfold notifyFrom
  split <;> rfl

@[simp] theorem auth_setStore (h : House) (name : StoreName) (store : Store) :
    (h.setStore name store).auth = h.auth := by
  cases name <;> rfl

@[simp] theorem auth_notifyFrom (h : House) (name : StoreName) (n : Notice) :
    (h.notifyFrom name n).auth.isSome = h.auth.isSome := by
  unfold notifyFrom
  split
  · exact auth_notify h n
  · rfl

theorem store_setStore (h : House) (name other : StoreName) (store : Store) :
    (h.setStore name store).store other = if other = name then store else h.store other := by
  cases name <;> cases other <;> rfl

@[simp] theorem store_notifyFrom (h : House) (name other : StoreName) (n : Notice) :
    (h.notifyFrom name n).store other = h.store other := by
  unfold notifyFrom
  split
  · exact store_notify h n other
  · rfl

/-- What changes the main store is told, if there is an auth module. -/
theorem notifyFrom_setStore_main {h : House} (ha : h.auth.isSome = true) (store : Store)
    (n : Notice) :
    (h.setStore .main store).notifyFrom .main n = (h.setStore .main store).notify n := by
  have haudited : (h.setStore .main store).isAudited .main = true := ha
  unfold notifyFrom
  rw [if_pos haudited]

/-! ### Around the sessions -/

/-- What is around the sessions is the same, apart from the auth module: the settings, the time, the
address of callers, the program as a client, the registries, and the generator of ids. -/
structure SameAround (h h' : House) : Prop where
  settings : h'.settings = h.settings
  now : h'.now = h.now
  address : h'.address = h.address
  client : h'.client = h.client
  registries : h'.registries = h.registries
  ids : h'.ids = h.ids

namespace SameAround

variable {h h' h'' : House}

theorem refl (h : House) : SameAround h h := ⟨rfl, rfl, rfl, rfl, rfl, rfl⟩

theorem trans (hfirst : SameAround h h') (hthen : SameAround h' h'') : SameAround h h'' where
  settings := hthen.settings.trans hfirst.settings
  now := hthen.now.trans hfirst.now
  address := hthen.address.trans hfirst.address
  client := hthen.client.trans hfirst.client
  registries := hthen.registries.trans hfirst.registries
  ids := hthen.ids.trans hfirst.ids

end SameAround

theorem sameAround_notify (h : House) (n : Notice) : SameAround h (h.notify n) :=
  ⟨rfl, rfl, rfl, rfl, rfl, rfl⟩

/-- A change of a store, told or not, changes nothing around the sessions. -/
theorem sameAround_restocked (h : House) (name : StoreName) (store : Store) (n : Notice) :
    SameAround h ((h.setStore name store).notifyFrom name n) := by
  unfold notifyFrom
  cases name <;> split <;> exact ⟨rfl, rfl, rfl, rfl, rfl, rfl⟩

theorem sameAround_review (h : House) (login : String) : SameAround h (h.review login).1 := by
  unfold review
  split <;> exact ⟨rfl, rfl, rfl, rfl, rfl, rfl⟩

theorem sameAround_use (h : House) (r : SessionRef) (u : Session.Use) :
    SameAround h (h.use r u) := by
  have hset : ∀ s, SameAround h (h.setSession r s) := fun s => ⟨rfl, rfl, rfl, rfl, rfl, rfl⟩
  cases u with
  | countTraffic incoming outgoing =>
    simp only [use, countTraffic]
    split
    · exact hset _
    · exact hset _
    · dsimp only
      split
      · exact (hset _).trans (sameAround_notify _ _)
      · exact hset _
  | subscribe types =>
    simp only [use, subscribe]
    split
    · exact (hset _).trans (sameAround_notify _ _)
    · exact hset _
  | _ => exact hset _

theorem sameAround_getOrAdd (h : House) (name : StoreName) (key : SessionId) (r : SessionRef) :
    SameAround h (h.getOrAdd name key r).1 := by
  unfold getOrAdd
  split
  · exact .refl h
  · split
    · exact .refl h
    · exact sameAround_restocked ..

theorem sameAround_evictOne (h : House) (name : StoreName) (time : Instant) (r : SessionRef) :
    SameAround h (h.evictOne name time r).1 := by
  unfold evictOne
  dsimp only
  split
  · exact .refl h
  · split
    · exact sameAround_restocked ..
    · exact .refl h

theorem sameAround_evictAll (h : House) (name : StoreName) (time : Instant)
    (rs : List SessionRef) : SameAround h (h.evictAll name time rs).1 := by
  induction rs generalizing h with
  | nil => exact .refl h
  | cons r rs ih => exact (sameAround_evictOne h name time r).trans (ih _)

theorem sameAround_keep (h : House) (name : StoreName) (u : Upkeep) :
    SameAround h (h.keep name u) := by
  cases u with
  | getOrAdd key r => exact sameAround_getOrAdd h name key r
  | add r => exact sameAround_getOrAdd h name _ r
  | remove key =>
    simp only [keep, remove]
    split
    · exact .refl h
    · exact sameAround_restocked ..
  | clear => exact sameAround_restocked ..
  | evict time => exact sameAround_evictAll h name time _

/-! ### Making sessions -/

/-- A review changes neither the sessions nor what they are made with. -/
theorem review_keeps (h : House) (login : String) :
    (h.review login).1.sessions = h.sessions ∧ (h.review login).1.services = h.services := by
  unfold review
  cases hauth : h.auth with
  | none => exact ⟨rfl, rfl⟩
  | some m =>
    refine ⟨rfl, ?_⟩
    show Services.mk h.settings true = ⟨h.settings, h.auth.isSome⟩
    rw [hauth]
    rfl

/-- What comes of asking for a session: it is refused as the review says, and then there was nothing but
the review; or it is approved, and then there is one id less, and with it a new session at the end if
its times stay in range. -/
theorem create_outcomes (h : House) (draw : Draw) (request : LoginRequest) :
    (∃ e, (h.review request.login).2 = .error e ∧ h.create draw request =
      ((h.review request.login).1, .error (.refused (AuthModule.asVeto e)))) ∨
    (h.review request.login).2 = .ok () ∧
      ((∃ s, Session.make (h.ids.mint draw).1 request h.services h.now h.address.resolve = .ok s ∧
        h.create draw request =
          ({ (h.review request.login).1 with
              ids := (h.ids.mint draw).2, sessions := h.sessions ++ [s] },
            .ok h.sessions.length)) ∨
      h.create draw request =
        ({ (h.review request.login).1 with ids := (h.ids.mint draw).2 }, .error .overflow)) := by
  obtain ⟨hsessions, hservices⟩ := review_keeps h request.login
  have haround := sameAround_review h request.login
  unfold create
  split
  · rename_i h' e heq
    rw [heq]
    exact .inl ⟨e, rfl, rfl⟩
  · rename_i h' heq
    rw [heq] at haround hsessions hservices
    rw [heq, ← haround.ids, ← haround.now, ← haround.address, ← hsessions, ← hservices]
    dsimp only
    refine .inr ⟨rfl, ?_⟩
    split
    · exact .inr rfl
    · rename_i s hmade
      exact .inl ⟨s, hmade, rfl⟩

/-- Asking for a session changes the ids and the sessions, and what a review changes. -/
theorem create_house (h : House) (draw : Draw) (request : LoginRequest) :
    ∃ ids sessions, (h.create draw request).1 =
      { (h.review request.login).1 with ids := ids, sessions := sessions } := by
  rcases create_outcomes h draw request with ⟨e, -, heq⟩ | ⟨-, ⟨s, -, heq⟩ | heq⟩
  all_goals
    rw [heq]
    exact ⟨_, _, rfl⟩

/-- Bringing a session back changes the sessions alone. -/
theorem restore_house (h : House) (record : SessionRecord) :
    ∃ sessions, (h.restore record).1 = { h with sessions := sessions } := by
  unfold restore
  split
  · exact ⟨_, rfl⟩
  · split <;> exact ⟨_, rfl⟩

theorem sameAround_restore (h : House) (record : SessionRecord) :
    SameAround h (h.restore record).1 := by
  obtain ⟨sessions, heq⟩ := restore_house h record
  rw [heq]
  exact ⟨rfl, rfl, rfl, rfl, rfl, rfl⟩

/-! ### Moves -/

/-- One thing that happens to the sessions, the stores or the journal. -/
inductive Move : House → House → Prop where
  /-- Something else changes. -/
  | elsewhere {h h' : House} (hsessions : h'.sessions = h.sessions) (hmain : h'.main = h.main)
    (hbare : h'.bare = h.bare) (hjournal : h'.journal = h.journal)
    (hauth : h'.auth.isSome = h.auth.isSome) : Move h h'
  /-- The auth module is asked for approval. -/
  | asked {h : House} (login : String) : Move h (h.notify (.approve login))
  /-- The auth module is told about traffic. -/
  | reported {h : House} (report : TrafficReport) : Move h (h.notify (.traffic report))
  /-- There is a new session. -/
  | opened {h : House} (s : Session) (hservices : s.services = some h.services)
    (hpermissions : s.permissions.readOnly = true) : Move h (h.addSession s).1
  /-- A session is used, other than by a subscription. -/
  | used {h : House} (r : SessionRef) (u : Session.Use) (hu : ∀ types, u ≠ .subscribe types) :
    Move h (h.setSession r ((h.session r).after h.now h.address.resolve u))
  /-- A session listens to more. -/
  | subscribed {h : House} (r : SessionRef) (types : List String) : Move h (h.subscribe r types)
  /-- A session comes into a store. -/
  | stored {h : House} (name : StoreName) (key : SessionId) (r : SessionRef)
    (hid : (h.session r).id = key) (hkey : key.isEmpty = false)
    (hfree : (h.store name).get? key = none) :
    Move h ((h.setStore name ((h.store name).insert key r)).notifyFrom name
      (.persist (h.session r).toRecord))
  /-- A session goes out of a store. -/
  | taken {h : House} (name : StoreName) (key : SessionId) (r : SessionRef)
    (hthere : (h.store name).get? key = some r) :
    Move h ((h.setStore name ((h.store name).erase key)).notifyFrom name
      (.remove (h.session r).id))
  /-- A store is emptied. -/
  | cleared {h : House} (name : StoreName) : Move h (h.clear name)

/-- Moves, one after another. -/
abbrev Moves : House → House → Prop := Relation.ReflTransGen Move

theorem Move.of_circumstance {h h' : House} (hsessions : h'.sessions = h.sessions)
    (hmain : h'.main = h.main) (hbare : h'.bare = h.bare) (hauth : h'.auth = h.auth) : Move h h' :=
  .elsewhere hsessions hmain hbare (by unfold journal; rw [hauth]) (by rw [hauth])

/-- A module that is changed in its behaviour alone has the same journal. -/
theorem Move.of_behaviour {h : House} {change : AuthModule → AuthModule}
    (hchange : ∀ m, (change m).journal = m.journal) : Move h (h.changeAuth change) := by
  refine .elsewhere rfl rfl rfl ?_ ?_
  · unfold changeAuth journal
    cases h.auth with
    | none => rfl
    | some m => exact hchange m
  · simp [changeAuth]

theorem moves_turn (h : House) (c : Circumstance) : Moves h (h.turn c) := by
  refine .single ?_
  cases c with
  | clock time => exact .of_circumstance rfl rfl rfl rfl
  | advance amount =>
    simp only [turn, advance]
    cases h.now.add? amount with
    | none => exact .of_circumstance rfl rfl rfl rfl
    | some time => exact .of_circumstance rfl rfl rfl rfl
  | address address => exact .of_circumstance rfl rfl rfl rfl
  | veto reason => exact .of_behaviour fun _ => rfl
  | approvalError cause => exact .of_behaviour fun _ => rfl
  | failing failing => exact .of_behaviour fun _ => rfl
  | login permissions id => exact .of_circumstance rfl rfl rfl rfl
  | logout => exact .of_circumstance rfl rfl rfl rfl
  | registry name next => exact .of_circumstance rfl rfl rfl rfl

/-- A review asks at most for approval. -/
theorem moves_review (h : House) (login : String) : Moves h (h.review login).1 := by
  unfold review
  cases hauth : h.auth with
  | none => exact .refl
  | some m =>
    refine .single ?_
    show Move h { h with auth := some (m.review login).1 }
    by_cases hreviews : m.reviews = true
    · have hasked : ({ h with auth := some (m.review login).1 } : House) =
          h.notify (.approve login) := by
        simp [notify, hauth, AuthModule.review, AuthModule.deliver, hreviews]
      rw [hasked]
      exact .asked login
    · have hsame : (m.review login).1 = m := by simp [AuthModule.review, hreviews]
      rw [hsame, ← hauth]
      exact .of_circumstance rfl rfl rfl rfl

theorem moves_create (h : House) (draw : Draw) (request : LoginRequest) :
    Moves h (h.create draw request).1 := by
  have hreview := moves_review h request.login
  have hminted : Move (h.review request.login).1
      { (h.review request.login).1 with ids := (h.ids.mint draw).2 } :=
    .of_circumstance rfl rfl rfl rfl
  obtain ⟨hsessions, hservices⟩ := review_keeps h request.login
  rcases create_outcomes h draw request with ⟨e, -, heq⟩ | ⟨-, ⟨s, hmade, heq⟩ | heq⟩
  · rw [heq]
    exact hreview
  · obtain ⟨-, hserved, hpermissions⟩ := Session.make_ok hmade
    rw [heq, ← hsessions]
    exact (hreview.tail hminted).tail
      (.opened s (hserved.trans (congrArg some hservices.symm)) (by rw [hpermissions]; rfl))
  · rw [heq]
    exact hreview.tail hminted

theorem moves_restore (h : House) (record : SessionRecord) : Moves h (h.restore record).1 := by
  unfold restore
  by_cases hempty : record.sessionId.isEmpty = true
  · rw [if_pos hempty]
  · rw [if_neg hempty]
    split
    · exact .refl
    · rename_i s hmade
      obtain ⟨-, hservices, hpermissions⟩ := Session.ofRecord_ok hmade
      exact .single (.opened s hservices (by rw [hpermissions]; rfl))

/-- Counting traffic uses the session, and then reports if a report is due. -/
theorem moves_countTraffic (h : House) (r : SessionRef) (incoming outgoing : Option UInt64) :
    Moves h (h.countTraffic r incoming outgoing).1 := by
  have hused : Move h (h.setSession r
      ((h.session r).countTraffic h.now incoming outgoing).1) :=
    .used r (.countTraffic incoming outgoing) fun types hu => nomatch hu
  unfold countTraffic
  split
  · rename_i s e heq
    rw [heq] at hused
    exact .single hused
  · rename_i s heq
    rw [heq] at hused
    exact .single hused
  · rename_i s report heq
    rw [heq] at hused
    by_cases haudited : s.audited = true
    · simp only [haudited, if_true]
      exact (Relation.ReflTransGen.single hused).tail (.reported report)
    · simp only [haudited]
      exact .single hused

theorem moves_use (h : House) (r : SessionRef) (u : Session.Use) : Moves h (h.use r u) := by
  cases u with
  | refresh => exact .single (.used r .refresh fun types hu => nomatch hu)
  | markWarned time => exact .single (.used r (.markWarned time) fun types hu => nomatch hu)
  | countTraffic incoming outgoing => exact moves_countTraffic h r incoming outgoing
  | subscribe types => exact .single (.subscribed r types)
  | changeData change => exact .single (.used r (.changeData change) fun types hu => nomatch hu)
  | changePermissions change =>
    exact .single (.used r (.changePermissions change) fun types hu => nomatch hu)

theorem moves_getOrAdd (h : House) (name : StoreName) (key : SessionId) (r : SessionRef) :
    Moves h (h.getOrAdd name key r).1 := by
  unfold getOrAdd
  cases hrefusal : Store.refusal key (h.session r) with
  | some e => exact .refl
  | none =>
    dsimp only
    cases hthere : (h.store name).get? key with
    | some there => exact .refl
    | none =>
      -- What is not refused has its id for a key, and is not the Empty session.
      unfold Store.refusal at hrefusal
      by_cases hid : (h.session r).id = key
      · by_cases hkey : key.isEmpty = true
        · simp [hid, hkey] at hrefusal
        · have hmove := Move.stored name key r hid (by simpa using hkey) hthere
          dsimp only
          rw [session_setStore]
          exact .single hmove
      · simp [hid] at hrefusal

theorem moves_remove (h : House) (name : StoreName) (key : SessionId) :
    Moves h (h.remove name key).1 := by
  unfold remove
  cases hthere : (h.store name).get? key with
  | none => exact .refl
  | some r =>
    dsimp only
    rw [session_setStore]
    exact .single (.taken name key r hthere)

theorem moves_evictOne (h : House) (name : StoreName) (time : Instant) (r : SessionRef) :
    Moves h (h.evictOne name time r).1 := by
  unfold evictOne
  dsimp only
  cases hthere : (h.store name).get? (h.session r).id with
  | none => exact .refl
  | some there =>
    dsimp only
    by_cases hended : (h.session there).isExpired time = true
    · rw [if_pos hended]
      dsimp only
      rw [session_setStore]
      exact .single (.taken name _ there hthere)
    · rw [if_neg hended]

theorem moves_evictAll (h : House) (name : StoreName) (time : Instant) (rs : List SessionRef) :
    Moves h (h.evictAll name time rs).1 := by
  induction rs generalizing h with
  | nil => exact .refl
  | cons r rs ih => exact (moves_evictOne h name time r).trans (ih _)

theorem moves_keep (h : House) (name : StoreName) (u : Upkeep) : Moves h (h.keep name u) := by
  cases u with
  | getOrAdd key r => exact moves_getOrAdd h name key r
  | add r => exact moves_getOrAdd h name _ r
  | remove key => exact moves_remove h name key
  | clear => exact .single (.cleared name)
  | evict time => exact moves_evictAll h name time _

/-- **An event is a sequence of moves.** -/
theorem moves_after (h : House) (e : Event) : Moves h (h.after e) := by
  cases e with
  | circumstance c => exact moves_turn h c
  | create draw request => exact moves_create h draw request
  | restore record => exact moves_restore h record
  | use r u => exact moves_use h r u
  | upkeep name u => exact moves_keep h name u

theorem moves_run (h : House) (events : List Event) : Moves h (h.run events) := by
  induction events generalizing h with
  | nil => exact .refl
  | cons e es ih => exact (moves_after h e).trans (ih (h.after e))

end House

end Gatehouse
