/-
The lives of the sessions of a house, written down.

A session does not remember when it was used, and the clock may have gone back since.
The chronicle of a run does: it notes for each session when it was made, how long it
was to last under the settings of that time, and every moment of use.  It is kept
beside the house and looks only at what is asked of the house and at the clock.

After every run in which no end leaves its range, each session has the times of the life
that is written down for it (`Told`).  Of all that can be asked only two things bear on
this: a session that is made begins a life, and a refresh lengthens one.  What else
happens leaves a session as it was made and leaves its activity alone (`session_step`).
-/
import Gatehouse.Proofs.House.Invariant
import Gatehouse.Proofs.Session.Lifetime

namespace Gatehouse.House

/-! ### Steps -/

/-- A step of a run in which sessions need not all be made under the same settings. -/
inductive Step where
  /-- Something happens. -/
  | event (e : Event)
  /-- Sessions are made under other settings from now on. -/
  | settings (next : SessionSettings)

/-- The session that a step refreshes. -/
def Step.refreshed : Step → Option SessionRef
  | .event (.use r .refresh) => some r
  | _ => none

/-- The house after a step. -/
def step (h : House) : Step → House
  | .event e => h.after e
  | .settings next => { h with settings := next }

/-- The house after some steps. -/
def stepAll (h : House) (steps : List Step) : House := steps.foldl step h

/-- The session that a step makes. -/
def made (h : House) : Step → Option SessionRef
  | .event (.create draw request) => (h.create draw request).2.toOption
  | .event (.restore record) => (h.restore record).2.toOption
  | _ => none

/-- Whether a step, if it refreshes a session, can represent its new end. -/
def staysInRange (h : House) (st : Step) : Bool :=
  match st.refreshed with
  | some r => (h.refresh r).2.isOk
  | none => true

/-- Whether all steps can represent the ends that they set. -/
def inRange (h : House) : List Step → Bool
  | [] => true
  | st :: rest => h.staysInRange st && (h.step st).inRange rest

/-! ### Chronicles -/

/-- The lives written down so far. -/
abbrev Chronicle := SessionRef → Option Life

/-- What is written down after a step. -/
def record (h : House) (lives : Chronicle) (st : Step) : Chronicle := fun r =>
  if h.made st = some r then some ⟨h.now, h.settings.ttlMinutes.toNat, []⟩
  else if st.refreshed = some r then (lives r).map (·.usedAt h.now)
  else lives r

/-- What is written down after some steps. -/
def recordAll (h : House) (lives : Chronicle) : List Step → Chronicle
  | [] => lives
  | st :: rest => (h.step st).recordAll (h.record lives st) rest

/-- What is written down of a run from its start. -/
def chronicle (h : House) (steps : List Step) : Chronicle := h.recordAll (fun _ => none) steps

variable {h : House}

theorem stepAll_append (h : House) (steps more : List Step) :
    h.stepAll (steps ++ more) = (h.stepAll steps).stepAll more :=
  List.foldl_append

theorem stepAll_concat (h : House) (steps : List Step) (st : Step) :
    h.stepAll (steps ++ [st]) = (h.stepAll steps).step st :=
  h.stepAll_append steps [st]

/-! ### What an event does to the sessions -/

theorem sessions_turn (h : House) (c : Circumstance) : (h.turn c).sessions = h.sessions := by
  cases c with
  | advance amount =>
    simp only [turn, advance]
    cases h.now.add? amount with
    | none => rfl
    | some time => rfl
  | _ => rfl

theorem sessions_use (h : House) (r : SessionRef) (u : Session.Use) :
    (h.use r u).sessions =
      h.sessions.set r ((h.session r).after h.now h.address.resolve u) := by
  cases u with
  | countTraffic incoming outgoing =>
    simp only [use, countTraffic, Session.after]
    cases (h.session r).countTraffic h.now incoming outgoing with
    | mk s outcome =>
      cases outcome with
      | error e => rfl
      | ok due =>
        cases due with
        | none => rfl
        | some report =>
          dsimp only
          split <;> rfl
  | subscribe types => exact sessions_subscribe h r types
  | _ => rfl

/-- A change of a store, told or not, is none of the sessions. -/
theorem sessions_restocked (h : House) (name : StoreName) (store : Store) (n : Notice) :
    ((h.setStore name store).notifyFrom name n).sessions = h.sessions := by
  rw [sessions_notifyFrom, sessions_setStore]

theorem sessions_getOrAdd (h : House) (name : StoreName) (key : SessionId) (r : SessionRef) :
    (h.getOrAdd name key r).1.sessions = h.sessions := by
  unfold getOrAdd
  split
  · rfl
  · split
    · rfl
    · exact sessions_restocked ..

theorem sessions_remove (h : House) (name : StoreName) (key : SessionId) :
    (h.remove name key).1.sessions = h.sessions := by
  unfold remove
  split
  · rfl
  · exact sessions_restocked ..

theorem sessions_evictOne (h : House) (name : StoreName) (time : Instant) (r : SessionRef) :
    (h.evictOne name time r).1.sessions = h.sessions := by
  unfold evictOne
  dsimp only
  split
  · rfl
  · split
    · exact sessions_restocked ..
    · rfl

theorem sessions_evictAll (h : House) (name : StoreName) (time : Instant)
    (rs : List SessionRef) : (h.evictAll name time rs).1.sessions = h.sessions := by
  induction rs generalizing h with
  | nil => rfl
  | cons r rs ih => exact (ih _).trans (sessions_evictOne h name time r)

theorem sessions_keep (h : House) (name : StoreName) (u : Upkeep) :
    (h.keep name u).sessions = h.sessions := by
  cases u with
  | getOrAdd key r => exact sessions_getOrAdd h name key r
  | add r => exact sessions_getOrAdd h name _ r
  | remove key => exact sessions_remove h name key
  | clear => exact sessions_restocked ..
  | evict time => exact sessions_evictAll h name time _

/-- Either there is a new session at the end, made of the request, or there is none. -/
theorem create_cases (h : House) (draw : Draw) (request : LoginRequest) :
    (∃ id s, id.isEmpty = false ∧
      Session.make id request h.services h.now h.address.resolve = .ok s ∧
      (h.create draw request).2 = .ok h.sessions.length ∧
      (h.create draw request).1.sessions = h.sessions ++ [s]) ∨
    (∃ e, (h.create draw request).2 = .error e) ∧
      (h.create draw request).1.sessions = h.sessions := by
  have hsessions := (review_keeps h request.login).1
  rcases create_outcomes h draw request with ⟨e, -, heq⟩ | ⟨-, ⟨s, hmade, heq⟩ | heq⟩
  · rw [heq]
    exact .inr ⟨⟨_, rfl⟩, hsessions⟩
  · rw [heq]
    exact .inl ⟨_, s, IdGenerator.mint_isEmpty _ _, hmade, rfl, rfl⟩
  · rw [heq]
    exact .inr ⟨⟨_, rfl⟩, hsessions⟩

theorem restore_cases (h : House) (record : SessionRecord) :
    (∃ s, record.sessionId.isEmpty = false ∧
      Session.ofRecord record h.services h.now = .ok s ∧
      (h.restore record).2 = .ok h.sessions.length ∧
      (h.restore record).1.sessions = h.sessions ++ [s]) ∨
    (∃ e, (h.restore record).2 = .error e) ∧ (h.restore record).1.sessions = h.sessions := by
  unfold restore
  by_cases hempty : record.sessionId.isEmpty = true
  · rw [if_pos hempty]
    exact .inr ⟨⟨_, rfl⟩, rfl⟩
  · rw [if_neg hempty]
    split
    · exact .inr ⟨⟨_, rfl⟩, rfl⟩
    · rename_i s hmade
      exact .inl ⟨s, by simpa using hempty, hmade, rfl, rfl⟩

/-! ### What a step does to the sessions -/

theorem Step.refreshed_eq_some_iff {st : Step} {r : SessionRef} :
    st.refreshed = some r ↔ st = .event (.use r .refresh) := by
  refine ⟨fun h => ?_, fun h => by rw [h]; rfl⟩
  unfold refreshed at h
  split at h
  · rw [Option.some.inj h]
  · cases h

/-- A step makes a session, which begins its life, or uses one, or leaves them all as they are. -/
theorem sessions_step (h : House) (st : Step) :
    (∃ s, h.made st = some h.sessions.length ∧ st.refreshed = none ∧
      s.Lives ⟨h.now, h.settings.ttlMinutes.toNat, []⟩ ∧
      (h.step st).sessions = h.sessions ++ [s]) ∨
    (∃ r u, st = .event (.use r u) ∧ (h.step st).sessions =
      h.sessions.set r ((h.session r).after h.now h.address.resolve u)) ∨
    h.made st = none ∧ st.refreshed = none ∧ (h.step st).sessions = h.sessions := by
  cases st with
  | settings next => exact .inr (.inr ⟨rfl, rfl, rfl⟩)
  | event e =>
    cases e with
    | circumstance c => exact .inr (.inr ⟨rfl, rfl, sessions_turn h c⟩)
    | create draw request =>
      rcases create_cases h draw request with ⟨id, s, -, hs, hok, hsessions⟩ | ⟨⟨e, he⟩, hsame⟩
      · exact .inl ⟨s, by rw [made, hok]; rfl, rfl, Session.make_lives hs, hsessions⟩
      · exact .inr (.inr ⟨by rw [made, he]; rfl, rfl, hsame⟩)
    | restore record =>
      rcases restore_cases h record with ⟨s, -, hs, hok, hsessions⟩ | ⟨⟨e, he⟩, hsame⟩
      · exact .inl ⟨s, by rw [made, hok]; rfl, rfl, Session.ofRecord_lives hs, hsessions⟩
      · exact .inr (.inr ⟨by rw [made, he]; rfl, rfl, hsame⟩)
    | use r u => exact .inr (.inl ⟨r, u, rfl, sessions_use h r u⟩)
    | upkeep name u => exact .inr (.inr ⟨rfl, rfl, sessions_keep h name u⟩)

/-- What a step makes comes at the end. -/
theorem eq_length_of_made {st : Step} {r : SessionRef} (hr : h.made st = some r) :
    r = h.sessions.length := by
  rcases sessions_step h st with ⟨s, hmade, -⟩ | ⟨r', u, rfl, -⟩ | ⟨hmade, -⟩
  · exact Option.some.inj (hr.symm.trans hmade)
  · cases hr
  · cases hmade.symm.trans hr

/-- A session that there was is what a use makes of it, or as it was. -/
theorem session_step_cases (h : House) (st : Step) {r : SessionRef}
    (hr : r < h.sessions.length) :
    (∃ u, st = .event (.use r u) ∧
      (h.step st).session r = (h.session r).after h.now h.address.resolve u) ∨
    (h.step st).session r = h.session r := by
  rcases sessions_step h st with ⟨s, -, -, -, hsessions⟩ | ⟨r', u, rfl, hsessions⟩ | ⟨-, -, hsame⟩
  · rw [session_of_sessions (h := (h.addSession s).1) hsessions, session_addSession,
      if_neg (Nat.ne_of_lt hr)]
    exact .inr rfl
  · rw [session_of_sessions (h := h.setSession r' _) hsessions]
    by_cases heq : r = r'
    · subst heq
      exact .inl ⟨u, rfl, session_setSession_self hr _⟩
    · rw [session_setSession, if_neg fun h => heq h.1]
      exact .inr rfl
  · exact .inr (session_of_sessions hsame r)

/-- A refreshed session is what the refresh makes of it. -/
theorem session_step_of_refreshed {st : Step} {r : SessionRef} (hst : st.refreshed = some r)
    (hr : r < h.sessions.length) :
    (h.step st).session r = ((h.session r).refresh h.now h.address.resolve).1 := by
  rw [Step.refreshed_eq_some_iff.1 hst]
  exact session_setSession_self hr _

/-- A session that a step does not refresh is as it was made, and its activity as it was. -/
theorem session_step (hs : Sound h) {st : Step} {r : SessionRef} (hr : r < h.sessions.length)
    (hst : st.refreshed ≠ some r) :
    Session.SameOrigin (h.session r) ((h.step st).session r) ∧
      ((h.step st).session r).activity = (h.session r).activity := by
  rcases session_step_cases h st hr with ⟨u, rfl, hsession⟩ | hsame
  · have hu : u ≠ .refresh := by
      rintro rfl
      exact hst rfl
    rw [hsession]
    exact ⟨Session.after_sameOrigin (hs.readOnly r) u, Session.activity_after hu⟩
  · rw [hsame]
    exact ⟨.refl _, rfl⟩

/-- What a step makes begins its life. -/
theorem session_step_of_made {st : Step} {r : SessionRef} (hr : h.made st = some r) :
    ((h.step st).session r).Lives ⟨h.now, h.settings.ttlMinutes.toNat, []⟩ := by
  rcases sessions_step h st with ⟨s, hmade, -, hlives, hsessions⟩ | ⟨r', u, rfl, -⟩ | ⟨hmade, -⟩
  · rw [session_of_sessions (h := (h.addSession s).1) hsessions, session_addSession,
      if_pos (eq_length_of_made hr)]
    exact hlives
  · cases hr
  · cases hmade.symm.trans hr

/-- What there is after a step was there before or was made by it. -/
theorem lt_length_or_made {st : Step} {r : SessionRef} (hr : r < (h.step st).sessions.length) :
    r < h.sessions.length ∨ h.made st = some r := by
  rcases sessions_step h st with ⟨s, hmade, -, -, hsessions⟩ | ⟨r', u, -, hsessions⟩ | ⟨-, -, hsame⟩
  · rw [hsessions, List.length_append, List.length_singleton] at hr
    rcases Nat.lt_succ_iff_lt_or_eq.1 hr with hlt | rfl
    · exact .inl hlt
    · exact .inr hmade
  · rw [hsessions, List.length_set] at hr
    exact .inl hr
  · rw [hsame] at hr
    exact .inl hr

theorem length_le_step (h : House) (st : Step) :
    h.sessions.length ≤ (h.step st).sessions.length := by
  rcases sessions_step h st with ⟨s, -, -, -, hsessions⟩ | ⟨r, u, -, hsessions⟩ | ⟨-, -, hsame⟩
  · rw [hsessions, List.length_append]
    exact Nat.le_add_right _ _
  · rw [hsessions, List.length_set]
  · rw [hsame]

theorem sameOrigin_step (hs : Sound h) (st : Step) {r : SessionRef}
    (hr : r < h.sessions.length) : Session.SameOrigin (h.session r) ((h.step st).session r) := by
  by_cases hst : st.refreshed = some r
  · rw [session_step_of_refreshed hst hr]
    exact Session.refresh_keeps.1
  · exact (session_step hs hr hst).1

theorem Sound.step (hs : Sound h) (st : Step) : Sound (h.step st) := by
  cases st with
  | event e => exact (run_preserves (P := fun _ => True) hs trivial (fun _ _ _ => trivial) [e]).1
  | settings next => exact hs.move (.elsewhere rfl rfl rfl rfl rfl)

theorem Sound.stepAll (hs : Sound h) (steps : List Step) : Sound (h.stepAll steps) := by
  induction steps generalizing h with
  | nil => exact hs
  | cons st rest ih => exact ih (hs.step st)

theorem sameOrigin_stepAll (hs : Sound h) (steps : List Step) {r : SessionRef}
    (hr : r < h.sessions.length) :
    Session.SameOrigin (h.session r) ((h.stepAll steps).session r) := by
  induction steps generalizing h with
  | nil => exact .refl _
  | cons st rest ih =>
    exact (sameOrigin_step hs st hr).trans
      (ih (hs.step st) (Nat.lt_of_lt_of_le hr (length_le_step h st)))

theorem length_le_stepAll (h : House) (steps : List Step) :
    h.sessions.length ≤ (h.stepAll steps).sessions.length := by
  induction steps generalizing h with
  | nil => exact Nat.le_refl _
  | cons st rest ih => exact Nat.le_trans (length_le_step h st) (ih _)

/-! ### The chronicle is true -/

/-- What is written down is true of the sessions of a house. -/
structure Told (h : House) (lives : Chronicle) : Prop extends Sound h where
  /-- There is the Empty session. -/
  nonempty : emptyRef < h.sessions.length
  /-- It comes first. -/
  first : (h.session emptyRef).isEmpty = true
  /-- A life is written down for every other session, and the session has its times. -/
  lives : ∀ r, r ≠ emptyRef → r < h.sessions.length →
    ∃ life, lives r = some life ∧ (h.session r).Lives life

theorem told_fresh (settings : SessionSettings) (now : Instant) (address : AddressSource)
    (auth : Option AuthModule) : Told (fresh settings now address auth) fun _ => none where
  toSound := sound_fresh settings now address auth
  nonempty := Nat.zero_lt_one
  first := rfl
  lives := fun _ hr hlt => absurd (Nat.lt_one_iff.1 hlt) hr

/-- A step that stays in range writes down what it does. -/
theorem Told.step {lives : Chronicle} (ht : Told h lives) {st : Step}
    (hst : h.staysInRange st = true) : Told (h.step st) (h.record lives st) := by
  have hfirst := sameOrigin_step ht.toSound st ht.nonempty
  refine ⟨ht.toSound.step st, Nat.lt_of_lt_of_le ht.nonempty (length_le_step h st),
    hfirst.isEmpty.trans ht.first, fun r hr hlt => ?_⟩
  unfold record
  by_cases hmade : h.made st = some r
  · rw [if_pos hmade]
    exact ⟨_, rfl, session_step_of_made hmade⟩
  · rw [if_neg hmade]
    have hbefore := (lt_length_or_made hlt).resolve_right hmade
    obtain ⟨life, hlife, hlives⟩ := ht.lives r hr hbefore
    rw [hlife]
    by_cases hrefreshed : st.refreshed = some r
    · have hok : (h.refresh r).2.isOk = true := by
        unfold staysInRange at hst
        rw [hrefreshed] at hst
        exact hst
      rw [if_pos hrefreshed, session_step_of_refreshed hrefreshed hbefore]
      exact ⟨_, rfl, hlives.refresh hok⟩
    · obtain ⟨horigin, hactivity⟩ := session_step ht.toSound hbefore hrefreshed
      rw [if_neg hrefreshed]
      exact ⟨life, rfl, hlives.of_sameOrigin horigin hactivity⟩

theorem Told.stepAll {lives : Chronicle} (ht : Told h lives) {steps : List Step}
    (hrange : h.inRange steps = true) : Told (h.stepAll steps) (h.recordAll lives steps) := by
  induction steps generalizing h lives with
  | nil => exact ht
  | cons st rest ih =>
    obtain ⟨hst, hrest⟩ := Bool.and_eq_true_iff.1 hrange
    exact ih (ht.step hst) hrest

theorem told_chronicle (settings : SessionSettings) (now : Instant) (address : AddressSource)
    (auth : Option AuthModule) {steps : List Step}
    (hrange : (fresh settings now address auth).inRange steps = true) :
    Told ((fresh settings now address auth).stepAll steps)
      ((fresh settings now address auth).chronicle steps) :=
  (told_fresh settings now address auth).stepAll hrange

/-! ### The end slides -/

/-- The end of a session goes along with the life that is written down for it. -/
structure Slides (h : House) (r : SessionRef) (life : Life) : Prop where
  /-- The session was made when the life began. -/
  created : (h.session r).createdTime = life.made
  /-- It was last used at one of the moments of the life... -/
  lastAccessed : (h.session r).lastAccessedTime ∈ life.moments
  /-- ... and none of them is later. -/
  greatest : ∀ t ∈ life.moments, t ≤ (h.session r).lastAccessedTime
  /-- What serves it says how long it lasts. -/
  services : ∃ services, (h.session r).services = some services ∧
    services.settings.ttlMinutes.toNat = life.lasting
  /-- It lasts so long after it was last used. -/
  expiration : (h.session r).lastAccessedTime.add? (minutes life.lasting) =
    some (h.session r).expirationTime
  /-- A refresh takes the address of the caller. -/
  address : ∀ st : Step, st.refreshed = some r → h.staysInRange st = true →
    ((h.step st).session r).lastAccessedIp = h.address.resolve
  /-- Outside leap seconds it moves the end forwards if the clock has passed the last use, and else
  leaves it. -/
  refreshed : ∀ st : Step, st.refreshed = some r → h.staysInRange st = true →
    ¬ h.now.InLeapSecond →
    (h.session r).expirationTime ≤ ((h.step st).session r).expirationTime ∧
    ((h.session r).expirationTime < ((h.step st).session r).expirationTime ↔
      (h.session r).lastAccessedTime < h.now)
  /-- With leap seconds it moves the end forwards if the clock has passed the last use in both ways of
  counting... -/
  forwards : ∀ st : Step, st.refreshed = some r → h.staysInRange st = true →
    ((h.session r).expirationTime < ((h.step st).session r).expirationTime ↔
      (h.session r).lastAccessedTime < h.now ∧
        (life.lasting ≠ 0 → (h.session r).lastAccessedTime.folded < h.now.folded))
  /-- ... and back if the last use overtakes the clock. -/
  back : ∀ st : Step, st.refreshed = some r → h.staysInRange st = true →
    (((h.step st).session r).expirationTime < (h.session r).expirationTime ↔
      life.lasting ≠ 0 ∧ (h.session r).lastAccessedTime.Overtakes h.now)
  /-- Nothing else moves the end or the last use, or changes the address. -/
  untouched : ∀ st : Step, st.refreshed ≠ some r →
    ((h.step st).session r).activity = (h.session r).activity

/-- **After every run that stays in range, with the clock going either way, the end of a session is
one lifetime after the latest of its making and all its uses.  A use moves it forwards or leaves it,
unless the clock is in a leap second that the last use overtakes.** -/
theorem expiration_slides (settings : SessionSettings) (now : Instant) (address : AddressSource)
    (auth : Option AuthModule) (steps : List Step)
    (hrange : (fresh settings now address auth).inRange steps = true) (r : SessionRef)
    (hr : r ≠ emptyRef)
    (hlt : r < ((fresh settings now address auth).stepAll steps).sessions.length) :
    ∃ life, (fresh settings now address auth).chronicle steps r = some life ∧
      Slides ((fresh settings now address auth).stepAll steps) r life := by
  have htold := told_chronicle settings now address auth hrange
  obtain ⟨life, hlife, hlives⟩ := htold.lives r hr hlt
  obtain ⟨hmem, hgreatest⟩ := life.latest_greatest
  have hok : ∀ st : Step, st.refreshed = some r →
      ((fresh settings now address auth).stepAll steps).staysInRange st = true →
      (((fresh settings now address auth).stepAll steps).refresh r).2.isOk = true := by
    intro st hst hstays
    unfold staysInRange at hstays
    rw [hst] at hstays
    exact hstays
  refine ⟨life, hlife, ?_⟩
  constructor
  case created => exact hlives.created
  case lastAccessed =>
    rw [hlives.lastAccessed]
    exact hmem
  case greatest =>
    rw [hlives.lastAccessed]
    exact hgreatest
  case services => exact hlives.services
  case expiration =>
    rw [hlives.lastAccessed]
    exact hlives.expiration
  case address =>
    intro st hst hstays
    rw [session_step_of_refreshed hst hlt]
    exact hlives.lastAccessedIp_refresh (hok st hst hstays)
  case refreshed =>
    intro st hst hstays hplain
    rw [session_step_of_refreshed hst hlt]
    exact hlives.refresh_slides (hok st hst hstays) hplain
  case forwards =>
    intro st hst hstays
    rw [session_step_of_refreshed hst hlt]
    exact hlives.lt_refresh_iff (hok st hst hstays)
  case back =>
    intro st hst hstays
    rw [session_step_of_refreshed hst hlt]
    exact hlives.refresh_lt_iff (hok st hst hstays)
  case untouched =>
    intro st hst
    exact (session_step htold.toSound hlt hst).2

/-- A session that is used ten minutes after the start, and again when the clock is back at five, ends
thirty minutes after the start; other settings do not matter to it any more. -/
theorem slides_with_the_clock_back :
    let start := fresh .default .epoch (.settable "here") none
    let steps : List Step :=
      [.event (.restore ⟨⟨7⟩, 1, "ada", "home", none, [], "", [], ""⟩),
       .event (.circumstance (.advance (minutes 10))), .event (.use 1 .refresh),
       .settings ⟨1, 0, 0⟩, .event (.circumstance (.address "there")),
       .event (.circumstance (.advance (minutes (-5)))), .event (.use 1 .refresh)]
    let h := start.stepAll steps
    (∃ life, start.chronicle steps 1 = some life ∧ Slides h 1 life) ∧
      (h.session 1).expirationTime = ⟨1800, 0, by decide, by decide, by decide⟩ ∧
      (h.session 1).lastAccessedIp = "there" := by
  intro start steps h
  have hrange : start.inRange steps = true := by decide +kernel
  have hlt : 1 < h.sessions.length := by decide +kernel
  have hend : (h.session 1).expirationTime = ⟨1800, 0, by decide, by decide, by decide⟩ ∧
      (h.session 1).lastAccessedIp = "there" := by decide +kernel
  exact ⟨expiration_slides .default .epoch (.settable "here") none steps hrange 1 (by decide) hlt,
    hend⟩

/-- A session of twenty minutes that is made three tenths of a second before midnight, and used in the
middle of the leap second before it.  The clock has advanced, and the end has gone back. -/
theorem ends_sooner_after_a_leap_second :
    let made : Instant := ⟨86399, 700000000, by decide, by decide, by decide⟩
    let used : Instant := ⟨86399, 1500000000, by decide, by decide, by decide⟩
    let start := fresh .default made (.settable "here") none
    let h := start.stepAll [.event (.restore ⟨⟨7⟩, 1, "ada", "home", none, [], "", [], ""⟩),
      .event (.circumstance (.clock used))]
    let refresh : Step := .event (.use 1 .refresh)
    let before := h.session 1
    let after := (h.step refresh).session 1
    h.staysInRange refresh = true ∧
      (before.lastAccessedTime = made ∧ after.lastAccessedTime = used ∧ made < used) ∧
      before.expirationTime = ⟨87599, 700000000, by decide, by decide, by decide⟩ ∧
      after.expirationTime = ⟨87599, 500000000, by decide, by decide, by decide⟩ ∧
      after.expirationTime < before.expirationTime := by
  decide +kernel

end Gatehouse.House
