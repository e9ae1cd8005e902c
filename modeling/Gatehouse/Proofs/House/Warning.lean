/-
Warnings in a run.

Whoever warns the users of sessions asks which are due a warning and notes for what time
each was warned.  A session that is warned when it is reported, within a window that is no
longer than its lifetime, is warned for a time that is not before its latest use, unless
that was in a leap second and the time is earlier in its second.  That silences it, and
nothing but a refresh can change it: as it is not reported, no further warning of it is
noted (`one_warning_per_refresh`).  A warning for an earlier report that is noted only
afterwards would change it, though.

The converse depends on the clock.  A refresh makes a session speak again only if its
latest use is then after the time of the warning, and the clock may stand still between
the two or go back.  The history of a run says when this happens (`due_iff_not_outrun`).
-/
import Gatehouse.Proofs.House.Filing
import Gatehouse.Proofs.House.Nobody
import Gatehouse.Proofs.Session.Warning

namespace Gatehouse

namespace House

variable {h : House} {name : StoreName} {r : SessionRef} {time : Instant} {window : Int}

/-! ### What is reported -/

theorem mem_pendingWarnings_go {resolve : SessionRef → Session} {refs reported : List SessionRef}
    (hok : Store.pendingWarnings.go resolve time window refs = .ok reported) :
    r ∈ reported ↔ r ∈ refs ∧ (resolve r).needsWarning time window = .ok true := by
  induction refs generalizing reported with
  | nil =>
    cases hok
    simp
  | cons ref refs ih =>
    unfold Store.pendingWarnings.go at hok
    cases hdue : (resolve ref).needsWarning time window with
    | error e =>
      rw [hdue] at hok
      cases hok
    | ok due =>
      cases hrest : Store.pendingWarnings.go resolve time window refs with
      | error e =>
        rw [hdue, hrest] at hok
        cases hok
      | ok rest =>
        rw [hdue, hrest] at hok
        have ih := ih hrest
        by_cases href : r = ref
        · subst href
          cases due <;> cases hok <;> simp [ih, hdue]
        · cases due <;> cases hok <;> simp [ih, href]

/-- A query reports the sessions of the store that are due a warning. -/
theorem mem_pendingWarnings {reported : List SessionRef}
    (hok : h.pendingWarnings name time window = .ok reported) :
    r ∈ reported ↔ (∃ id, h.find name id = some r) ∧
      (h.session r).needsWarning time window = .ok true := by
  unfold pendingWarnings Store.pendingWarnings at hok
  rw [mem_pendingWarnings_go hok, SortedMap.mem_values_iff]
  rfl

/-- No query reports the session, whatever its time and its window. -/
structure Unreported (h : House) (r : SessionRef) : Prop where
  /-- No warning is due. -/
  due : ∀ time window, (h.session r).needsWarning time window ≠ .ok true
  /-- That is the answer if the window can be represented. -/
  answer : ∀ time window begins, (h.session r).expirationTime.sub? window = some begins →
    (h.session r).needsWarning time window = .ok false
  /-- No store reports it. -/
  stored : ∀ name time window reported, h.pendingWarnings name time window = .ok reported →
    r ∉ reported

theorem unreported_of_silenced (hs : (h.session r).Silenced) : Unreported h r := by
  have hdue : ∀ time window, (h.session r).needsWarning time window ≠ .ok true := by
    intro time window hdue
    exact (Session.needsWarning_eq_ok_true_iff.1 hdue).2 hs
  refine ⟨hdue, fun time window begins hbegins => hs.needsWarning hbegins, ?_⟩
  intro name time window reported hok hr
  exact hdue time window ((mem_pendingWarnings hok).1 hr).2

/-! ### What is noted -/

/-- The time for which a step notes a warning of a session. -/
def warned (h : House) (r : SessionRef) : Step → Option Instant
  | .event (.use r' (.markWarned time)) =>
    if r' = r ∧ (h.session r).isEmpty = false then some time else none
  | _ => none

theorem warned_eq_some_iff {st : Step} : h.warned r st = some time ↔
    st = .event (.use r (.markWarned time)) ∧ (h.session r).isEmpty = false := by
  unfold warned
  split
  · rename_i r' time'
    by_cases hr' : r' = r <;> simp [hr', and_comm]
  · rename_i hmark
    simp only [reduceCtorEq, false_iff]
    intro h
    exact hmark r time h.1

theorem step_markWarned (hr : r < h.sessions.length) (time : Instant) :
    (h.step (.event (.use r (.markWarned time)))).session r = (h.session r).markWarned time :=
  session_setSession_self hr _

/-- What a step makes, or leaves unmade, was not warned. -/
theorem warningSent_step_of_length_le (hr : h.sessions.length ≤ r) (st : Step) :
    ((h.step st).session r).warningSent = none := by
  rcases Nat.lt_or_ge r (h.step st).sessions.length with hlt | hge
  · have hmade := (lt_length_or_made hlt).resolve_left (Nat.not_lt.2 hr)
    rcases made_cases hmade with ⟨draw, request, id, -, -, hs⟩ | ⟨record, -, -, hs⟩
    · exact Session.make_unwarned hs
    · exact Session.ofRecord_unwarned hs
  · rw [session_of_length_le hge]
    rfl

/-- The warning of a session is the one that the step notes, or else the one there was. -/
theorem warningSent_step (h : House) (r : SessionRef) (st : Step) :
    ((h.step st).session r).warningSent = (h.warned r st).or (h.session r).warningSent := by
  rcases Nat.lt_or_ge r h.sessions.length with hlt | hge
  · by_cases hmark : ∃ time, st = .event (.use r (.markWarned time))
    · obtain ⟨time, rfl⟩ := hmark
      rw [step_markWarned hlt]
      cases hempty : (h.session r).isEmpty with
      | true => simp [warned, hempty, Session.markWarned_of_isEmpty]
      | false => simp [warned, hempty, Session.warningSent_markWarned]
    · have hwarned : h.warned r st = none := by
        refine Option.eq_none_iff_forall_ne_some.2 ?_
        intro time hwarned
        exact hmark ⟨time, (warned_eq_some_iff.1 hwarned).1⟩
      rw [hwarned, Option.none_or]
      rcases session_step_cases h st hlt with ⟨u, rfl, hsession⟩ | hsame
      · rw [hsession]
        refine Session.warningSent_after ?_
        rintro time rfl
        exact hmark ⟨time, rfl⟩
      · rw [hsame]
  · have hnobody := session_of_length_le hge
    have hwarned : h.warned r st = none := by
      refine Option.eq_none_iff_forall_ne_some.2 ?_
      intro time hwarned
      have hsome := (warned_eq_some_iff.1 hwarned).2
      rw [hnobody] at hsome
      cases hsome
    rw [warningSent_step_of_length_le hge, hwarned, hnobody]
    rfl

/-! ### Who is warned -/

/-- The session is reported at a time just now, or was warned for that time already. -/
def IsReported (h : House) (r : SessionRef) (time : Instant) : Prop :=
  (∃ window, (h.session r).needsWarning time window = .ok true) ∨
    (h.session r).warningSent = some time

/-- Warnings of the session are noted only when it is reported, and for the time at which it is. -/
def WarnsOnReport (h : House) (r : SessionRef) : List Step → Prop
  | [] => True
  | st :: rest =>
    (∀ time, h.warned r st = some time → h.IsReported r time) ∧ (h.step st).WarnsOnReport r rest

/-- Sessions that are reported together can be warned one after another. -/
theorem warnsOnReport_sweep {reported : List SessionRef}
    (hreported : r ∈ reported → h.IsReported r time) :
    h.WarnsOnReport r (reported.map fun r' => .event (.use r' (.markWarned time))) := by
  induction reported generalizing h with
  | nil => trivial
  | cons r' rest ih =>
    rw [List.map_cons]
    refine ⟨?_, ih ?_⟩
    · intro time' hwarned
      cases (warned_eq_some_iff.1 hwarned).1
      exact hreported (by simp)
    · intro hr
      have hsession : (h.step (.event (.use r' (.markWarned time)))).session r =
          if r = r' ∧ r' < h.sessions.length then (h.session r').markWarned time
          else h.session r := session_setSession
      have hbefore := hreported (by simp [hr])
      unfold IsReported
      rw [hsession]
      by_cases heq : r = r' ∧ r' < h.sessions.length
      · rw [if_pos heq, ← heq.1]
        cases hempty : (h.session r).isEmpty with
        | true =>
          rw [Session.markWarned_of_isEmpty hempty]
          exact hbefore
        | false => exact .inr (Session.warningSent_markWarned hempty time)
      · rw [if_neg heq]
        exact hbefore

/-- A session that is not refreshed was last used when it was, and ends when it did. -/
theorem unrefreshed_stepAll (hs : Sound h) (hr : r < h.sessions.length) {steps : List Step}
    (hsteps : ∀ st ∈ steps, st.refreshed ≠ some r) :
    ((h.stepAll steps).session r).isEmpty = (h.session r).isEmpty ∧
      ((h.stepAll steps).session r).activity = (h.session r).activity := by
  induction steps generalizing h with
  | nil => exact ⟨rfl, rfl⟩
  | cons st rest ih =>
    have hstep := session_step hs hr (hsteps st (by simp))
    have hrest := ih (hs.step st) (Nat.lt_of_lt_of_le hr (length_le_step h st)) (by
      intro st' hst'
      exact hsteps st' (by simp [hst']))
    exact ⟨hrest.1.trans hstep.1.isEmpty, hrest.2.trans hstep.2⟩

/-! ### After a warning -/

/-- A session that is silenced stays so if it is not refreshed. -/
theorem silenced_step (hsound : Sound h) (hr : r < h.sessions.length)
    (hs : (h.session r).Silenced) {st : Step} (hst : st.refreshed ≠ some r)
    (hwarned : ∀ time, h.warned r st = some time → h.IsReported r time) :
    ((h.step st).session r).Silenced := by
  have hlast : ((h.step st).session r).lastAccessedTime = (h.session r).lastAccessedTime :=
    congrArg Prod.fst (session_step hsound hr hst).2
  have hnot : ∀ time window, (h.session r).needsWarning time window ≠ .ok true := by
    intro time window hdue
    exact (Session.needsWarning_eq_ok_true_iff.1 hdue).2 hs
  obtain ⟨sent, hsent, hle⟩ := hs
  refine ⟨sent, ?_, hlast ▸ hle⟩
  rw [warningSent_step]
  cases hw : h.warned r st with
  | none => exact hsent
  | some time =>
    -- It is not reported, so this is the warning that silenced it.
    rcases hwarned time hw with ⟨window, hdue⟩ | hbefore
    · exact absurd hdue (hnot time window)
    · exact hbefore.symm.trans hsent

theorem silenced_stepAll (hsound : Sound h) (hr : r < h.sessions.length)
    (hs : (h.session r).Silenced) {steps : List Step}
    (hsteps : ∀ st ∈ steps, st.refreshed ≠ some r) (hwarns : h.WarnsOnReport r steps) :
    ((h.stepAll steps).session r).Silenced := by
  induction steps generalizing h with
  | nil => exact hs
  | cons st rest ih =>
    refine ih (hsound.step st) (Nat.lt_of_lt_of_le hr (length_le_step h st))
      (silenced_step hsound hr hs (hsteps st (by simp)) hwarns.1) ?_ hwarns.2
    intro st' hst'
    exact hsteps st' (by simp [hst'])

/-- Within its lifetime, a session is reported no sooner than it was last used, or else in the second
of the leap second in which it was. -/
theorem Told.lastAccessed_le {lives : Chronicle} (ht : Told h lives) {id : SessionId}
    (hr : h.find name id = some r)
    (hdue : (h.session r).needsWarning time window = .ok true)
    (hwindow : ∀ services, (h.session r).services = some services →
      window ≤ Session.lifetime services) :
    (h.session r).lastAccessedTime ≤ time ∨ (h.session r).lastAccessedTime.InLeapSecond ∧
      time.second = (h.session r).lastAccessedTime.second := by
  obtain ⟨life, -, hlives⟩ := ht.life_of_stored hr
  obtain ⟨services, hservices, hlasting⟩ := hlives.services
  obtain ⟨⟨begins, hbegins, hle, -⟩, -⟩ := Session.needsWarning_eq_ok_true_iff.1 hdue
  have hshort := hwindow services hservices
  rw [Session.lifetime, hlasting] at hshort
  rw [hlives.lastAccessed]
  exact Instant.le_of_sub? hlives.expiration hshort hbegins hle

/-- What comes of noting that a session was warned for the time at which it was reported. -/
structure WarnedOnce (h : House) (r : SessionRef) (time : Instant) (window : Int)
    (warned : House) : Prop where
  /-- If the time is not before the last use, it is not reported again until it is refreshed. -/
  once : (h.session r).lastAccessedTime ≤ time → ∀ rest, (∀ st ∈ rest, st.refreshed ≠ some r) →
    warned.WarnsOnReport r rest → Unreported (warned.stepAll rest) r
  /-- Otherwise the last use was in a leap second, the time is in the same second, and the session is
  reported just as before. -/
  again : time < (h.session r).lastAccessedTime →
    ((h.session r).lastAccessedTime.InLeapSecond ∧
      time.second = (h.session r).lastAccessedTime.second) ∧
    (warned.session r).needsWarning time window = .ok true

/-- A session that is reported within its lifetime is silenced by the warning, if it is not used before
that is noted, and if it was not used after the time of the report. -/
theorem Told.warnedOnce {lives : Chronicle} (ht : Told h lives)
    {reported : List SessionRef} (hok : h.pendingWarnings name time window = .ok reported)
    (hr : r ∈ reported)
    (hwindow : ∀ services, (h.session r).services = some services →
      window ≤ Session.lifetime services)
    {between : List Step} (hbetween : ∀ st ∈ between, st.refreshed ≠ some r) :
    WarnedOnce h r time window ((h.stepAll between).step (.event (.use r (.markWarned time)))) := by
  obtain ⟨⟨id, hfind⟩, hdue⟩ := (mem_pendingWarnings hok).1 hr
  obtain ⟨hid, hkey⟩ := ht.keyed name id r hfind
  have hlt := ht.toSound.lt_length name hfind
  obtain ⟨hempty, hactivity⟩ := unrefreshed_stepAll ht.toSound hlt hbetween
  have hlt' := Nat.lt_of_lt_of_le hlt (length_le_stepAll h between)
  have hsome : ((h.stepAll between).session r).isEmpty = false := by
    rw [hempty, Session.isEmpty, hid]
    exact hkey
  have hlast : ((h.stepAll between).session r).lastAccessedTime =
      (h.session r).lastAccessedTime := congrArg Prod.fst hactivity
  have hend : ((h.stepAll between).session r).expirationTime = (h.session r).expirationTime :=
    congrArg (fun a => a.2.2) hactivity
  constructor
  case once =>
    intro hle rest hrest hwarns
    have hsound := (ht.toSound.stepAll between).step (.event (.use r (.markWarned time)))
    refine unreported_of_silenced (silenced_stepAll hsound ?_ ?_ hrest hwarns)
    · exact Nat.lt_of_lt_of_le hlt' (length_le_step _ _)
    · rw [step_markWarned hlt']
      refine Session.silenced_markWarned hsome ?_
      rw [hlast]
      exact hle
  case again =>
    intro hbefore
    have hnot := Instant.not_le_iff.2 hbefore
    refine ⟨(ht.lastAccessed_le hfind hdue hwindow).resolve_left hnot, ?_⟩
    rw [step_markWarned hlt']
    refine Session.needsWarning_markWarned hsome ?_ ?_
    · rw [hlast]
      exact hbefore
    · unfold Session.EndIsNear
      rw [hend]
      exact (Session.needsWarning_eq_ok_true_iff.1 hdue).1

/-- **A query reports the stored sessions whose end is near and that are not silenced.  One that is
reported within its lifetime and then warned is not reported again until it is refreshed, unless it was
used later in the second of the report, in a leap second; and none is once it has ended.** -/
theorem one_warning_per_refresh (settings : SessionSettings) (now : Instant)
    (address : AddressSource) (auth : Option AuthModule) (steps : List Step)
    (hrange : (fresh settings now address auth).inRange steps = true) :
    let h := (fresh settings now address auth).stepAll steps
    (∀ name time window reported, h.pendingWarnings name time window = .ok reported →
      ∀ r, r ∈ reported ↔ (∃ id, h.find name id = some r) ∧
        (h.session r).EndIsNear time window ∧ ¬ (h.session r).Silenced) ∧
    (∀ name time window reported r, h.pendingWarnings name time window = .ok reported →
      r ∈ reported →
      (∀ services, (h.session r).services = some services → window ≤ Session.lifetime services) →
      ∀ between, (∀ st ∈ between, st.refreshed ≠ some r) →
        WarnedOnce h r time window
          ((h.stepAll between).step (.event (.use r (.markWarned time))))) ∧
    (∀ r time window, (h.session r).needsWarning time window = .ok true →
      (h.session r).isExpired time = false) ∧
    ∀ name time window reported, h.pendingWarnings name time window = .ok reported →
      ∀ r ∈ reported, r ∉ h.expired name time := by
  intro h
  have htold := told_chronicle settings now address auth hrange
  have hends : ∀ r time window, (h.session r).needsWarning time window = .ok true →
      (h.session r).isExpired time = false := by
    intro r time window hdue
    exact Session.not_isExpired_of_needsWarning hdue
  refine ⟨?_, ?_, hends, ?_⟩
  · intro name time window reported hok r
    rw [mem_pendingWarnings hok, Session.needsWarning_eq_ok_true_iff]
  · intro name time window reported r hok hr hwindow between hbetween
    exact htold.warnedOnce hok hr hwindow hbetween
  · intro name time window reported hok r hr hexpired
    have hdue := ((mem_pendingWarnings hok).1 hr).2
    rw [mem_expired_iff, hends r time window hdue] at hexpired
    exact Bool.false_ne_true hexpired.2

/-- Two sessions are reported two minutes before their end and warned a minute later, twice over.  Then
the first is not reported any more. -/
theorem warned_twice_over :
    let start := fresh .default .epoch (.fixed "") none
    let steps : List Step :=
      [.event (.restore ⟨⟨7⟩, 1, "ada", "", none, [], "", [], ""⟩),
       .event (.restore ⟨⟨9⟩, 2, "bob", "", none, [], "", [], ""⟩),
       .event (.upkeep .main (.add 1)), .event (.upkeep .main (.add 2)),
       .event (.circumstance (.advance (minutes 18)))]
    let h := start.stepAll steps
    let time : Instant := ⟨1080, 0, by decide, by decide, by decide⟩
    let between : List Step := [.event (.circumstance (.advance (minutes 1)))]
    let warned := (h.stepAll between).step (.event (.use 1 (.markWarned time)))
    let rest : List Step := [2, 1, 2].map fun r => .event (.use r (.markWarned time))
    h.pendingWarnings .main time (minutes 2) = .ok [1, 2] ∧ Unreported (warned.stepAll rest) 1 := by
  intro start steps h time between warned rest
  have hrange : start.inRange steps = true := by decide +kernel
  have hok : h.pendingWarnings .main time (minutes 2) = .ok [1, 2] := by decide +kernel
  have hservices : (h.session 1).services = some start.services := by decide +kernel
  have hwindow : ∀ services, (h.session 1).services = some services →
      minutes 2 ≤ Session.lifetime services := by
    intro services hs
    obtain rfl := Option.some.inj (hservices.symm.trans hs)
    decide +kernel
  have hbetween : ∀ st ∈ between, st.refreshed ≠ some 1 := by decide
  have hrest : ∀ st ∈ rest, st.refreshed ≠ some 1 := by decide
  have hle : (h.session 1).lastAccessedTime ≤ time := by decide +kernel
  have hsent : (warned.session 1).warningSent = some time := by decide +kernel
  have hwarns : warned.WarnsOnReport 1 rest := warnsOnReport_sweep fun _ => .inr hsent
  obtain ⟨-, honce, -⟩ := one_warning_per_refresh .default .epoch (.fixed "") none steps hrange
  have hwarned : WarnedOnce h 1 time (minutes 2) warned :=
    honce .main time (minutes 2) [1, 2] 1 hok (by decide) hwindow between hbetween
  exact ⟨hok, hwarned.once hle rest hrest hwarns⟩

/-- A session that is reported half a second into the last second of a day, after it was made in the
leap second that follows, is reported again although it was warned.  So is one that two sweeps report,
if the one that was made for a time before the last use, with a window longer than the lifetime, is the
later to be noted. -/
theorem warned_but_reported_again :
    let ada : Event := .restore ⟨⟨7⟩, 1, "ada", "", none, [], "", [], ""⟩
    let stored : List Step := [.event ada, .event (.upkeep .main (.add 1))]
    let clock (time : Instant) : Step := .event (.circumstance (.clock time))
    let warn (time : Instant) : Step := .event (.use 1 (.markWarned time))
    let leap : Instant := ⟨86399, 1300000000, by decide, by decide, by decide⟩
    let back : Instant := ⟨86399, 500000000, by decide, by decide, by decide⟩
    let h := (fresh .default leap (.fixed "") none).stepAll (stored ++ [clock back])
    let noon : Instant := ⟨43200, 0, by decide, by decide, by decide⟩
    let early : Instant := ⟨42600, 0, by decide, by decide, by decide⟩
    let late : Instant := ⟨44340, 0, by decide, by decide, by decide⟩
    let first := (fresh .default noon (.fixed "") none).stepAll (stored ++ [clock early])
    let second := first.step (clock late)
    (h.pendingWarnings .main back (minutes 20) = .ok [1] ∧
      (h.step (warn back)).pendingWarnings .main back (minutes 20) = .ok [1]) ∧
    (first.pendingWarnings .main early (minutes 60) = .ok [1] ∧
      second.pendingWarnings .main late (minutes 2) = .ok [1] ∧
      (second.step (warn late)).pendingWarnings .main late (minutes 2) = .ok [] ∧
      (second.stepAll [warn late, warn early]).pendingWarnings .main late (minutes 2) = .ok [1]) := by
  decide +kernel

/-! ### After a refresh -/

/-- The last warning noted of a session is for this time. -/
def LastWarned (start : House) (r : SessionRef) (sent : Instant) (steps : List Step) : Prop :=
  ComesAndStays (fun past st => (start.stepAll past).warned r st = some sent)
    (fun past st => (start.stepAll past).warned r st ≠ none) steps

/-- No warning of a session is noted since it was last used or made. -/
def UnwarnedSinceUse (start : House) (r : SessionRef) (steps : List Step) : Prop :=
  ComesAndStays (fun past st => st.refreshed = some r ∨ (start.stepAll past).made st = some r)
    (fun past st => (start.stepAll past).warned r st ≠ none) steps

/-- The same, with the clock at the use after the time of the last warning before it. -/
def UsedAfterWarning (start : House) (r : SessionRef) (steps : List Step) : Prop :=
  ComesAndStays
    (fun past st => st.refreshed = some r ∧
      ∀ sent, start.LastWarned r sent past → sent < (start.stepAll past).now)
    (fun past st => (start.stepAll past).warned r st ≠ none) steps

/-- The last warning of a session is for a time that is not before any of the moments at which it was
made or used. -/
def Outrun (start : House) (r : SessionRef) (steps : List Step) : Prop :=
  ∃ sent life, start.LastWarned r sent steps ∧ start.chronicle steps r = some life ∧
    ∀ t ∈ life.moments, t ≤ sent

/-- Every session but the first was last used at the latest moment of its life, whether or not all
its ends could be represented. -/
structure Dated (h : House) (lives : Chronicle) : Prop extends Vacant h where
  /-- A life is written down for it, and tells its last use. -/
  latest : ∀ r, r ≠ emptyRef → r < h.sessions.length →
    ∃ life, lives r = some life ∧ (h.session r).lastAccessedTime = life.latest

theorem dated_fresh (settings : SessionSettings) (now : Instant) (address : AddressSource)
    (auth : Option AuthModule) : Dated (fresh settings now address auth) fun _ => none where
  toVacant := vacant_fresh settings now address auth
  latest := by
    intro r hr hlt
    exact absurd (Nat.lt_one_iff.1 hlt) hr

theorem Dated.step {lives : Chronicle} (hd : Dated h lives) (st : Step) :
    Dated (h.step st) (h.record lives st) := by
  refine ⟨hd.toVacant.step st, ?_⟩
  intro r hr hlt
  unfold record
  by_cases hmade : h.made st = some r
  · rw [if_pos hmade]
    exact ⟨_, rfl, (session_step_of_made hmade).lastAccessed⟩
  · have hbefore := (lt_length_or_made hlt).resolve_right hmade
    obtain ⟨life, hlife, hlatest⟩ := hd.latest r hr hbefore
    rw [if_neg hmade, hlife]
    by_cases hrefreshed : st.refreshed = some r
    · rw [if_pos hrefreshed, session_step_of_refreshed hrefreshed hbefore,
        Session.lastAccessedTime_refresh (hd.somebody r hr hbefore).2, hlatest]
      exact ⟨_, rfl, (life.latest_usedAt h.now).symm⟩
    · rw [if_neg hrefreshed]
      have hactivity := (session_step hd.toSound hbefore hrefreshed).2
      exact ⟨life, rfl, (congrArg Prod.fst hactivity).trans hlatest⟩

theorem Dated.stepAll {lives : Chronicle} (hd : Dated h lives) (steps : List Step) :
    Dated (h.stepAll steps) (h.recordAll lives steps) := by
  induction steps generalizing h lives with
  | nil => exact hd
  | cons st rest ih => exact ih (hd.step st)

/-- Only a session that was made, and is not the first, was ever warned. -/
theorem Vacant.of_warningSent (hv : Vacant h) {sent : Instant}
    (hsent : (h.session r).warningSent = some sent) : r ≠ emptyRef ∧ r < h.sessions.length := by
  constructor
  · rintro rfl
    rw [hv.vacant] at hsent
    cases hsent
  · refine Nat.lt_of_not_le fun hge => ?_
    rw [session_of_length_le hge] at hsent
    cases hsent

/-- A session shows the last warning that was noted of it. -/
theorem warningSent_stepAll (hstart : (h.session r).warningSent = none) (steps : List Step)
    {sent : Instant} :
    ((h.stepAll steps).session r).warningSent = some sent ↔ h.LastWarned r sent steps := by
  induction steps using List.reverseRecOn with
  | nil => simp [LastWarned, not_comesAndStays_nil, stepAll, hstart]
  | append_singleton steps st ih =>
    rw [LastWarned, comesAndStays_concat, ← LastWarned, ← ih, stepAll_concat, warningSent_step]
    cases warned (h.stepAll steps) r st <;> simp

/-- The last use of a session never goes back. -/
theorem lastAccessedTime_le_step (hs : Sound h) (hr : r < h.sessions.length) (st : Step) :
    (h.session r).lastAccessedTime ≤ ((h.step st).session r).lastAccessedTime := by
  by_cases hst : st.refreshed = some r
  · rw [session_step_of_refreshed hst hr]
    exact Session.lastAccessedTime_le_refresh
  · have hactivity := (session_step hs hr hst).2
    have hlast : ((h.step st).session r).lastAccessedTime = (h.session r).lastAccessedTime :=
      congrArg Prod.fst hactivity
    rw [hlast]
    exact Instant.le_refl _

/-- Only a warning silences a session. -/
theorem Vacant.silenced_of_step (hv : Vacant h) {st : Step} (hst : h.warned r st = none)
    (hsilenced : ((h.step st).session r).Silenced) : (h.session r).Silenced := by
  obtain ⟨sent, hsent, hle⟩ := hsilenced
  rw [warningSent_step, hst, Option.none_or] at hsent
  have hlast := lastAccessedTime_le_step hv.toSound (hv.of_warningSent hsent).2 st
  exact ⟨sent, hsent, Instant.le_trans hlast hle⟩

/-- A session is silenced if its last warning has outrun its uses. -/
theorem Dated.silenced_iff {start : House} (hstart : (start.session r).warningSent = none)
    {steps : List Step} (hd : Dated (start.stepAll steps) (start.chronicle steps)) :
    ((start.stepAll steps).session r).Silenced ↔ start.Outrun r steps := by
  constructor
  · rintro ⟨sent, hsent, hle⟩
    obtain ⟨hr, hlt⟩ := hd.of_warningSent hsent
    obtain ⟨life, hlife, hlatest⟩ := hd.latest r hr hlt
    refine ⟨sent, life, (warningSent_stepAll hstart steps).1 hsent, hlife, ?_⟩
    intro t ht
    rw [hlatest] at hle
    exact Instant.le_trans (life.latest_greatest.2 t ht) hle
  · rintro ⟨sent, life, hwarned, hlife, hmoments⟩
    have hsent := (warningSent_stepAll hstart steps).2 hwarned
    obtain ⟨hr, hlt⟩ := hd.of_warningSent hsent
    obtain ⟨life', hlife', hlatest⟩ := hd.latest r hr hlt
    obtain rfl := Option.some.inj (hlife.symm.trans hlife')
    refine ⟨sent, hsent, ?_⟩
    rw [hlatest]
    exact hmoments _ life.latest_greatest.1

/-- A use after the last warning is heard until the next one. -/
theorem Vacant.not_silenced {start : House} (hv : Vacant start)
    (hstart : (start.session r).warningSent = none) {steps : List Step}
    (hused : start.UsedAfterWarning r steps) : ¬ ((start.stepAll steps).session r).Silenced := by
  induction steps using List.reverseRecOn with
  | nil => exact absurd hused not_comesAndStays_nil
  | append_singleton steps st ih =>
    have hpast := hv.stepAll steps
    rw [stepAll_concat]
    rcases comesAndStays_concat.1 hused with ⟨hbefore, hunwarned⟩ | ⟨hst, hlater⟩
    · intro hsilenced
      exact ih hbefore (hpast.silenced_of_step (not_not.1 hunwarned) hsilenced)
    · rintro ⟨sent, hsent, hle⟩
      have hunwarned : (start.stepAll steps).warned r st = none := by
        rw [Step.refreshed_eq_some_iff.1 hst]
        rfl
      rw [warningSent_step, hunwarned, Option.none_or] at hsent
      obtain ⟨hr, hlt⟩ := hpast.of_warningSent hsent
      have hclock := hlater sent ((warningSent_stepAll hstart steps).1 hsent)
      rw [session_step_of_refreshed hst hlt,
        Session.lastAccessedTime_refresh (hpast.somebody r hr hlt).2] at hle
      rw [Instant.lt_iff] at hclock
      rw [Instant.le_iff, Instant.max_rank] at hle
      omega

/-- **After every run, with the clock going either way, a warning is due within the window before the
end unless the last one has outrun the uses; it has not if the clock was past it at a later use.** -/
theorem due_iff_not_outrun (settings : SessionSettings) (now : Instant) (address : AddressSource)
    (auth : Option AuthModule) (steps : List Step) (r : SessionRef) :
    let start := fresh settings now address auth
    let s := (start.stepAll steps).session r
    (∀ time window, s.EndIsNear time window →
      (s.needsWarning time window = .ok true ↔ ¬ start.Outrun r steps)) ∧
    (start.UsedAfterWarning r steps → ¬ start.Outrun r steps) := by
  intro start s
  have hunwarned : (start.session r).warningSent = none := by
    cases r <;> rfl
  have houtrun : s.Silenced ↔ start.Outrun r steps :=
    ((dated_fresh settings now address auth).stepAll steps).silenced_iff hunwarned
  refine ⟨?_, ?_⟩
  · intro time window hnear
    rw [Session.needsWarning_eq_ok_true_iff, houtrun]
    exact and_iff_right hnear
  · intro hused
    rw [← houtrun]
    exact (vacant_fresh settings now address auth).not_silenced hunwarned hused

/-- A session that is warned after eighteen minutes and used one minute later is due a warning again
two minutes before its end. -/
theorem refreshed_in_time :
    let start := fresh .default .epoch (.fixed "") none
    let before : List Step :=
      [.event (.restore ⟨⟨7⟩, 1, "ada", "", none, [], "", [], ""⟩),
       .event (.circumstance (.advance (minutes 18))),
       .event (.use 1 (.markWarned ⟨1080, 0, by decide, by decide, by decide⟩)),
       .event (.circumstance (.advance (minutes 1)))]
    let steps := before ++ [.event (.use 1 .refresh)]
    let s := (start.stepAll steps).session 1
    let time : Instant := ⟨2220, 0, by decide, by decide, by decide⟩
    start.UsedAfterWarning 1 steps ∧ s.EndIsNear time (minutes 2) ∧
      s.needsWarning time (minutes 2) = .ok true := by
  intro start before steps s time
  have hsent : ((start.stepAll before).session 1).warningSent =
      some ⟨1080, 0, by decide, by decide, by decide⟩ := by decide +kernel
  have hused : start.UsedAfterWarning 1 steps := by
    refine comesAndStays_concat.2 (.inr ⟨rfl, ?_⟩)
    intro sent hwarned
    rw [← warningSent_stepAll rfl, hsent] at hwarned
    obtain rfl := Option.some.inj hwarned
    decide +kernel
  have hnear : s.EndIsNear time (minutes 2) :=
    ⟨time, by decide +kernel, by decide, by decide +kernel⟩
  obtain ⟨hdue, hheard⟩ := due_iff_not_outrun .default .epoch (.fixed "") none steps 1
  exact ⟨hused, hnear, (hdue time (minutes 2) hnear).2 (hheard hused)⟩

/-- If it is used at the very time for which it was warned, no warning is due, although none was noted
since. -/
theorem refreshed_in_vain :
    let start := fresh .default .epoch (.fixed "") none
    let before : List Step :=
      [.event (.restore ⟨⟨7⟩, 1, "ada", "", none, [], "", [], ""⟩),
       .event (.circumstance (.advance (minutes 18)))]
    let clock := (start.stepAll before).now
    let steps := before ++ [.event (.use 1 (.markWarned clock))] ++ [.event (.use 1 .refresh)]
    let s := (start.stepAll steps).session 1
    let time : Instant := ⟨2220, 0, by decide, by decide, by decide⟩
    start.UnwarnedSinceUse 1 steps ∧ s.EndIsNear time (minutes 2) ∧
      s.needsWarning time (minutes 2) = .ok false := by
  intro start before clock steps s time
  have hunwarned : start.UnwarnedSinceUse 1 steps :=
    comesAndStays_concat.2 (.inr (.inl rfl))
  have hnear : s.EndIsNear time (minutes 2) :=
    ⟨⟨2160, 0, by decide, by decide, by decide⟩, by decide +kernel, by decide, by decide +kernel⟩
  exact ⟨hunwarned, hnear, by decide +kernel⟩

end House

end Gatehouse
