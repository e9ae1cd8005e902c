/-
Sessions that are used too late to end.

A refresh notes the time and the address of the use before it works out the new end.  If that end
cannot be represented, the refresh fails, and the use is noted all the same: the end is left behind
one lifetime after an earlier use.  Such a session is stranded (`Session.Stranded`).

It stays so.  The time of the last use never goes back, wherever the clock goes, so every later
refresh fails as well and the end does not move again; nothing else touches either of them.  And a
session that is not stranded ends when its lifetime says.  So what tells whether a session ends one
lifetime after its last use is whether a refresh of it has failed (`stranded_stepAll`,
`endsOnTime_stepAll`), and the first one that fails always moves the last use.
-/
import Gatehouse.Proofs.House.Making

namespace Gatehouse

namespace Session

variable {s t : Session} {services : Services} {now : Instant} {address : String}

/-- The session ends one lifetime after its last use. -/
def EndsOnTime (s : Session) : Prop :=
  ∀ services, s.services = some services →
    s.lastAccessedTime.add? (lifetime services) = some s.expirationTime

/-- The session was last used so late that an end of its own cannot be represented. -/
def Stranded (s : Session) : Prop :=
  ∃ services, s.services = some services ∧
    Instant.last.second < s.lastAccessedTime.second + 60 * services.settings.ttlMinutes.toNat

theorem EndsOnTime.not_stranded (h : s.EndsOnTime) : ¬ s.Stranded := by
  rintro ⟨services, hs, hlate⟩
  have hnone := Instant.add?_minutes_eq_none_iff.2 hlate
  cases (h services hs).symm.trans hnone

theorem endsOnTime_of_expiration (hs : s.services = some services)
    (hend : s.lastAccessedTime.add? (lifetime services) = some s.expirationTime) :
    s.EndsOnTime := by
  intro services' hs'
  obtain rfl := Option.some.inj (hs.symm.trans hs')
  exact hend

/-- The Empty session has no end that could be late. -/
theorem endsOnTime_empty : empty.EndsOnTime := by
  intro services hs
  cases hs

theorem Lives.endsOnTime {life : Life} (h : s.Lives life) : s.EndsOnTime := by
  obtain ⟨services, hs, hlasting⟩ := h.services
  refine endsOnTime_of_expiration hs ?_
  rw [lifetime, hlasting, h.lastAccessed, h.expiration]

theorem Stranded.congr (hservices : t.services = s.services)
    (hactivity : t.activity = s.activity) : t.Stranded ↔ s.Stranded := by
  have hlast : t.lastAccessedTime = s.lastAccessedTime := congrArg Prod.fst hactivity
  unfold Stranded
  rw [hservices, hlast]

theorem EndsOnTime.congr (hservices : t.services = s.services)
    (hactivity : t.activity = s.activity) : t.EndsOnTime ↔ s.EndsOnTime := by
  have hlast : t.lastAccessedTime = s.lastAccessedTime := congrArg Prod.fst hactivity
  have hend : t.expirationTime = s.expirationTime := congrArg (fun a => a.2.2) hactivity
  unfold EndsOnTime
  rw [hservices, hlast, hend]

/-! ### One refresh -/

/-- A refresh that succeeds leaves the session on time, and one that fails leaves it stranded. -/
theorem refresh_outcome (s : Session) (now : Instant) (address : String) :
    (s.refresh now address).2 = .ok () ∧ (s.refresh now address).1.EndsOnTime ∨
    (s.refresh now address).2 = .error .outOfRange ∧ (s.refresh now address).1.Stranded := by
  rcases refresh_cases s now address with
    ⟨hs, heq⟩ | ⟨services, hs, ⟨hlate, heq⟩ | ⟨expiration, hend, heq⟩⟩
  · rw [heq]
    refine .inl ⟨rfl, ?_⟩
    intro services hsome
    rw [hs] at hsome
    cases hsome
  · rw [heq]
    exact .inr ⟨rfl, services, hs, Instant.add?_minutes_eq_none_iff.1 hlate⟩
  · rw [heq]
    exact .inl ⟨rfl, endsOnTime_of_expiration hs hend⟩

/-- A refresh that fails notes the use and leaves the end. -/
theorem refresh_of_error {e : DateOverflow} (h : (s.refresh now address).2 = .error e) :
    (s.refresh now address).1 = { s with
      lastAccessedTime := max s.lastAccessedTime now, lastAccessedIp := address } := by
  rcases refresh_cases s now address with
    ⟨-, heq⟩ | ⟨services, -, ⟨-, heq⟩ | ⟨expiration, -, heq⟩⟩
  · rw [heq] at h
    cases h
  · rw [heq]
  · rw [heq] at h
    cases h

theorem refresh_eq_error_iff : (s.refresh now address).2 = .error .outOfRange ↔
    ∃ services, s.services = some services ∧ Instant.last.second <
      max s.lastAccessedTime.second now.second + 60 * services.settings.ttlMinutes.toNat := by
  rw [← Instant.second_max]
  rcases refresh_cases s now address with
    ⟨hs, heq⟩ | ⟨services, hs, ⟨hlate, heq⟩ | ⟨expiration, hend, heq⟩⟩
  · rw [heq, hs]
    simp
  · rw [heq]
    exact iff_of_true rfl ⟨services, hs, Instant.add?_minutes_eq_none_iff.1 hlate⟩
  · rw [heq]
    refine iff_of_false (fun hfailed => by cases hfailed) ?_
    rintro ⟨services', hs', hlate⟩
    obtain rfl := Option.some.inj (hs.symm.trans hs')
    cases hend.symm.trans (Instant.add?_minutes_eq_none_iff.2 hlate)

/-- A session that is stranded cannot be refreshed: the last use does not go back. -/
theorem Stranded.refresh (h : s.Stranded) (now : Instant) (address : String) :
    (s.refresh now address).2 = .error .outOfRange := by
  obtain ⟨services, hs, hlate⟩ := h
  refine refresh_eq_error_iff.2 ⟨services, hs, ?_⟩
  omega

end Session

namespace House

variable {h : House} {r : SessionRef}

/-! ### Runs -/

/-- Whether a step refreshes the session and cannot represent its new end. -/
def strands (h : House) (r : SessionRef) (st : Step) : Bool :=
  st.refreshed = some r && !h.staysInRange st

/-- Whether one of some steps does. -/
def everStrands (h : House) (r : SessionRef) : List Step → Bool
  | [] => false
  | st :: rest => h.strands r st || (h.step st).everStrands r rest

theorem strands_eq_true_iff {st : Step} : h.strands r st = true ↔
    st.refreshed = some r ∧ (h.refresh r).2 = .error .outOfRange := by
  unfold strands
  rw [Bool.and_eq_true, decide_eq_true_iff, Bool.not_eq_true']
  refine and_congr_right fun hst => ?_
  unfold staysInRange
  rw [hst]
  dsimp only
  cases (h.refresh r).2 with
  | ok u => simp [Except.isOk, Except.toBool]
  | error e =>
    cases e
    simp [Except.isOk, Except.toBool]

/-- What a step makes or leaves unmade is on time. -/
theorem endsOnTime_step_of_length_le (hr : h.sessions.length ≤ r) (st : Step) :
    ((h.step st).session r).EndsOnTime := by
  rcases Nat.lt_or_ge r (h.step st).sessions.length with hlt | hge
  · have hmade := (lt_length_or_made hlt).resolve_left (Nat.not_lt.2 hr)
    exact (session_step_of_made hmade).endsOnTime
  · rw [session_of_length_le hge]
    exact Session.endsOnTime_empty

theorem lt_length_of_stranded (hr : (h.session r).Stranded) : r < h.sessions.length := by
  by_contra hge
  rw [session_of_length_le (Nat.not_lt.1 hge)] at hr
  exact Session.endsOnTime_empty.not_stranded hr

theorem lt_length_of_error (hfailed : (h.refresh r).2 = .error .outOfRange) :
    r < h.sessions.length := by
  by_contra hge
  obtain ⟨services, hs, -⟩ := Session.refresh_eq_error_iff.1 hfailed
  rw [session_of_length_le (Nat.not_lt.1 hge)] at hs
  cases hs

/-- A step strands a session if it refreshes it and fails, and no step sets it free. -/
theorem stranded_step (hs : Sound h) (r : SessionRef) (st : Step) :
    ((h.step st).session r).Stranded ↔ (h.session r).Stranded ∨ h.strands r st = true := by
  rw [strands_eq_true_iff]
  rcases Nat.lt_or_ge r h.sessions.length with hlt | hge
  · by_cases hst : st.refreshed = some r
    · rw [session_step_of_refreshed hst hlt, and_iff_right hst]
      change _ ↔ _ ∨ ((h.session r).refresh h.now h.address.resolve).2 = .error .outOfRange
      rcases (h.session r).refresh_outcome h.now h.address.resolve with
        ⟨hok, hontime⟩ | ⟨hfailed, hstranded⟩
      · refine iff_of_false hontime.not_stranded ?_
        rintro (hbefore | hfailed)
        · cases hok.symm.trans (hbefore.refresh h.now h.address.resolve)
        · cases hok.symm.trans hfailed
      · exact iff_of_true hstranded (.inr hfailed)
    · obtain ⟨horigin, hactivity⟩ := session_step hs hlt hst
      rw [Session.Stranded.congr horigin.services hactivity]
      simp [hst]
  · refine iff_of_false (endsOnTime_step_of_length_le hge st).not_stranded ?_
    rintro (hstranded | ⟨-, hfailed⟩)
    · exact Nat.not_lt.2 hge (lt_length_of_stranded hstranded)
    · exact Nat.not_lt.2 hge (lt_length_of_error hfailed)

/-- A session that is on time unless it is stranded remains so. -/
theorem endsOnTime_step (hs : Sound h) (st : Step)
    (hr : (h.session r).Stranded ∨ (h.session r).EndsOnTime) :
    ((h.step st).session r).Stranded ∨ ((h.step st).session r).EndsOnTime := by
  rcases Nat.lt_or_ge r h.sessions.length with hlt | hge
  · by_cases hst : st.refreshed = some r
    · rw [session_step_of_refreshed hst hlt]
      rcases (h.session r).refresh_outcome h.now h.address.resolve with
        ⟨-, hontime⟩ | ⟨-, hstranded⟩
      · exact .inr hontime
      · exact .inl hstranded
    · obtain ⟨horigin, hactivity⟩ := session_step hs hlt hst
      rw [Session.Stranded.congr horigin.services hactivity,
        Session.EndsOnTime.congr horigin.services hactivity]
      exact hr
  · exact .inr (endsOnTime_step_of_length_le hge st)

/-- Nothing moves the end of a stranded session. -/
theorem expirationTime_step_of_stranded (hs : Sound h) (st : Step)
    (hr : (h.session r).Stranded) :
    ((h.step st).session r).expirationTime = (h.session r).expirationTime := by
  have hlt := lt_length_of_stranded hr
  by_cases hst : st.refreshed = some r
  · rw [session_step_of_refreshed hst hlt, Session.refresh_of_error (hr.refresh ..)]
  · exact congrArg (fun a => a.2.2) (session_step hs hlt hst).2

/-- **A session is stranded after a run exactly if a refresh of it has failed.** -/
theorem stranded_stepAll (hs : Sound h) (r : SessionRef) (steps : List Step) :
    ((h.stepAll steps).session r).Stranded ↔
      (h.session r).Stranded ∨ h.everStrands r steps = true := by
  induction steps generalizing h with
  | nil => simp [stepAll, everStrands]
  | cons st rest ih =>
    show (((h.step st).stepAll rest).session r).Stranded ↔ _
    rw [ih (hs.step st), stranded_step hs, everStrands, Bool.or_eq_true, or_assoc]

theorem endsOnTime_stepAll (hs : Sound h)
    (hr : (h.session r).Stranded ∨ (h.session r).EndsOnTime) (steps : List Step) :
    ((h.stepAll steps).session r).Stranded ∨ ((h.stepAll steps).session r).EndsOnTime := by
  induction steps generalizing h with
  | nil => exact hr
  | cons st rest ih => exact ih (hs.step st) (endsOnTime_step hs st hr)

theorem expirationTime_stepAll_of_stranded (hs : Sound h) (hr : (h.session r).Stranded)
    (steps : List Step) :
    ((h.stepAll steps).session r).expirationTime = (h.session r).expirationTime := by
  induction steps generalizing h with
  | nil => rfl
  | cons st rest ih =>
    have hstill := (stranded_step hs r st).2 (.inl hr)
    exact (ih (hs.step st) hstill).trans (expirationTime_step_of_stranded hs st hr)

/-! ### What a failure leaves -/

/-- A refresh that fails changes the last use and its address, and nothing else in the house. -/
theorem refresh_of_error (hfailed : (h.refresh r).2 = .error .outOfRange) :
    (h.refresh r).1 = h.setSession r { h.session r with
      lastAccessedTime := max (h.session r).lastAccessedTime h.now
      lastAccessedIp := h.address.resolve } := by
  have hleft := Session.refresh_of_error (s := h.session r) hfailed
  show h.setSession r ((h.session r).refresh h.now h.address.resolve).1 = _
  rw [hleft]

theorem activity_of_error (hfailed : (h.refresh r).2 = .error .outOfRange) :
    ((h.refresh r).1.session r).activity = (h.session r).activity ↔
      h.now ≤ (h.session r).lastAccessedTime ∧
        h.address.resolve = (h.session r).lastAccessedIp := by
  rw [refresh_of_error hfailed, session_setSession_self (lt_length_of_error hfailed)]
  unfold Session.activity
  simp only [Prod.mk.injEq, and_true]
  refine and_congr_left fun _ => ?_
  rw [Instant.eq_iff, Instant.max_rank, Instant.le_iff]
  omega

/-- When a session that is on time cannot be refreshed, it is used later than before. -/
theorem lt_now_of_error (hontime : (h.session r).EndsOnTime)
    (hfailed : (h.refresh r).2 = .error .outOfRange) :
    (h.session r).lastAccessedTime < h.now := by
  obtain ⟨services, hs, hlate⟩ := Session.refresh_eq_error_iff.1 hfailed
  refine Instant.not_le_iff.1 fun hle => hontime.not_stranded ⟨services, hs, ?_⟩
  rcases hle with hlt | ⟨heq, -⟩ <;> omega

/-- The session cannot be refreshed at any time, and its end is where it was at another one, too
early. -/
structure LeftBehind (h : House) (r : SessionRef) (expiration : Instant) : Prop where
  /-- A refresh fails. -/
  fails : (h.refresh r).2 = .error .outOfRange
  /-- The end has not moved. -/
  stays : (h.session r).expirationTime = expiration
  /-- It is not one lifetime after the last use. -/
  early : ¬ (h.session r).EndsOnTime

/-- Once a refresh has failed, the end is left behind for good. -/
theorem leftBehind_of_error (hs : Sound h) (hfailed : (h.refresh r).2 = .error .outOfRange)
    (later : List Step) :
    LeftBehind ((h.refresh r).1.stepAll later) r (h.session r).expirationTime := by
  let st : Step := .event (.use r .refresh)
  have hlt := lt_length_of_error hfailed
  have hsound : Sound (h.step st) := hs.step st
  have hstranded : ((h.step st).session r).Stranded :=
    (stranded_step hs r st).2 (.inr (strands_eq_true_iff.2 ⟨rfl, hfailed⟩))
  have hleft : ((h.step st).session r).expirationTime = (h.session r).expirationTime := by
    rw [session_step_of_refreshed rfl hlt, Session.refresh_of_error hfailed]
  have hstill : (((h.step st).stepAll later).session r).Stranded :=
    (stranded_stepAll hsound r later).2 (.inl hstranded)
  constructor
  case fails => exact hstill.refresh _ _
  case stays => exact (expirationTime_stepAll_of_stranded hsound hstranded later).trans hleft
  case early => exact fun hontime => hontime.not_stranded hstill

/-- How a refresh of a session fails, if `before` tells whether one has failed before. -/
structure FailsHalfway (h : House) (r : SessionRef) (before : Bool) : Prop where
  /-- A session ends one lifetime after its last use as long as no refresh has failed. -/
  onTime : (h.session r).EndsOnTime ↔ before = false
  /-- A refresh fails if one lifetime after the later of the last use and now is out of range. -/
  fails : (h.refresh r).2 = .error .outOfRange ↔
    ∃ services, (h.session r).services = some services ∧ Instant.last.second <
      max (h.session r).lastAccessedTime.second h.now.second +
        60 * services.settings.ttlMinutes.toNat
  /-- Then the time of the use and the address are noted, and nothing else has changed... -/
  noted : (h.refresh r).2 = .error .outOfRange →
    (h.refresh r).1 = h.setSession r { h.session r with
      lastAccessedTime := max (h.session r).lastAccessedTime h.now
      lastAccessedIp := h.address.resolve }
  /-- ... and they have not either only if that is how they were... -/
  unchanged : (h.refresh r).2 = .error .outOfRange →
    (((h.refresh r).1.session r).activity = (h.session r).activity ↔
      h.now ≤ (h.session r).lastAccessedTime ∧ h.address.resolve = (h.session r).lastAccessedIp)
  /-- ... which is never so the first time that a refresh fails. -/
  first : (h.refresh r).2 = .error .outOfRange → before = false →
    (h.session r).lastAccessedTime < h.now
  /-- Whatever happens later, the end stays where it was. -/
  leftBehind : (h.refresh r).2 = .error .outOfRange →
    ∀ later, LeftBehind ((h.refresh r).1.stepAll later) r (h.session r).expirationTime

/-- **At any point of any run, a refresh that fails has noted the use all the same, and the end of
the session is left behind for good.** -/
theorem refresh_fails_halfway (settings : SessionSettings) (now : Instant)
    (address : AddressSource) (auth : Option AuthModule) (steps : List Step) (r : SessionRef) :
    let start := fresh settings now address auth
    FailsHalfway (start.stepAll steps) r (start.everStrands r steps) := by
  intro start
  have hsound : Sound start := sound_fresh settings now address auth
  have hempty : start.session r = .empty := by cases r <;> rfl
  have hstart : (start.session r).EndsOnTime := by
    rw [hempty]
    exact Session.endsOnTime_empty
  have hstranded : ((start.stepAll steps).session r).Stranded ↔
      start.everStrands r steps = true := by
    rw [stranded_stepAll hsound, or_iff_right hstart.not_stranded]
  have hontime : ((start.stepAll steps).session r).EndsOnTime ↔
      start.everStrands r steps = false := by
    rw [← Bool.not_eq_true, ← hstranded]
    refine ⟨fun h => h.not_stranded, ?_⟩
    exact (endsOnTime_stepAll hsound (.inr hstart) steps).resolve_left
  constructor
  case onTime => exact hontime
  case fails => exact Session.refresh_eq_error_iff
  case noted => exact refresh_of_error
  case unchanged => exact activity_of_error
  case first =>
    intro hfailed hnone
    exact lt_now_of_error (hontime.2 hnone) hfailed
  case leftBehind => exact leftBehind_of_error (hsound.stepAll steps)

/-- Used when the clock has jumped ahead, a session is stranded, and it stays so when the clock is
set right again. -/
theorem stranded_by_a_clock_ahead :
    let start := fresh .default .epoch (.settable "here") none
    let steps : List Step :=
      [.event (.restore ⟨⟨7⟩, 1, "ada", "home", none, [], "", [], ""⟩),
       .event (.circumstance (.clock .last))]
    let later : List Step := [.event (.circumstance (.clock .epoch)), .event (.use 1 .refresh)]
    let h := start.stepAll steps
    (start.everStrands 1 steps = false ∧ (h.session 1).EndsOnTime) ∧
    ((h.refresh 1).2 = .error .outOfRange ∧ (h.session 1).lastAccessedTime < h.now ∧
      ((h.refresh 1).1.session 1).activity ≠ (h.session 1).activity) ∧
    LeftBehind ((h.refresh 1).1.stepAll later) 1 (h.session 1).expirationTime := by
  intro start steps later h
  have hnone : start.everStrands 1 steps = false := by decide +kernel
  have hfailed : (h.refresh 1).2 = .error .outOfRange := by decide +kernel
  have hmoved : ¬ h.now ≤ (h.session 1).lastAccessedTime := by decide +kernel
  have hall : FailsHalfway h 1 (start.everStrands 1 steps) :=
    refresh_fails_halfway .default .epoch (.settable "here") none steps 1
  refine ⟨⟨hnone, hall.onTime.2 hnone⟩, ⟨hfailed, hall.first hfailed hnone, ?_⟩,
    hall.leftBehind hfailed later⟩
  intro hsame
  exact hmoved ((hall.unchanged hfailed).1 hsame).1

/-- A session of twenty minutes that is used ten minutes before the last instant.  The refresh
fails, and the time and the address of the last use are new all the same. -/
theorem noted_though_it_failed :
    let start := fresh .default .epoch (.settable "here") none
    let late : Instant := ⟨Instant.last.second - 600, 999999999, by decide, by decide, by decide⟩
    let ending : Instant := ⟨1200, 0, by decide, by decide, by decide⟩
    let h := start.stepAll [.event (.restore ⟨⟨7⟩, 1, "ada", "home", none, [], "", [], ""⟩),
      .event (.circumstance (.clock late))]
    let before := h.session 1
    let after := (h.refresh 1).1.session 1
    (h.refresh 1).2 = .error .outOfRange ∧
      (before.lastAccessedTime = .epoch ∧ after.lastAccessedTime = late) ∧
      (before.lastAccessedIp = "home" ∧ after.lastAccessedIp = "here") ∧
      (before.expirationTime = ending ∧ after.expirationTime = ending) ∧
      after.services.map Session.lifetime = some (minutes 20) ∧
      after.lastAccessedTime.add? (minutes 20) ≠ some after.expirationTime := by
  decide +kernel

end House

end Gatehouse
