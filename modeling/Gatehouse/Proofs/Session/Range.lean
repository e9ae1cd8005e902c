/-
Times that stay in range.

A session works out times from the clock: it adds its lifetime to the time of its last use
and the interval of its reports to the time of the last report, and it takes the window of
a warning from its end.  What is added is a number of minutes in thirty-two bits.  So while
the clock keeps as many minutes away from the last instant as can be added at most
(`Instant.horizon`), no sum is out of range, whatever the settings are.

A difference is another matter, since the clock may be near the first instant.  It stays in
range because the window of valid settings is shorter than the lifetime: what is taken away
was added before, and leads back to no earlier second than that of the last use.
-/
import Gatehouse.Proofs.Session.Traffic
import Gatehouse.Proofs.Session.Warning
import Gatehouse.Proofs.Settings.Overrides

namespace Gatehouse

namespace Instant

/-- The last instant in no leap second to which every number of minutes in thirty-two bits can be
added. -/
def horizon : Instant :=
  ⟨last.second - 60 * (UInt32.size - 1), last.fraction, by decide, by decide, by decide⟩

theorem exists_add?_minutes {t : Instant} (ht : t ≤ horizon) (n : UInt32) :
    ∃ u, t.add? (minutes n.toNat) = some u := by
  have hhorizon : horizon.second = last.second - 60 * 4294967295 := rfl
  have hcount : n.toNat < 4294967296 := n.toNat_lt
  have hsecond : t.second ≤ horizon.second := by
    rcases ht with hlt | ⟨heq, -⟩
    · exact Int.le_of_lt hlt
    · exact Int.le_of_eq heq
  refine Option.ne_none_iff_exists'.1 fun hnone => ?_
  have hlate := add?_minutes_eq_none_iff.1 hnone
  omega

/-- Outside leap seconds, minutes can be taken from an instant if there are so many seconds before
it. -/
theorem exists_sub?_minutes {t : Instant} {n : Nat} (ht : ¬ t.InLeapSecond)
    (hn : first.second + 60 * n ≤ t.second) : ∃ u, t.sub? (minutes n) = some u := by
  have hfirst : first.second = -8334601228800 := rfl
  have hfraction : t.fraction < 1000000000 := Nat.not_le.1 ht
  have hupper := t.upper
  refine ⟨⟨t.second - 60 * n, t.fraction, ?_, ?_, t.fraction_lt⟩,
    (add?_eq_some_iff hfraction).2 ⟨hfraction, ?_⟩⟩
  · omega
  · omega
  · unfold nanos minutes
    dsimp only
    omega

end Instant

/-- Valid settings have the window of the warning shorter than the lifetime. -/
theorem SessionSettings.window_lt_ttl {settings : SessionSettings}
    (h : settings.validate = .ok ()) :
    settings.expirationWarningMinutes.toNat < settings.ttlMinutes.toNat :=
  UInt32.lt_iff_toNat_lt.1 (validate_eq_ok_iff.1 h).warned

namespace Session

variable {s : Session} {settings : SessionSettings} {services : Services} {now time : Instant}
  {address : String} {window : Int}

/-- The times of the session are those of a clock within the horizon, and it ends one lifetime after
its last use. -/
structure Timely (s : Session) (settings : SessionSettings) : Prop where
  /-- It was made under these settings. -/
  services : ∃ services, s.services = some services ∧ services.settings = settings
  /-- It was last used within the horizon... -/
  accessed : s.lastAccessedTime ≤ .horizon
  /-- ... and so it last reported its traffic. -/
  flushed : s.lastFlush ≤ .horizon
  /-- Its end is the sum of that time and the lifetime. -/
  expiration : s.lastAccessedTime.add? (minutes settings.ttlMinutes.toNat) =
    some s.expirationTime

/-! ### Making -/

/-- Within the horizon a session can be made of any request. -/
theorem make_ne_error {id : SessionId} {r : LoginRequest} {resolved : String} {e : DateOverflow}
    (hnow : now ≤ .horizon) : make id r services now resolved ≠ .error e := by
  obtain ⟨ending, hending⟩ := Instant.exists_add?_minutes hnow services.settings.ttlMinutes
  unfold make lifetime
  rw [hending]
  simp

theorem timely_of_lives (hlives : s.Lives ⟨now, services.settings.ttlMinutes.toNat, []⟩)
    (htraffic : s.traffic = (0, 0, s.createdTime)) (hservices : s.services = some services)
    (hnow : now ≤ .horizon) : s.Timely services.settings := by
  have hlast : s.lastAccessedTime = now := hlives.lastAccessed
  have hflush : s.lastFlush = s.createdTime := congrArg (fun t => t.2.2) htraffic
  constructor
  case services => exact ⟨services, hservices, rfl⟩
  case accessed =>
    rw [hlast]
    exact hnow
  case flushed =>
    rw [hflush, hlives.created]
    exact hnow
  case expiration =>
    rw [hlast]
    exact hlives.expiration

theorem make_timely {id : SessionId} {r : LoginRequest} {resolved : String}
    (h : make id r services now resolved = .ok s) (hnow : now ≤ .horizon) :
    s.Timely services.settings :=
  timely_of_lives (make_lives h) (make_traffic h) (make_ok h).2.1 hnow

theorem ofRecord_timely {r : SessionRecord} (h : ofRecord r services now = .ok s)
    (hnow : now ≤ .horizon) : s.Timely services.settings :=
  timely_of_lives (ofRecord_lives h) (ofRecord_traffic h) (ofRecord_ok h).2.1 hnow

/-! ### Using -/

/-- A refresh within the horizon succeeds, and the end is the sum again. -/
theorem Timely.refresh (h : s.Timely settings) (hnow : now ≤ .horizon) :
    (s.refresh now address).2 = .ok () ∧ (s.refresh now address).1.Timely settings := by
  obtain ⟨services, hservices, rfl⟩ := h.services
  have hlatest : max s.lastAccessedTime now ≤ .horizon := by
    rcases Instant.max_eq_or s.lastAccessedTime now with heq | heq
    · rw [heq]
      exact h.accessed
    · rw [heq]
      exact hnow
  obtain ⟨ending, hending⟩ := Instant.exists_add?_minutes hlatest services.settings.ttlMinutes
  rcases refresh_cases s now address with
    ⟨hnone, -⟩ | ⟨services', hs, ⟨hlate, -⟩ | ⟨expiration, hend, heq⟩⟩
  · cases hservices.symm.trans hnone
  · obtain rfl := Option.some.inj (hservices.symm.trans hs)
    cases hlate.symm.trans hending
  · obtain rfl := Option.some.inj (hservices.symm.trans hs)
    rw [heq]
    exact ⟨rfl, ⟨services, hservices, rfl⟩, hlatest, h.flushed, hend⟩

/-- Traffic is counted without fail, and if it is reported, then within the horizon. -/
theorem Timely.countTraffic (h : s.Timely settings) (hnow : now ≤ .horizon)
    (incoming outgoing : Option UInt64) :
    (∃ due, (s.countTraffic now incoming outgoing).2 = .ok due) ∧
      (s.countTraffic now incoming outgoing).1.Timely settings := by
  obtain ⟨due, hdue⟩ := Instant.exists_add?_minutes h.flushed s.trafficFlushMinutes
  unfold Session.countTraffic
  split
  · exact ⟨⟨_, rfl⟩, h⟩
  · dsimp only
    split
    · exact ⟨⟨_, rfl⟩, h.services, h.accessed, hnow, h.expiration⟩
    · rw [hdue]
      dsimp only
      split
      · exact ⟨⟨_, rfl⟩, h.services, h.accessed, h.flushed, h.expiration⟩
      · exact ⟨⟨_, rfl⟩, h.services, h.accessed, hnow, h.expiration⟩

/-- **Whatever is done with a session within the horizon, its times stay there.** -/
theorem Timely.after (h : s.Timely settings) (hnow : now ≤ .horizon) (u : Use) :
    (s.after now address u).Timely settings := by
  -- A use that touches none of the times leaves them where they are.
  have hsame : ∀ t : Session, t.services = s.services → t.lastAccessedTime = s.lastAccessedTime →
      t.lastFlush = s.lastFlush → t.expirationTime = s.expirationTime → t.Timely settings := by
    intro t hservices haccessed hflushed hexpiration
    constructor
    case services => rw [hservices]; exact h.services
    case accessed => rw [haccessed]; exact h.accessed
    case flushed => rw [hflushed]; exact h.flushed
    case expiration => rw [haccessed, hexpiration]; exact h.expiration
  cases u with
  | refresh => exact (h.refresh hnow).2
  | countTraffic incoming outgoing => exact (h.countTraffic hnow incoming outgoing).2
  | markWarned time =>
    simp only [Session.after, markWarned]
    split
    · exact h
    · exact hsame _ rfl rfl rfl rfl
  | subscribe types =>
    simp only [Session.after, subscribe]
    split
    · exact h
    · exact hsame _ rfl rfl rfl rfl
  | changeData change => exact hsame _ rfl rfl rfl rfl
  | changePermissions change => exact hsame _ rfl rfl rfl rfl

/-! ### Asking -/

/-- There is an answer about a warning wherever the window can be taken from the end. -/
theorem exists_needsWarning (h : ∃ begins, s.expirationTime.sub? window = some begins)
    (time : Instant) : ∃ due, s.needsWarning time window = .ok due := by
  obtain ⟨begins, hbegins⟩ := h
  unfold needsWarning
  rw [hbegins]
  dsimp only
  split
  · exact ⟨_, rfl⟩
  · split
    · exact ⟨_, rfl⟩
    · split
      · exact ⟨_, rfl⟩
      · exact ⟨_, rfl⟩

/-- The window of valid settings begins no second before the last use. -/
theorem Timely.exists_begins (h : s.Timely settings) (hvalid : settings.validate = .ok ()) :
    ∃ begins, s.expirationTime.sub? (minutes settings.expirationWarningMinutes.toNat) =
      some begins := by
  have hshort := SessionSettings.window_lt_ttl hvalid
  have hlower : Instant.first.second ≤ s.lastAccessedTime.second := s.lastAccessedTime.lower
  obtain ⟨hsecond, hfraction⟩ := Instant.add?_minutes_eq_some_iff.1 h.expiration
  rw [if_neg (by omega)] at hfraction
  have hleap : ¬ s.expirationTime.InLeapSecond := by
    unfold Instant.InLeapSecond
    omega
  exact Instant.exists_sub?_minutes hleap (by omega)

/-- The Empty session ends with the last instant, from which any window can be taken. -/
theorem exists_begins_empty (n : UInt32) :
    ∃ begins, empty.expirationTime.sub? (minutes n.toNat) = some begins := by
  have hcount : n.toNat < 4294967296 := n.toNat_lt
  have hfirst : Instant.first.second = -8334601228800 := rfl
  have hlast : empty.expirationTime.second = 8210266876799 := rfl
  exact Instant.exists_sub?_minutes (by decide) (by omega)

/-- A session has ended when its lifetime has passed since its last use. -/
theorem Timely.isExpired_iff (h : s.Timely settings) : s.isExpired time = true ↔
    s.lastAccessedTime.Lapsed settings.ttlMinutes.toNat time := by
  unfold isExpired
  rw [decide_eq_true_iff, Instant.lapsed_iff, h.expiration]
  simp

end Session

end Gatehouse
