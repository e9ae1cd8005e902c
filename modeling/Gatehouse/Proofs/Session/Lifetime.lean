/-
How long a session lives.

The end of a session is one lifetime after the latest moment at which it was made or
used.  The clock may go back between uses, so that moment is not the last one, and the
session alone does not tell what it was; what does is the list of all of them (`Life`).
A use adds a moment to the list and moves the end to where the list then says.  That is
back only if the last use overtakes the clock: a later moment in a leap second ends sooner
than an earlier one in the second before it.  Nothing else that is done with a session
touches its end.
-/
import Gatehouse.Proofs.Session.Use
import Gatehouse.Proofs.Time.LeapSeconds

namespace Gatehouse

/-! ### Lives -/

/-- When a session was made and used, and how long it lasts after that. -/
structure Life where
  /-- When it was made. -/
  made : Instant
  /-- How long it lasts, in minutes. -/
  lasting : Nat
  /-- When it was used since, in order. -/
  uses : List Instant
  deriving DecidableEq

namespace Life

/-- Every moment that counts. -/
def moments (life : Life) : List Instant := life.made :: life.uses

/-- The latest moment that counts. -/
def latest (life : Life) : Instant := life.uses.foldl max life.made

/-- The life after one more use. -/
def usedAt (life : Life) (now : Instant) : Life := { life with uses := life.uses ++ [now] }

/-- The seconds of the leap seconds in which it was made or used. -/
def leaps (life : Life) : List Int :=
  ((life.moments.filter fun t => t.InLeapSecond).map Instant.second).dedup

/-- Nanoseconds since the beginning of 1970, with these leap seconds counted. -/
def place (life : Life) (t : Instant) : Int :=
  t.nanos + 1000000000 * (life.leaps.countP fun s => s < t.second)

theorem latest_usedAt (life : Life) (now : Instant) :
    (life.usedAt now).latest = max life.latest now := by
  unfold latest usedAt
  rw [List.foldl_append]
  rfl

/-- The latest moment is the greatest of all. -/
theorem latest_greatest (life : Life) :
    life.latest ∈ life.moments ∧ ∀ t ∈ life.moments, t ≤ life.latest := by
  obtain ⟨made, lasting, uses⟩ := life
  unfold latest moments
  dsimp only
  induction uses using List.reverseRecOn with
  | nil => exact ⟨by simp, by simp [Instant.le_iff]⟩
  | append_singleton uses now ih =>
    obtain ⟨hmem, hle⟩ := ih
    rw [List.foldl_append, List.foldl_cons, List.foldl_nil, ← List.cons_append]
    refine ⟨?_, fun t ht => ?_⟩
    · rcases Instant.max_eq_or (uses.foldl max made) now with heq | heq
      · rw [heq]
        exact List.mem_append_left _ hmem
      · rw [heq]
        exact List.mem_append_right _ List.mem_cons_self
    · rw [Instant.le_iff, Instant.max_rank]
      rcases List.mem_append.1 ht with hbefore | hnow
      · have hlatest := Instant.le_iff.1 (hle t hbefore)
        omega
      · rw [List.mem_singleton.1 hnow]
        omega

end Life

namespace Session

/-- When the session was last used, from where, and when it ends. -/
def activity (s : Session) : Instant × String × Instant :=
  (s.lastAccessedTime, s.lastAccessedIp, s.expirationTime)

/-- The session has the times of a life. -/
structure Lives (s : Session) (life : Life) : Prop where
  /-- It was made when the life began. -/
  created : s.createdTime = life.made
  /-- It was last used at the latest moment. -/
  lastAccessed : s.lastAccessedTime = life.latest
  /-- It lasts as long as its services say. -/
  services : ∃ services, s.services = some services ∧
    services.settings.ttlMinutes.toNat = life.lasting
  /-- It ends when it has lasted so long. -/
  expiration : life.latest.add? (minutes life.lasting) = some s.expirationTime

variable {s : Session} {life : Life} {now : Instant} {address : String}

theorem Lives.isExpired_iff (h : s.Lives life) {time : Instant} :
    s.isExpired time = true ↔ life.latest.Lapsed life.lasting time := by
  unfold isExpired
  rw [decide_eq_true_iff, Instant.lapsed_iff, h.expiration]
  simp

/-! ### Making -/

theorem make_lives {id : SessionId} {r : LoginRequest} {services : Services} {resolved : String}
    (h : make id r services now resolved = .ok s) :
    s.Lives ⟨now, services.settings.ttlMinutes.toNat, []⟩ := by
  unfold make at h
  cases hend : now.add? (lifetime services) with
  | none =>
    rw [hend] at h
    cases h
  | some expiration =>
    rw [hend] at h
    cases h
    exact ⟨rfl, rfl, ⟨services, rfl, rfl⟩, hend⟩

theorem ofRecord_lives {r : SessionRecord} {services : Services}
    (h : ofRecord r services now = .ok s) :
    s.Lives ⟨now, services.settings.ttlMinutes.toNat, []⟩ := by
  unfold ofRecord at h
  cases hmade : make r.sessionId (requestOfRecord r) services now "" with
  | error e =>
    rw [hmade] at h
    cases h
  | ok made =>
    rw [hmade] at h
    obtain ⟨hcreated, hlast, hservices, hend⟩ := make_lives hmade
    cases h
    exact ⟨hcreated, hlast, hservices, hend⟩

/-! ### Using -/

/-- A refresh that succeeds, opened up. -/
theorem refresh_ok {services : Services} (hs : s.services = some services)
    (hok : (s.refresh now address).2.isOk = true) :
    ∃ expiration, (max s.lastAccessedTime now).add? (lifetime services) = some expiration ∧
      (s.refresh now address).1 = { s with
        lastAccessedTime := max s.lastAccessedTime now, lastAccessedIp := address
        expirationTime := expiration } := by
  rcases refresh_cases s now address with
    ⟨hnone, -⟩ | ⟨services', hs', ⟨-, heq⟩ | ⟨expiration, hend, heq⟩⟩
  · cases hs.symm.trans hnone
  · rw [heq] at hok
    cases hok
  · obtain rfl := Option.some.inj (hs.symm.trans hs')
    exact ⟨expiration, hend, congrArg Prod.fst heq⟩

theorem Lives.refresh (h : s.Lives life) (hok : (s.refresh now address).2.isOk = true) :
    (s.refresh now address).1.Lives (life.usedAt now) := by
  obtain ⟨services, hs, hlasting⟩ := h.services
  obtain ⟨expiration, hend, heq⟩ := refresh_ok hs hok
  rw [heq]
  rw [lifetime, hlasting, h.lastAccessed] at hend
  refine ⟨h.created, ?_, ⟨services, hs, hlasting⟩, ?_⟩
  · rw [life.latest_usedAt now, ← h.lastAccessed]
  · rw [life.latest_usedAt now]
    exact hend

theorem Lives.lastAccessedIp_refresh (h : s.Lives life)
    (hok : (s.refresh now address).2.isOk = true) :
    (s.refresh now address).1.lastAccessedIp = address := by
  obtain ⟨services, hs, -⟩ := h.services
  obtain ⟨expiration, -, heq⟩ := refresh_ok hs hok
  rw [heq]

theorem Lives.expiration_refresh (h : s.Lives life)
    (hok : (s.refresh now address).2.isOk = true) :
    (max life.latest now).add? (minutes life.lasting) =
      some (s.refresh now address).1.expirationTime := by
  rw [← life.latest_usedAt now]
  exact (h.refresh hok).expiration

/-- A refresh moves the end back if the last use overtakes the clock, and if there is a lifetime to be
added. -/
theorem Lives.refresh_lt_iff (h : s.Lives life) (hok : (s.refresh now address).2.isOk = true) :
    (s.refresh now address).1.expirationTime < s.expirationTime ↔
      life.lasting ≠ 0 ∧ s.lastAccessedTime.Overtakes now := by
  have hafter := h.expiration_refresh hok
  rw [h.lastAccessed, Instant.add?_minutes_lt_iff hafter h.expiration]
  by_cases hlasting : life.lasting = 0
  · have hle := Instant.not_lt_iff.2 (Instant.le_max_left life.latest now)
    rw [if_pos hlasting]
    exact iff_of_false hle fun hovertakes => hovertakes.1 hlasting
  · rw [if_neg hlasting, Instant.folded_max_lt_iff]
    exact (and_iff_right hlasting).symm

/-- A refresh puts the end off if the clock has passed the last use, with its leap second as well as
without. -/
theorem Lives.lt_refresh_iff (h : s.Lives life) (hok : (s.refresh now address).2.isOk = true) :
    s.expirationTime < (s.refresh now address).1.expirationTime ↔
      s.lastAccessedTime < now ∧
        (life.lasting ≠ 0 → s.lastAccessedTime.folded < now.folded) := by
  have hafter := h.expiration_refresh hok
  rw [h.lastAccessed, Instant.add?_minutes_lt_iff h.expiration hafter]
  by_cases hlasting : life.lasting = 0
  · rw [if_pos hlasting, Instant.lt_iff, Instant.lt_iff, Instant.max_rank]
    simp only [hlasting, ne_eq, not_true_eq_false, false_implies, and_true]
    omega
  · rw [if_neg hlasting, Instant.folded_lt_max_iff]
    exact and_congr_right fun _ => ⟨fun hlt _ => hlt, fun hlt => hlt hlasting⟩

/-- Outside leap seconds a refresh never moves the end back, and puts it off if the clock has passed
the last use. -/
theorem Lives.refresh_slides (h : s.Lives life) (hok : (s.refresh now address).2.isOk = true)
    (hplain : ¬ now.InLeapSecond) :
    s.expirationTime ≤ (s.refresh now address).1.expirationTime ∧
      (s.expirationTime < (s.refresh now address).1.expirationTime ↔ s.lastAccessedTime < now) := by
  constructor
  · rw [← Instant.not_lt_iff, h.refresh_lt_iff hok, Instant.overtakes_iff]
    rintro ⟨-, -, -, hleap, -⟩
    exact hplain hleap
  · rw [h.lt_refresh_iff hok]
    exact and_iff_left_of_imp fun hlt _ => Instant.folded_lt hplain hlt

/-- Apart from a refresh, a use touches neither the times of a session nor its address. -/
theorem activity_after {u : Use} (hu : u ≠ .refresh) :
    (s.after now address u).activity = s.activity := by
  cases u with
  | refresh => exact absurd rfl hu
  | markWarned time =>
    simp only [after, markWarned]
    split <;> rfl
  | countTraffic incoming outgoing =>
    simp only [after, countTraffic]
    split
    · rfl
    · split
      · rfl
      · split
        · rfl
        · split <;> rfl
  | subscribe types =>
    simp only [after, subscribe]
    split <;> rfl
  | changeData change => rfl
  | changePermissions change => rfl

/-- A session has the times of a life as long as it is not refreshed. -/
theorem Lives.of_sameOrigin (h : s.Lives life) {t : Session} (horigin : SameOrigin s t)
    (hactivity : t.activity = s.activity) : t.Lives life := by
  obtain ⟨hlast, hrest⟩ := Prod.ext_iff.1 hactivity
  obtain ⟨-, hend⟩ := Prod.ext_iff.1 hrest
  refine ⟨?_, ?_, ?_, ?_⟩
  · rw [horigin.createdTime, h.created]
  · exact hlast.trans h.lastAccessed
  · rw [horigin.services]
    exact h.services
  · have hsame : t.expirationTime = s.expirationTime := hend
    rw [hsame, h.expiration]

end Session

end Gatehouse
