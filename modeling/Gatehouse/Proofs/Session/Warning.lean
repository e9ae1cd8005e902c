/-
When a warning is due.

A session does not note that it was used since it was last warned.  It notes for what time
it was warned, and a warning is due again once its latest use is after that.  So a warning
silences the session if the time it is for is not before the latest use (`Silenced`), and
only a use at a later time makes the session speak again.

Of what can be done with a session two things bear on this: a warning that is noted and a
refresh.
-/
import Gatehouse.Proofs.Session.Lifetime

namespace Gatehouse

namespace Session

variable {s : Session} {now : Instant} {address : String}

/-- The time lies within a window before the end, if there is such a window. -/
def EndIsNear (s : Session) (time : Instant) (window : Int) : Prop :=
  ∃ begins, s.expirationTime.sub? window = some begins ∧ begins ≤ time ∧ time ≤ s.expirationTime

/-- The session was warned for a time that its latest use is not after. -/
def Silenced (s : Session) : Prop :=
  ∃ sent, s.warningSent = some sent ∧ s.lastAccessedTime ≤ sent

/-! ### Asking -/

/-- **A warning is due when the end is near, unless the session is silenced.** -/
theorem needsWarning_eq_ok_true_iff {time : Instant} {window : Int} :
    s.needsWarning time window = .ok true ↔ s.EndIsNear time window ∧ ¬ s.Silenced := by
  unfold needsWarning EndIsNear Silenced
  by_cases hover : s.expirationTime < time
  · have hnot : ¬ time ≤ s.expirationTime := by
      rw [← Instant.not_lt_iff, not_not]
      exact hover
    simp [hover, hnot]
  · have hle : time ≤ s.expirationTime := Instant.not_lt_iff.1 hover
    rw [if_neg hover]
    cases hbegins : s.expirationTime.sub? window with
    | none => simp
    | some begins =>
      dsimp only
      by_cases hearly : time < begins
      · have hnot : ¬ begins ≤ time := by
          rw [← Instant.not_lt_iff, not_not]
          exact hearly
        simp [hearly, hnot]
      · have hbegun : begins ≤ time := Instant.not_lt_iff.1 hearly
        rw [if_neg hearly]
        cases hsent : s.warningSent with
        | none => simp [hbegun, hle]
        | some sent =>
          have hlater : ¬ s.lastAccessedTime ≤ sent ↔ sent < s.lastAccessedTime := by
            rw [← Instant.not_lt_iff, not_not]
          simp [hbegun, hle, hlater]

/-- A session that is silenced says so wherever there is an answer. -/
theorem Silenced.needsWarning (h : s.Silenced) {time begins : Instant} {window : Int}
    (hbegins : s.expirationTime.sub? window = some begins) :
    s.needsWarning time window = .ok false := by
  have hnot : s.needsWarning time window ≠ .ok true := by
    rw [Ne, needsWarning_eq_ok_true_iff]
    intro hdue
    exact hdue.2 h
  obtain ⟨sent, hsent, -⟩ := h
  unfold Session.needsWarning at hnot ⊢
  simp only [hbegins, hsent] at hnot ⊢
  split
  · rfl
  · split
    · rfl
    · simp_all

/-- No session is due a warning that has ended. -/
theorem not_isExpired_of_needsWarning {time : Instant} {window : Int}
    (h : s.needsWarning time window = .ok true) : s.isExpired time = false := by
  obtain ⟨⟨begins, -, -, hle⟩, -⟩ := needsWarning_eq_ok_true_iff.1 h
  exact decide_eq_false (Instant.not_lt_iff.2 hle)

/-! ### Using -/

/-- Apart from a warning that is noted, no use touches the warning. -/
theorem warningSent_after {u : Use} (hu : ∀ time, u ≠ .markWarned time) :
    (s.after now address u).warningSent = s.warningSent := by
  cases u with
  | refresh =>
    simp only [after, refresh]
    split
    · rfl
    · split <;> rfl
  | markWarned time => exact absurd rfl (hu time)
  | countTraffic incoming outgoing =>
    simp only [after, countTraffic]
    split
    · rfl
    · split
      · rfl
      · split
        · rfl
        · split <;> rfl
  | subscribe types =>
    simp only [after, subscribe]
    split <;> rfl
  | changeData change => rfl
  | changePermissions change => rfl

theorem warningSent_markWarned (hs : s.isEmpty = false) (time : Instant) :
    (s.markWarned time).warningSent = some time := by
  simp [markWarned, hs]

theorem markWarned_of_isEmpty (hs : s.isEmpty = true) (time : Instant) :
    s.markWarned time = s := by
  simp [markWarned, hs]

/-- A warning for a time that is not before the last use silences the session. -/
theorem silenced_markWarned (hs : s.isEmpty = false) {time : Instant}
    (hle : s.lastAccessedTime ≤ time) : (s.markWarned time).Silenced := by
  refine ⟨time, warningSent_markWarned hs time, ?_⟩
  simpa [markWarned, hs] using hle

/-- A warning for a time before the last use is not heard: what was due is due again. -/
theorem needsWarning_markWarned (hs : s.isEmpty = false) {time : Instant}
    (hlt : time < s.lastAccessedTime) {t : Instant} {window : Int} (hnear : s.EndIsNear t window) :
    (s.markWarned time).needsWarning t window = .ok true := by
  have hsame : s.markWarned time = { s with warningSent := some time } := by
    simp [markWarned, hs]
  rw [needsWarning_eq_ok_true_iff, hsame]
  refine ⟨hnear, ?_⟩
  rintro ⟨sent, hsent, hle⟩
  obtain rfl := Option.some.inj hsent
  exact Instant.not_le_iff.2 hlt hle

/-- A refresh counts as a use even if the new end cannot be represented. -/
theorem lastAccessedTime_refresh (hs : s.services ≠ none) :
    (s.refresh now address).1.lastAccessedTime = max s.lastAccessedTime now := by
  rcases refresh_cases s now address with
    ⟨hnone, -⟩ | ⟨services, -, ⟨-, heq⟩ | ⟨expiration, -, heq⟩⟩
  · exact absurd hnone hs
  · rw [heq]
  · rw [heq]

theorem lastAccessedTime_le_refresh :
    s.lastAccessedTime ≤ (s.refresh now address).1.lastAccessedTime := by
  rcases refresh_cases s now address with
    ⟨-, heq⟩ | ⟨services, -, ⟨-, heq⟩ | ⟨expiration, -, heq⟩⟩
  · rw [heq]
    exact Instant.le_refl _
  · rw [heq]
    exact Instant.le_max_left _ _
  · rw [heq]
    exact Instant.le_max_left _ _

/-! ### Making -/

theorem make_unwarned {id : SessionId} {r : LoginRequest} {services : Services}
    {resolved : String} (h : make id r services now resolved = .ok s) : s.warningSent = none := by
  unfold make at h
  split at h
  · cases h
  · cases h
    rfl

theorem ofRecord_unwarned {r : SessionRecord} {services : Services}
    (h : ofRecord r services now = .ok s) : s.warningSent = none := by
  unfold ofRecord at h
  cases hmade : make r.sessionId (requestOfRecord r) services now "" with
  | error e =>
    rw [hmade] at h
    cases h
  | ok made =>
    rw [hmade] at h
    have hsent := make_unwarned hmade
    cases h
    exact hsent

end Session

end Gatehouse
