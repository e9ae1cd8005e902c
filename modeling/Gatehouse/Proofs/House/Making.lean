/-
Who is in a house.

A session is made of a request or of a record.  What is minted has a lower half other than
zero, and a record with the id zero is refused, so nothing that is made stands for nobody:
the Empty session, which comes first, is the only one that does.  It is also the only one
without services.  Uses leave both as they are, so this holds in every run (`Peopled`).
-/
import Gatehouse.Proofs.House.Chronicle

namespace Gatehouse

namespace House

variable {h : House}

/-- What a step makes is made of a request or of a record. -/
theorem made_cases {st : Step} {r : SessionRef} (hr : h.made st = some r) :
    (∃ draw request id, st = .event (.create draw request) ∧ id.isEmpty = false ∧
      Session.make id request h.services h.now h.address.resolve =
        .ok ((h.step st).session r)) ∨
    ∃ record, st = .event (.restore record) ∧ record.sessionId.isEmpty = false ∧
      Session.ofRecord record h.services h.now = .ok ((h.step st).session r) := by
  have hlast := eq_length_of_made hr
  have hsession : ∀ s, (h.step st).sessions = h.sessions ++ [s] → (h.step st).session r = s := by
    intro s hsessions
    rw [session_of_sessions (h := (h.addSession s).1) hsessions, session_addSession, if_pos hlast]
  unfold made at hr
  split at hr
  · rename_i draw request
    rcases create_cases h draw request with ⟨id, s, hid, hs, -, hsessions⟩ | ⟨⟨e, he⟩, -⟩
    · refine .inl ⟨draw, request, id, rfl, hid, ?_⟩
      rw [hsession s hsessions]
      exact hs
    · rw [he] at hr
      cases hr
  · rename_i record
    rcases restore_cases h record with ⟨s, hid, hs, -, hsessions⟩ | ⟨⟨e, he⟩, -⟩
    · refine .inr ⟨record, rfl, hid, ?_⟩
      rw [hsession s hsessions]
      exact hs
    · rw [he] at hr
      cases hr
  · cases hr

/-! ### Everybody but the first is somebody -/

/-- The first session stands for nobody, and all others for somebody. -/
structure Peopled (h : House) : Prop extends Sound h where
  /-- There is a first session. -/
  first : emptyRef < h.sessions.length
  /-- It stands for nobody, and has no services. -/
  nobody : (h.session emptyRef).isEmpty = true ∧ (h.session emptyRef).services = none
  /-- Any other stands for somebody, and has services. -/
  somebody : ∀ r, r ≠ emptyRef → r < h.sessions.length →
    (h.session r).isEmpty = false ∧ (h.session r).services ≠ none

theorem peopled_fresh (settings : SessionSettings) (now : Instant) (address : AddressSource)
    (auth : Option AuthModule) : Peopled (fresh settings now address auth) where
  toSound := sound_fresh settings now address auth
  first := Nat.zero_lt_one
  nobody := ⟨rfl, rfl⟩
  somebody := fun _ hr hlt => absurd (Nat.lt_one_iff.1 hlt) hr

theorem somebody_of_made {st : Step} {r : SessionRef} (hr : h.made st = some r) :
    ((h.step st).session r).isEmpty = false ∧ ((h.step st).session r).services ≠ none := by
  rcases made_cases hr with ⟨draw, request, id, -, hid, hmade⟩ | ⟨record, -, hid, hmade⟩
  · obtain ⟨heq, hservices, -⟩ := Session.make_ok hmade
    refine ⟨?_, ?_⟩
    · rw [Session.isEmpty, heq]
      exact hid
    · rw [hservices]
      simp
  · obtain ⟨heq, hservices, -⟩ := Session.ofRecord_ok hmade
    refine ⟨?_, ?_⟩
    · rw [Session.isEmpty, heq]
      exact hid
    · rw [hservices]
      simp

theorem Peopled.step (hp : Peopled h) (st : Step) : Peopled (h.step st) := by
  have hfirst := sameOrigin_step hp.toSound st hp.first
  refine ⟨hp.toSound.step st, Nat.lt_of_lt_of_le hp.first (length_le_step h st), ?_, ?_⟩
  · rw [hfirst.isEmpty, hfirst.services]
    exact hp.nobody
  · intro r hr hlt
    rcases lt_length_or_made hlt with hbefore | hmade
    · have hsame := sameOrigin_step hp.toSound st hbefore
      rw [hsame.isEmpty, hsame.services]
      exact hp.somebody r hr hbefore
    · exact somebody_of_made hmade

theorem Peopled.stepAll (hp : Peopled h) (steps : List Step) : Peopled (h.stepAll steps) := by
  induction steps generalizing h with
  | nil => exact hp
  | cons st rest ih => exact ih (hp.step st)

end House

end Gatehouse
