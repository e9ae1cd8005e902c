/-
What holds in every run of a house.

Sessions keep what they were made with, so whatever a reference designates has the
same id, the same rights and the same auth module for good (`SameOrigin`).  From this
and from what the stores ask of a session before they take it in, an entry of a store
stays filed under the id of its session (`Sound`).
-/
import Gatehouse.Proofs.House.Run

namespace Gatehouse.House

/-- What is true of the sessions and the stores of a house at any time. -/
structure Sound (h : House) : Prop where
  /-- The permissions of a session are read-only. -/
  readOnly : ∀ r, (h.session r).permissions.readOnly = true
  /-- A session other than the Empty one tells the auth module, if there is one. -/
  audited : ∀ r, (h.session r).isEmpty = false → (h.session r).audited = h.auth.isSome
  /-- What is stored is filed under its own id, and is not the Empty session. -/
  keyed : ∀ name key r, (h.store name).get? key = some r →
    (h.session r).id = key ∧ key.isEmpty = false

/-- No two sessions that were made carry one id. -/
def DistinctIds (h : House) : Prop :=
  ∀ r < h.sessions.length, ∀ r' < h.sessions.length, (h.session r).id = (h.session r').id → r = r'

variable {h h' : House}

/-- What is stored was made. -/
theorem Sound.lt_length (hs : Sound h) (name : StoreName) {key : SessionId} {r : SessionRef}
    (hr : (h.store name).get? key = some r) : r < h.sessions.length := by
  obtain ⟨hid, hkey⟩ := hs.keyed name key r hr
  exact lt_of_not_isEmpty (by rw [Session.isEmpty, hid]; exact hkey)

theorem sound_fresh (settings : SessionSettings) (now : Instant) (address : AddressSource)
    (auth : Option AuthModule) : Sound (fresh settings now address auth) := by
  have hempty : ∀ r, (fresh settings now address auth).session r = .empty := by
    intro r
    cases r <;> rfl
  refine ⟨fun r => by rw [hempty r]; rfl, fun r hr => ?_, fun name key r hr => ?_⟩
  · rw [hempty r] at hr
    cases hr
  · cases name <;> cases hr

/-! ### One move -/

theorem session_of_sessions (hsessions : h'.sessions = h.sessions) (r : SessionRef) :
    h'.session r = h.session r := by
  unfold session
  rw [hsessions]

theorem sessions_subscribe (h : House) (r : SessionRef) (types : List String) :
    (h.subscribe r types).sessions = h.sessions.set r ((h.session r).subscribe types) := by
  unfold subscribe
  dsimp only
  split <;> rfl

/-- A move leaves a session with what it was made with; only at the end there may be a new one. -/
theorem Move.session_cases (hs : Sound h) (m : Move h h') (r : SessionRef) :
    Session.SameOrigin (h.session r) (h'.session r) ∨
      r = h.sessions.length ∧ (h'.session r).services = some h.services ∧
        (h'.session r).permissions.readOnly = true := by
  have hset : ∀ r' s, Session.SameOrigin (h.session r') s →
      Session.SameOrigin (h.session r) ((h.setSession r' s).session r) := by
    intro r' s hsame
    rw [session_setSession]
    by_cases hr : r = r' ∧ r' < h.sessions.length
    · rw [if_pos hr, hr.1]
      exact hsame
    · rw [if_neg hr]
      exact .refl _
  cases m with
  | elsewhere hsessions _ _ _ _ =>
    rw [session_of_sessions hsessions]
    exact .inl (.refl _)
  | asked login => exact .inl (.refl _)
  | reported report => exact .inl (.refl _)
  | opened s hservices hpermissions =>
    rw [session_addSession]
    by_cases hr : r = h.sessions.length
    · rw [if_pos hr]
      exact .inr ⟨hr, hservices, hpermissions⟩
    · rw [if_neg hr]
      exact .inl (.refl _)
  | used r' u hu => exact .inl (hset r' _ (Session.after_sameOrigin (hs.readOnly r') u))
  | subscribed r' types =>
    have hsession := session_of_sessions (h := h.setSession r' ((h.session r').subscribe types))
      (sessions_subscribe h r' types) r
    rw [hsession]
    exact .inl (hset r' _ (Session.subscribe_keeps types))
  | stored name key r' _ _ _ =>
    rw [session_of_sessions (sessions_notifyFrom _ _ _), session_setStore]
    exact .inl (.refl _)
  | taken name key r' _ =>
    rw [session_of_sessions (sessions_notifyFrom _ _ _), session_setStore]
    exact .inl (.refl _)
  | cleared name =>
    unfold clear
    rw [session_of_sessions (sessions_notifyFrom _ _ _), session_setStore]
    exact .inl (.refl _)

theorem store_of_fields (hmain : h'.main = h.main) (hbare : h'.bare = h.bare) (name : StoreName) :
    h'.store name = h.store name := by
  cases name
  · exact hmain
  · exact hbare

theorem store_subscribe (h : House) (r : SessionRef) (types : List String) (name : StoreName) :
    (h.subscribe r types).store name = h.store name := by
  unfold subscribe
  dsimp only
  split
  · rw [store_notify]
    cases name <;> rfl
  · cases name <;> rfl

theorem get?_setStore {name other : StoreName} {store : Store} {key : SessionId} {r : SessionRef}
    (hr : ((h.setStore other store).store name).get? key = some r) :
    (h.store name).get? key = some r ∨ name = other ∧ store.get? key = some r := by
  rw [store_setStore] at hr
  by_cases hname : name = other
  · rw [if_pos hname] at hr
    exact .inr ⟨hname, hr⟩
  · rw [if_neg hname] at hr
    exact .inl hr

/-- What is stored after a move was stored before, or is what the move takes in. -/
theorem Move.store_cases (m : Move h h') {name : StoreName} {key : SessionId} {r : SessionRef}
    (hr : (h'.store name).get? key = some r) :
    (h.store name).get? key = some r ∨ (h.session r).id = key ∧ key.isEmpty = false := by
  cases m with
  | elsewhere _ hmain hbare _ _ =>
    rw [store_of_fields hmain hbare] at hr
    exact .inl hr
  | asked login =>
    rw [store_notify] at hr
    exact .inl hr
  | reported report =>
    rw [store_notify] at hr
    exact .inl hr
  | opened s _ _ =>
    rw [store_of_fields rfl rfl] at hr
    exact .inl hr
  | used r' u _ =>
    rw [store_of_fields rfl rfl] at hr
    exact .inl hr
  | subscribed r' types =>
    rw [store_subscribe] at hr
    exact .inl hr
  | stored other key' r' hid hkey _ =>
    rw [store_notifyFrom] at hr
    rcases get?_setStore hr with hbefore | ⟨rfl, hinserted⟩
    · exact .inl hbefore
    · rw [SortedMap.get?_insert] at hinserted
      by_cases hk : key = key'
      · rw [if_pos hk] at hinserted
        obtain rfl := Option.some.inj hinserted
        exact .inr ⟨hid.trans hk.symm, hk ▸ hkey⟩
      · rw [if_neg hk] at hinserted
        exact .inl hinserted
  | taken other key' r' _ =>
    rw [store_notifyFrom] at hr
    rcases get?_setStore hr with hbefore | ⟨rfl, hleft⟩
    · exact .inl hbefore
    · rw [SortedMap.get?_erase] at hleft
      by_cases hk : key = key'
      · rw [if_pos hk] at hleft
        cases hleft
      · rw [if_neg hk] at hleft
        exact .inl hleft
  | cleared other =>
    unfold clear at hr
    rw [store_notifyFrom] at hr
    rcases get?_setStore hr with hbefore | ⟨-, hleft⟩
    · exact .inl hbefore
    · cases hleft

theorem Move.auth_isSome (m : Move h h') : h'.auth.isSome = h.auth.isSome := by
  cases m with
  | elsewhere _ _ _ _ hauth => exact hauth
  | asked login => exact auth_notify h _
  | reported report => exact auth_notify h _
  | opened s _ _ => rfl
  | used r u _ => rfl
  | subscribed r types =>
    unfold subscribe
    dsimp only
    split
    · exact auth_notify _ _
    · rfl
  | stored name key r _ _ _ => rw [auth_notifyFrom, auth_setStore]
  | taken name key r _ => rw [auth_notifyFrom, auth_setStore]
  | cleared name => rw [clear, auth_notifyFrom, auth_setStore]

theorem auth_isSome_of_moves (moves : Moves h h') : h'.auth.isSome = h.auth.isSome := by
  induction moves with
  | refl => rfl
  | tail _ m ih => rw [m.auth_isSome, ih]

theorem Move.length_le (m : Move h h') : h.sessions.length ≤ h'.sessions.length := by
  cases m with
  | elsewhere hsessions _ _ _ _ => rw [hsessions]
  | asked login => exact Nat.le_refl _
  | reported report => exact Nat.le_refl _
  | opened s _ _ => simp [addSession]
  | used r u _ => simp [setSession]
  | subscribed r types => rw [sessions_subscribe, List.length_set]
  | stored name key r _ _ _ => rw [sessions_notifyFrom, sessions_setStore]
  | taken name key r _ => rw [sessions_notifyFrom, sessions_setStore]
  | cleared name => rw [clear, sessions_notifyFrom, sessions_setStore]

/-- A session that was made keeps what it was made with. -/
theorem Move.sameOrigin (hs : Sound h) (m : Move h h') {r : SessionRef}
    (hr : r < h.sessions.length) : Session.SameOrigin (h.session r) (h'.session r) := by
  rcases m.session_cases hs r with hsame | ⟨rfl, -⟩
  · exact hsame
  · exact absurd hr (Nat.lt_irrefl _)

theorem Sound.move (hs : Sound h) (m : Move h h') : Sound h' := by
  refine ⟨fun r => ?_, fun r hempty => ?_, fun name key r hr => ?_⟩
  · rcases m.session_cases hs r with hsame | ⟨-, -, hreadOnly⟩
    · rw [hsame.permissions]
      exact hs.readOnly r
    · exact hreadOnly
  · rw [m.auth_isSome]
    rcases m.session_cases hs r with hsame | ⟨-, hservices, -⟩
    · rw [hsame.audited]
      exact hs.audited r (hsame.isEmpty ▸ hempty)
    · rw [Session.audited, hservices]
      rfl
  · have hkeyed : (h.session r).id = key ∧ key.isEmpty = false := by
      rcases m.store_cases hr with hbefore | hnew
      · exact hs.keyed name key r hbefore
      · exact hnew
    -- What is filed under an id that is not zero was made, so the move has left it its id.
    have hlt : r < h.sessions.length :=
      lt_of_not_isEmpty (by rw [Session.isEmpty, hkeyed.1]; exact hkeyed.2)
    exact ⟨(m.sameOrigin hs hlt).id.trans hkeyed.1, hkeyed.2⟩

/-- Ids that are distinct after a move were so before. -/
theorem DistinctIds.of_move (hs : Sound h) (m : Move h h') (hd : DistinctIds h') :
    DistinctIds h := by
  intro r hr r' hr' hid
  have hle := m.length_le
  refine hd r (Nat.lt_of_lt_of_le hr hle) r' (Nat.lt_of_lt_of_le hr' hle) ?_
  rw [(m.sameOrigin hs hr).id, (m.sameOrigin hs hr').id, hid]

/-! ### Runs -/

/-- What holds at the start of a run and is kept by every move of a sound house holds at its end. -/
theorem run_preserves {P : House → Prop} (hs : Sound h) (hstart : P h)
    (hmove : ∀ {g g'}, Sound g → Move g g' → P g → P g') (events : List Event) :
    Sound (h.run events) ∧ P (h.run events) := by
  have hmoves : ∀ {g}, Moves h g → Sound g ∧ P g := by
    intro g moves
    induction moves with
    | refl => exact ⟨hs, hstart⟩
    | tail _ m ih => exact ⟨ih.1.move m, hmove ih.1 m ih.2⟩
  exact hmoves (moves_run h events)

end Gatehouse.House
