/-
Logging in and out.

A program that logs in as a client keeps two things: what it was granted, until it logs out,
and the session it logged in with, for good.  The set that it logs in with is an object that
others go on changing, so the client has a copy of its own, which refuses to change and can
be reached by anybody who asks what the client holds.  A desk is the client together with the
objects.

A desk takes three kinds of act: a login, a logout, and whatever concerns sets alone
(`after_cases`).  From that, act by act, both cells tell of the same login, the latest.  The
client's own set shows what that login was granted because it refuses to change and is not
dropped (`Faithful`).

The session is kept as a number, and the number of the Empty session stands for none.  So
the latest login is forgotten if it was one with the Empty session, and then so are those
before it (`lastSessionId_run`).
-/
import Gatehouse.Access.Context
import Gatehouse.Proofs.Permission.Sharing

namespace Gatehouse

/-- The program as a client, the sets of the program, and which of them is the client's own. -/
structure Desk where
  client : Client
  sets : SetHeap
  own : Option SetRef

namespace Desk

/-! ### Acts -/

/-- What can be done at a desk. -/
inductive Act where
  /-- A set is made. -/
  | make (contents : PermissionSet)
  /-- A set is copied: as it is, or as one that may or may not change. -/
  | copy (set : SetRef) (readOnly : Option Bool)
  /-- A set is asked to change, be it the client's own. -/
  | change (set : SetRef) (change : PermissionSet.Change)
  /-- A set is dropped that is not the client's own. -/
  | drop (set : SetRef)
  /-- The program logs in with what a set holds now. -/
  | login (set : SetRef) (id : SessionId)
  /-- The program logs out. -/
  | logout

/-- A desk at which nobody has logged in, among some sets. -/
def start (sets : SetHeap) : Desk := ⟨.fresh, sets, none⟩

/-- What is granted by an act that is a login, and the session it is for.  There is no logging in
with a set that was dropped. -/
def logsIn (s : Desk) : Act → Option (PermissionSet × SessionId)
  | .login set id => (s.sets.view? set).map (·, id)
  | _ => none

/-- The desk after an act. -/
def after (s : Desk) : Act → Desk
  | .make contents => { s with sets := s.sets.make contents }
  | .copy set readOnly => { s with sets := s.sets.copy set readOnly }
  | .change set change => { s with sets := s.sets.change set change }
  | .drop set => if s.own = some set then s else { s with sets := s.sets.drop set }
  | .login set id =>
    match s.sets.view? set with
    | some granted =>
      ⟨s.client.login granted id, s.sets.copy set (some true), some s.sets.objects.length⟩
    | none => s
  | .logout => { s with client := s.client.logout, own := none }

/-- The desk after some acts. -/
def run (s : Desk) (acts : List Act) : Desk := acts.foldl after s

/-- Some login was not followed by a logout. -/
def StillIn (s : Desk) (acts : List Act) : Prop :=
  ComesAndStays (fun before a => ((s.run before).logsIn a).isSome = true)
    (fun _ a => a = .logout) acts

/-- The latest login was granted this and was for this session. -/
def LatestLogin (s : Desk) (granted : PermissionSet) (id : SessionId) (acts : List Act) : Prop :=
  ComesAndStays (fun before a => (s.run before).logsIn a = some (granted, id))
    (fun before a => ((s.run before).logsIn a).isSome = true) acts

theorem run_concat (s : Desk) (acts : List Act) (a : Act) :
    s.run (acts ++ [a]) = (s.run acts).after a := by
  unfold run
  rw [List.foldl_append]
  rfl

variable {s : Desk} {acts : List Act}

/-- An act is a login, a logout, or does not concern the client. -/
theorem after_cases (s : Desk) (a : Act) :
    (∃ granted id, s.logsIn a = some (granted, id) ∧
      (s.after a).client = s.client.login granted id) ∨
    (s.logsIn a = none ∧ a = .logout ∧ (s.after a).client = s.client.logout) ∨
    (s.logsIn a = none ∧ a ≠ .logout ∧ (s.after a).client = s.client) := by
  cases a with
  | login set id =>
    simp only [logsIn, after]
    cases hview : s.sets.view? set with
    | some granted => exact .inl ⟨granted, id, rfl, rfl⟩
    | none => exact .inr (.inr ⟨rfl, Act.noConfusion, rfl⟩)
  | logout => exact .inr (.inl ⟨rfl, rfl, rfl⟩)
  | drop set =>
    refine .inr (.inr ⟨rfl, Act.noConfusion, ?_⟩)
    unfold after
    dsimp only
    split <;> rfl
  | make contents => exact .inr (.inr ⟨rfl, Act.noConfusion, rfl⟩)
  | copy set readOnly => exact .inr (.inr ⟨rfl, Act.noConfusion, rfl⟩)
  | change set change => exact .inr (.inr ⟨rfl, Act.noConfusion, rfl⟩)

/-! ### The latest login -/

theorem latestLogin_concat {granted : PermissionSet} {id : SessionId} {a : Act} :
    s.LatestLogin granted id (acts ++ [a]) ↔
      s.LatestLogin granted id acts ∧ (s.run acts).logsIn a = none ∨
        (s.run acts).logsIn a = some (granted, id) := by
  unfold LatestLogin
  rw [comesAndStays_concat, Bool.not_eq_true, Option.isSome_eq_false_iff, Option.isNone_iff_eq_none]

theorem latestLogin_of_split (s : Desk) (before : List Act) {a : Act} {rest : List Act}
    {granted : PermissionSet} {id : SessionId} (ha : (s.run before).logsIn a = some (granted, id))
    (hrest : ∀ b ∈ rest, ∀ set id, b ≠ .login set id) :
    s.LatestLogin granted id (before ++ a :: rest) := by
  refine ⟨before, a, rest, rfl, ha, ?_⟩
  rintro since b others rfl hlogin
  cases b with
  | login set id => exact hrest _ (by simp) set id rfl
  | _ => cases hlogin

/-- The program is logged in while some login was not followed by a logout. -/
theorem isSome_current_run (sets : SetHeap) (acts : List Act) :
    ((start sets).run acts).client.current.isSome = true ↔ (start sets).StillIn acts := by
  unfold StillIn
  induction acts using List.reverseRecOn with
  | nil => simp [not_comesAndStays_nil, run, start, Client.fresh]
  | append_singleton acts a ih =>
    rw [run_concat, comesAndStays_concat, ← ih]
    rcases after_cases ((start sets).run acts) a with
      ⟨granted, id, hlogin, hclient⟩ | ⟨hlogin, hlogout, hclient⟩ | ⟨hlogin, hlogout, hclient⟩
    · simp [hclient, hlogin, Client.login]
    · subst hlogout
      simp [hclient, hlogin, Client.logout]
    · simp [hclient, hlogin, hlogout]

/-- **What the program holds is what it was granted by the latest login.** -/
theorem current_run (sets : SetHeap) (acts : List Act) {snapshot : ClientSnapshot}
    (h : ((start sets).run acts).client.current = some snapshot) :
    ∃ granted, (start sets).LatestLogin granted snapshot.sessionId acts ∧
      snapshot.permissions = granted.snapshot := by
  induction acts using List.reverseRecOn with
  | nil => cases h
  | append_singleton acts a ih =>
    rw [run_concat] at h
    rcases after_cases ((start sets).run acts) a with
      ⟨granted, id, hlogin, hclient⟩ | ⟨hlogin, hlogout, hclient⟩ | ⟨hlogin, hlogout, hclient⟩
    · rw [hclient] at h
      obtain rfl := Option.some.inj h
      exact ⟨granted, latestLogin_concat.2 (.inr hlogin), rfl⟩
    · rw [hclient] at h
      cases h
    · rw [hclient] at h
      obtain ⟨granted, hlatest, hpermissions⟩ := ih h
      exact ⟨granted, latestLogin_concat.2 (.inl ⟨hlatest, hlogin⟩), hpermissions⟩

theorem lastRaw_after_of_login {a : Act} {granted : PermissionSet} {id : SessionId}
    (ha : s.logsIn a = some (granted, id)) : (s.after a).client.lastRaw = id.raw := by
  rcases after_cases s a with ⟨granted', id', hlogin, hclient⟩ | ⟨hnot, -⟩ | ⟨hnot, -⟩
  · cases ha.symm.trans hlogin
    rw [hclient]
    rfl
  · cases ha.symm.trans hnot
  · cases ha.symm.trans hnot

theorem lastRaw_after_of_no_login {a : Act} (ha : s.logsIn a = none) :
    (s.after a).client.lastRaw = s.client.lastRaw := by
  rcases after_cases s a with ⟨granted, id, hlogin, -⟩ | ⟨-, -, hclient⟩ | ⟨-, -, hclient⟩
  · cases ha.symm.trans hlogin
  · rw [hclient]
    rfl
  · rw [hclient]

/-- The number that is kept is that of the latest login... -/
theorem lastRaw_of_latestLogin (sets : SetHeap) {granted : PermissionSet} {id : SessionId}
    (h : (start sets).LatestLogin granted id acts) :
    ((start sets).run acts).client.lastRaw = id.raw := by
  induction acts using List.reverseRecOn with
  | nil => exact (not_comesAndStays_nil h).elim
  | append_singleton acts a ih =>
    rw [run_concat]
    rcases latestLogin_concat.1 h with ⟨hbefore, hnot⟩ | hlogin
    · rw [lastRaw_after_of_no_login hnot, ih hbefore]
    · exact lastRaw_after_of_login hlogin

/-- ... and zero before there was one. -/
theorem exists_latestLogin (sets : SetHeap) (acts : List Act)
    (h : ((start sets).run acts).client.lastRaw ≠ 0) :
    ∃ granted id, (start sets).LatestLogin granted id acts := by
  induction acts using List.reverseRecOn with
  | nil => exact absurd rfl h
  | append_singleton acts a ih =>
    cases hlogin : ((start sets).run acts).logsIn a with
    | some login => exact ⟨login.1, login.2, latestLogin_concat.2 (.inr hlogin)⟩
    | none =>
      rw [run_concat, lastRaw_after_of_no_login hlogin] at h
      obtain ⟨granted, id, hlatest⟩ := ih h
      exact ⟨granted, id, latestLogin_concat.2 (.inl ⟨hlatest, hlogin⟩)⟩

/-- **The session that is known is that of the latest login, unless that was the Empty session.** -/
theorem lastSessionId_run (sets : SetHeap) (acts : List Act) (id : SessionId) :
    ((start sets).run acts).client.lastSessionId = some id ↔
      id ≠ .empty ∧ ∃ granted, (start sets).LatestLogin granted id acts := by
  have hraw : id ≠ .empty ↔ id.raw ≠ 0 := not_congr ⟨congrArg SessionId.raw, SessionId.ext⟩
  rw [hraw]
  unfold Client.lastSessionId
  constructor
  · intro hknown
    split at hknown
    · cases hknown
    · rename_i hne
      obtain rfl := Option.some.inj hknown
      obtain ⟨granted, id, hlatest⟩ := exists_latestLogin sets acts hne
      have hid := lastRaw_of_latestLogin sets hlatest
      rw [hid] at hne ⊢
      exact ⟨hne, granted, hlatest⟩
  · rintro ⟨hne, granted, hlatest⟩
    rw [lastRaw_of_latestLogin sets hlatest, if_neg hne]

/-! ### The client's own set -/

/-- While the program is logged in, the client's own set shows what it holds, and refuses to
change. -/
def Faithful (s : Desk) : Prop :=
  ∀ snapshot, s.client.current = some snapshot → snapshot.permissions.readOnly = true ∧
    ∃ own, s.own = some own ∧ s.sets.view? own = some snapshot.permissions

theorem faithful_start (sets : SetHeap) : (start sets).Faithful := by
  intro snapshot h
  cases h

/-- What concerns sets alone leaves what the client's own shows. -/
theorem Faithful.of_sets (hs : s.Faithful) {sets : SetHeap}
    (hsets : ∀ own granted, s.own = some own → s.sets.view? own = some granted →
      granted.readOnly = true → sets.view? own = some granted) :
    Faithful { s with sets := sets } := by
  intro snapshot hcurrent
  obtain ⟨hreadOnly, own, hown, hview⟩ := hs snapshot hcurrent
  exact ⟨hreadOnly, own, hown, hsets own _ hown hview hreadOnly⟩

theorem Faithful.after (hs : s.Faithful) (a : Act) : (s.after a).Faithful := by
  cases a with
  | make contents =>
    refine hs.of_sets fun own granted _ hview _ => ?_
    rw [SetHeap.view?_make, if_neg (Nat.ne_of_lt (SetHeap.lt_of_view? hview)), hview]
  | copy set readOnly =>
    refine hs.of_sets fun own granted _ hview _ => ?_
    rw [SetHeap.view?_copy, if_neg (Nat.ne_of_lt (SetHeap.lt_of_view? hview)), hview]
  | change set change =>
    refine hs.of_sets fun own granted _ hview hreadOnly => ?_
    exact SetHeap.view?_change_of_readOnly hview hreadOnly set change
  | drop set =>
    unfold Desk.after
    dsimp only
    split
    · exact hs
    · rename_i hne
      refine hs.of_sets fun own granted hown hview _ => ?_
      have hother : own ≠ set := fun heq => hne (heq ▸ hown)
      rw [SetHeap.view?_drop_of_ne hother, hview]
  | login set id =>
    unfold Desk.after
    dsimp only
    split
    · rename_i granted hview
      intro snapshot hcurrent
      obtain rfl := Option.some.inj hcurrent
      refine ⟨rfl, s.sets.objects.length, rfl, ?_⟩
      rw [SetHeap.view?_copy, if_pos rfl, hview]
      rfl
    · exact hs
  | logout =>
    intro snapshot hcurrent
    cases hcurrent

theorem Faithful.run (hs : s.Faithful) (acts : List Act) : (s.run acts).Faithful := by
  induction acts generalizing s with
  | nil => exact hs
  | cons a acts ih => exact ih (hs.after a)

/-! ### What the client tells -/

/-- **What a program holds as a client was granted by its latest login, unless it has logged out
since; the session of that login stays known, unless it was the Empty session.** -/
theorem tells_of_latest_login (sets : SetHeap) (acts : List Act) :
    let begin := start sets
    let s := begin.run acts
    -- The program is logged in while some login was not followed by a logout.
    (s.client.current.isSome = true ↔ begin.StillIn acts) ∧
    -- It then holds the session of the latest login and what was granted by it, as its set was
    -- then.  Whoever reaches the client's own set is shown the same, and cannot change it.
    (∀ snapshot, s.client.current = some snapshot →
      (∃ granted, begin.LatestLogin granted snapshot.sessionId acts ∧
        snapshot.permissions = granted.snapshot ∧
        snapshot.permissions.codes = granted.codes) ∧
      snapshot.permissions.readOnly = true ∧
      ∃ own, s.own = some own ∧ s.sets.view? own = some snapshot.permissions) ∧
    -- Its permissions alone are told alike.
    (∀ permissions, s.client.currentPermissions = some permissions ↔
      ∃ snapshot, s.client.current = some snapshot ∧ snapshot.permissions = permissions) ∧
    -- The session of the latest login is known unless it is the Empty session.
    (∀ id, s.client.lastSessionId = some id ↔
      id ≠ .empty ∧ ∃ granted, begin.LatestLogin granted id acts) ∧
    -- So nothing is forgotten exactly if the latest login, if any, was not for the Empty session.
    ((∀ id, s.client.lastSessionId = some id ↔ ∃ granted, begin.LatestLogin granted id acts) ↔
      ¬ ∃ granted, begin.LatestLogin granted .empty acts) := by
  intro begin s
  have hlast : ∀ id, s.client.lastSessionId = some id ↔
      id ≠ .empty ∧ ∃ granted, begin.LatestLogin granted id acts := lastSessionId_run sets acts
  refine ⟨isSome_current_run sets acts, ?_, fun _ => Option.map_eq_some_iff, hlast, ?_⟩
  · intro snapshot hcurrent
    obtain ⟨granted, hlatest, hpermissions⟩ := current_run sets acts hcurrent
    refine ⟨⟨granted, hlatest, hpermissions, ?_⟩, (faithful_start sets).run acts snapshot hcurrent⟩
    rw [hpermissions]
    rfl
  · constructor
    · intro hknown hempty
      exact ((hlast .empty).1 ((hknown .empty).2 hempty)).1 rfl
    · intro hnever id
      rw [hlast]
      refine ⟨And.right, fun hlatest => ⟨?_, hlatest⟩⟩
      rintro rfl
      exact hnever hlatest

/-- The second login counts, with what the set was then; neither a later change of the set nor one
of the client's own shows.  After the logout only the session is known. -/
theorem known_after_logout :
    let begin := start (SetHeap.empty.make (.ofCodes [⟨"A"⟩]))
    let acts : List Act :=
      [.login 0 ⟨5⟩, .logout, .login 0 ⟨7⟩, .change 0 (.add ⟨"C"⟩), .change 2 .clear]
    let held : ClientSnapshot := ⟨(PermissionSet.ofCodes [⟨"A"⟩]).snapshot, ⟨7⟩⟩
    let s := begin.run acts
    let left := begin.run (acts ++ [.logout])
    s.client.current = some held ∧ held.permissions.codes = [⟨"A"⟩] ∧
      (∃ own, s.own = some own ∧ s.sets.view? own = some held.permissions) ∧
      left.client.current = none ∧ left.client.lastSessionId = some ⟨7⟩ := by
  intro begin acts held s left
  have hcurrent : s.client.current = some held := rfl
  obtain ⟨-, hholds, -⟩ := tells_of_latest_login (SetHeap.empty.make (.ofCodes [⟨"A"⟩])) acts
  obtain ⟨-, -, -, hlast, -⟩ :=
    tells_of_latest_login (SetHeap.empty.make (.ofCodes [⟨"A"⟩])) (acts ++ [.logout])
  have hlatest : begin.LatestLogin (.ofCodes [⟨"A"⟩]) ⟨7⟩ (acts ++ [.logout]) :=
    latestLogin_of_split begin [.login 0 ⟨5⟩, .logout] rfl (by simp)
  exact ⟨hcurrent, rfl, (hholds held hcurrent).2.2, rfl, (hlast ⟨7⟩).2 ⟨by decide, _, hlatest⟩⟩

/-- A login with the Empty session is forgotten at once, and with it the one before. -/
theorem forgotten_login :
    let begin := start (SetHeap.empty.make (.ofCodes [⟨"A"⟩]))
    let acts : List Act := [.login 0 ⟨7⟩, .login 0 .empty]
    let s := begin.run acts
    begin.LatestLogin (.ofCodes [⟨"A"⟩]) .empty acts ∧
      s.client.current = some ⟨(PermissionSet.ofCodes [⟨"A"⟩]).snapshot, .empty⟩ ∧
      s.client.lastSessionId = none ∧
      ¬ ∀ id, s.client.lastSessionId = some id ↔ ∃ granted, begin.LatestLogin granted id acts := by
  intro begin acts s
  have hlatest : begin.LatestLogin (.ofCodes [⟨"A"⟩]) .empty acts :=
    latestLogin_of_split begin [.login 0 ⟨7⟩] rfl (by simp)
  have hnone : s.client.lastSessionId = none := rfl
  refine ⟨hlatest, rfl, hnone, fun hknown => ?_⟩
  cases hnone.symm.trans ((hknown .empty).2 ⟨_, hlatest⟩)

end Desk

end Gatehouse
