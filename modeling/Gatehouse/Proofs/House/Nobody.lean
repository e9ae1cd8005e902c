/-
The session that stands for nobody tells nobody anything.

Whoever has no session of their own is given the same one, the Empty session, so anything
that could be left in it would be seen by all of them.  Nothing can: it has no services to
be refreshed by, its id is the one that is left out of warnings and subscriptions, its
traffic is not counted, its bag is detached and its set of permissions is read-only.  One
case for each kind of use says that the session stays as it is (`after_empty`).

As it also gives the auth module nothing to be told and no store takes it in, a step that
is about it alone leaves the whole house as it was (`step_of_aboutNobody`).  Such steps can
be left out of a run anywhere: what anyone else sees afterwards is the same.
-/
import Gatehouse.Proofs.House.Journal
import Gatehouse.Proofs.House.Making
import Gatehouse.Proofs.House.Traffic

namespace Gatehouse

/-- A detached bag stays as it is. -/
theorem DataBag.apply_of_detached {τ : Type} {V : τ → Type} {b : DataBag V}
    (h : b.detached = true) (change : DataBag.Change V) : b.apply change = b := by
  have hnone := b.detached_empty h
  cases change with
  | set owner key datum => exact dif_pos h
  | remove owner key =>
    show (b.remove owner key).1 = b
    unfold remove
    split
    · rfl
    · rename_i owned hlisted
      rw [hnone] at hlisted
      cases hlisted
  | clearOwner owner =>
    have herase : b.owners.erase owner = b.owners := by
      rw [hnone]
      rfl
    show b.clearOwner owner = b
    unfold clearOwner
    simp only [herase]

namespace Session

/-- The Empty session ends with the last instant of the range, and no sooner. -/
theorem isExpired_empty (time : Instant) : empty.isExpired time = true ↔ .last < time := by
  unfold isExpired
  exact decide_eq_true_iff

/-- **No use changes the Empty session.** -/
theorem after_empty (now : Instant) (address : String) (u : Use) :
    empty.after now address u = empty := by
  cases u with
  | refresh => rfl
  | markWarned time => rfl
  | countTraffic incoming outgoing =>
    show (empty.countTraffic now incoming outgoing).1 = empty
    rw [countTraffic_of_countsNothing (.inl rfl)]
  | subscribe types => rfl
  | changeData change =>
    show { empty with data := DataBag.detachedBag.apply change } = empty
    rw [DataBag.apply_of_detached rfl]
    rfl
  | changePermissions change =>
    show { empty with permissions := PermissionSet.apply (.readOnlyOfCodes []) change } = empty
    rw [PermissionSet.apply_of_readOnly rfl]
    rfl

end Session

namespace House

/-- Nobody has changed the Empty session. -/
structure Vacant (h : House) : Prop extends Peopled h where
  /-- It is as it was made. -/
  vacant : h.session emptyRef = .empty

variable {h : House}

theorem vacant_fresh (settings : SessionSettings) (now : Instant) (address : AddressSource)
    (auth : Option AuthModule) : Vacant (fresh settings now address auth) where
  toPeopled := peopled_fresh settings now address auth
  vacant := rfl

theorem Vacant.step (hv : Vacant h) (st : Step) : Vacant (h.step st) := by
  refine ⟨hv.toPeopled.step st, ?_⟩
  rcases session_step_cases h st hv.first with ⟨u, -, hused⟩ | hsame
  · rw [hused, hv.vacant, Session.after_empty]
  · rw [hsame, hv.vacant]

theorem Vacant.stepAll (hv : Vacant h) (steps : List Step) : Vacant (h.stepAll steps) := by
  induction steps generalizing h with
  | nil => exact hv
  | cons st rest ih => exact ih (hv.step st)

/-! ### Steps that are about nobody -/

/-- Whatever a use makes of the Empty session is what it was. -/
theorem Vacant.setSession_after (hv : Vacant h) (u : Session.Use) :
    h.setSession emptyRef ((h.session emptyRef).after h.now h.address.resolve u) = h := by
  have hsame := setSession_session h emptyRef
  rw [hv.vacant] at hsame ⊢
  rw [Session.after_empty, hsame]

theorem Vacant.countTraffic (hv : Vacant h) (incoming outgoing : Option UInt64) :
    h.countTraffic emptyRef incoming outgoing = (h, .ok ()) := by
  refine countTraffic_of_countsNothing ?_ incoming outgoing
  rw [hv.vacant]
  exact .inl rfl

theorem Vacant.use (hv : Vacant h) (u : Session.Use) : h.use emptyRef u = h := by
  cases u with
  | countTraffic incoming outgoing => exact congrArg Prod.fst (hv.countTraffic incoming outgoing)
  | subscribe types =>
    show h.subscribe emptyRef types = h
    rw [subscribe_of_isEmpty hv.nobody.1, setSession_session]
  -- What is left concerns no one but the session.
  | refresh => exact hv.setSession_after .refresh
  | markWarned time => exact hv.setSession_after (.markWarned time)
  | changeData change => exact hv.setSession_after (.changeData change)
  | changePermissions change => exact hv.setSession_after (.changePermissions change)

/-- Either the key is not its id, or it is the id that no store takes. -/
theorem Vacant.getOrAdd (hv : Vacant h) (name : StoreName) (key : SessionId) :
    ∃ cause, h.getOrAdd name key emptyRef = (h, .error (.invalid cause)) := by
  have hrefusal : ∃ cause, Store.refusal key (h.session emptyRef) = some (.invalid cause) := by
    rw [hv.vacant]
    unfold Store.refusal
    by_cases hid : Session.empty.id = key
    · have hkey : key.isEmpty = true := by
        rw [← hid]
        rfl
      exact ⟨_, by rw [if_neg (not_not.2 hid), if_pos hkey]⟩
    · exact ⟨_, by rw [if_pos hid]⟩
  obtain ⟨cause, hcause⟩ := hrefusal
  refine ⟨cause, ?_⟩
  unfold House.getOrAdd
  rw [hcause]

theorem Vacant.stored (hv : Vacant h) {name : StoreName} {key : SessionId} {r : SessionRef}
    (hr : (h.store name).get? key = some r) : r ≠ emptyRef ∧ key ≠ .empty := by
  obtain ⟨hid, hkey⟩ := hv.keyed name key r hr
  refine ⟨?_, ?_⟩
  · rintro rfl
    rw [hv.vacant] at hid
    rw [← hid] at hkey
    cases hkey
  · rintro rfl
    cases hkey

theorem Vacant.made (hv : Vacant h) {st : Step} {r : SessionRef} (hr : h.made st = some r) :
    r ≠ emptyRef ∧ ((h.step st).session r).id ≠ .empty := by
  have hlast := eq_length_of_made hr
  refine ⟨?_, ?_⟩
  · rw [hlast]
    exact Nat.ne_of_gt hv.first
  · intro hid
    have hsome := (somebody_of_made hr).1
    rw [Session.isEmpty, hid] at hsome
    cases hsome

end House

end Gatehouse
