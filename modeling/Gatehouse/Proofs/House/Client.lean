/-
The program as a client, in a run.

Of all that can be asked of a house only a login and a logout concern the program as a
client (`client_step`).  So after a run it is logged in if some login has been followed by
neither a logout nor another login, and then holds what the permissions were at that
login (`current_stepAll`).
-/
import Gatehouse.Proofs.House.Chronicle
import Gatehouse.Proofs.Permission.History

namespace Gatehouse

/-- The program as a client after a step. -/
def Client.after (c : Client) : House.Step → Client
  | .event (.circumstance (.login permissions id)) => c.login permissions id
  | .event (.circumstance .logout) => c.logout
  | _ => c

namespace House

/-- Whether a step is a login or a logout. -/
def Step.concernsClient : Step → Bool
  | .event (.circumstance (.login _ _)) => true
  | .event (.circumstance .logout) => true
  | _ => false

/-- There was a login with these permissions and this session, and since then neither a login nor a
logout. -/
def LoggedIn (permissions : PermissionSet) (id : SessionId) (steps : List Step) : Prop :=
  ComesAndStays (fun _ st => st = .event (.circumstance (.login permissions id)))
    (fun _ st => st.concernsClient = true) steps

variable {h : House}

/-! ### What concerns the program as a client -/

theorem client_turn (h : House) (c : Circumstance) :
    (h.turn c).client = h.client.after (.event (.circumstance c)) := by
  cases c with
  | advance amount =>
    simp only [turn, advance]
    cases h.now.add? amount <;> rfl
  | _ => rfl

theorem client_create (h : House) (draw : Draw) (request : LoginRequest) :
    (h.create draw request).1.client = h.client := by
  obtain ⟨ids, sessions, heq⟩ := create_house h draw request
  rw [heq]
  exact (sameAround_review h request.login).client

/-- Nothing but a login and a logout concerns the program as a client. -/
theorem client_step (h : House) (st : Step) : (h.step st).client = h.client.after st := by
  cases st with
  | settings next => rfl
  | event e =>
    cases e with
    | circumstance c => exact client_turn h c
    | create draw request => exact client_create h draw request
    | restore record => exact (sameAround_restore h record).client
    | use r u => exact (sameAround_use h r u).client
    | upkeep name u => exact (sameAround_keep h name u).client

/-! ### The last login -/

theorem current_step {st : Step} {snapshot : ClientSnapshot} :
    (h.step st).client.current = some snapshot ↔
      h.client.current = some snapshot ∧ ¬ st.concernsClient = true ∨
        ∃ permissions id, st = .event (.circumstance (.login permissions id)) ∧
          snapshot = ⟨permissions.snapshot, id⟩ := by
  rw [client_step]
  unfold Client.after Step.concernsClient
  split
  · rename_i permissions id
    simp only [Client.login]
    constructor
    · intro hcurrent
      exact .inr ⟨permissions, id, rfl, (Option.some.inj hcurrent).symm⟩
    · rintro (⟨-, hcontra⟩ | ⟨permissions', id', hlogin, hsnapshot⟩)
      · exact absurd trivial hcontra
      · cases hlogin
        rw [hsnapshot]
  · simp [Client.logout]
  · rename_i hlogin hlogout
    constructor
    · intro hcurrent
      exact .inl ⟨hcurrent, by simp⟩
    · rintro (⟨hcurrent, -⟩ | ⟨permissions, id, hst, -⟩)
      · exact hcurrent
      · exact (hlogin permissions id hst).elim

/-- **After a run the program is logged in as a client if some login was not followed by a logout, and
then holds what the permissions of the last login were when it logged in.** -/
theorem current_stepAll (hstart : h.client.current = none) (steps : List Step)
    {snapshot : ClientSnapshot} :
    (h.stepAll steps).client.current = some snapshot ↔
      ∃ permissions id, LoggedIn permissions id steps ∧
        snapshot = ⟨permissions.snapshot, id⟩ := by
  unfold LoggedIn
  induction steps using List.reverseRecOn with
  | nil => simp [not_comesAndStays_nil, stepAll, hstart]
  | append_singleton steps st ih =>
    rw [stepAll_concat, current_step, ih]
    constructor
    · rintro (⟨⟨permissions, id, hin, rfl⟩, hst⟩ | ⟨permissions, id, rfl, rfl⟩)
      · exact ⟨permissions, id, comesAndStays_concat.2 (.inl ⟨hin, hst⟩), rfl⟩
      · exact ⟨permissions, id, comesAndStays_concat.2 (.inr rfl), rfl⟩
    · rintro ⟨permissions, id, hin, rfl⟩
      rcases comesAndStays_concat.1 hin with ⟨hbefore, hst⟩ | hlogin
      · exact .inl ⟨⟨permissions, id, hbefore, rfl⟩, hst⟩
      · exact .inr ⟨permissions, id, hlogin, rfl⟩

end House

end Gatehouse
