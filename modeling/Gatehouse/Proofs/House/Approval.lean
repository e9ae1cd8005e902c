/-
Approvals, and the ids that they use up.

A session that is asked for must be approved first, and only then an id is minted for it.  A refusal
leaves nothing behind but what the auth module wrote down.  Everything else that can be asked of a
house (restoring sessions too, which bring their ids along) leaves the generator alone (`ids_step`).

So a run mints an id for each session that it creates and no others: the ids are those that the
generator gives for the draws of the approved requests, as if nothing had happened in between
(`createdIds_eq_mintAll`).
-/
import Gatehouse.Proofs.House.Chronicle
import Gatehouse.Proofs.Session.Minting

namespace Gatehouse

/-- An error other than a veto becomes a veto in its words. -/
theorem AuthModule.asVeto_of_ne {e : ServiceError} (h : ∀ reason, e ≠ .vetoed reason) :
    asVeto e = .vetoed e.message := by
  cases e with
  | vetoed reason => exact absurd rfl (h reason)
  | _ => rfl

namespace House

/-! ### Creations of a run -/

/-- The session that a step creates.  One that is brought back is not created. -/
def created (h : House) : Step → Option SessionRef
  | .event (.create draw request) => (h.create draw request).2.toOption
  | _ => none

/-- The draw that a step uses. -/
def used (h : House) : Step → Option Draw
  | .event (.create draw request) => (h.create draw request).2.toOption.map fun _ => draw
  | _ => none

/-- The ids of the sessions that some steps create, in order. -/
def createdIds (h : House) : List Step → List SessionId
  | [] => []
  | st :: rest =>
    ((h.created st).map fun r => ((h.step st).session r).id).toList ++ (h.step st).createdIds rest

/-- The draws that some steps use, in order. -/
def draws (h : House) : List Step → List Draw
  | [] => []
  | st :: rest => (h.used st).toList ++ (h.step st).draws rest

/-- Whether a step asks for a session whose end cannot be represented. -/
def overreaches (h : House) : Step → Bool
  | .event (.create draw request) =>
    match (h.create draw request).2 with
    | .error .overflow => true
    | _ => false
  | _ => false

/-- Whether all sessions that some steps ask for stay in range. -/
def createsInRange (h : House) : List Step → Bool
  | [] => true
  | st :: rest => !h.overreaches st && (h.step st).createsInRange rest

/-- A request for a session is refused for an error of the auth module, and leaves no trace. -/
structure Refused (h : House) (draw : Draw) (request : LoginRequest) (e : ServiceError) : Prop where
  /-- A veto is given as it is... -/
  veto : ∀ reason, e = .vetoed reason →
    (h.create draw request).2 = .error (.refused (.vetoed reason))
  /-- ... and any other error as a veto in its words. -/
  other : (∀ reason, e ≠ .vetoed reason) →
    (h.create draw request).2 = .error (.refused (.vetoed e.message))
  /-- No id is used up... -/
  ids : (h.create draw request).1.ids = h.ids
  /-- ... nothing happens to the sessions... -/
  sessions : (h.create draw request).1.sessions = h.sessions
  /-- ... nor to what is stored. -/
  stores : ∀ name, (h.create draw request).1.store name = h.store name

variable {h : House}

/-! ### One request -/

theorem review_eq_ok_iff {login : String} :
    (h.review login).2 = .ok () ↔ ∀ m, h.auth = some m → (m.review login).2 = .ok () := by
  unfold review
  cases h.auth with
  | none => simp
  | some m => simp

theorem store_review (h : House) (login : String) (name : StoreName) :
    (h.review login).1.store name = h.store name := by
  unfold review
  cases name <;> split <;> rfl

/-- **Where nothing overflows there is a session if and only if the review is passed.** -/
theorem create_isOk_iff {draw : Draw} {request : LoginRequest}
    (hrange : h.overreaches (.event (.create draw request)) = false) :
    (∃ r, (h.create draw request).2 = .ok r) ↔ (h.review request.login).2 = .ok () := by
  rcases create_outcomes h draw request with ⟨e, hreview, heq⟩ | ⟨hreview, ⟨s, -, heq⟩ | heq⟩
  · rw [heq, hreview]
    simp
  · rw [heq, hreview]
    simp
  · rw [overreaches, heq] at hrange
    cases hrange

theorem refused_of_review {draw : Draw} {request : LoginRequest} {e : ServiceError}
    (hreview : (h.review request.login).2 = .error e) : h.Refused draw request e := by
  have heq : h.create draw request =
      ((h.review request.login).1, .error (.refused (AuthModule.asVeto e))) := by
    rcases create_outcomes h draw request with ⟨e', hreview', heq⟩ | ⟨hreview', -⟩
    · obtain rfl : e' = e := Except.error.inj (hreview'.symm.trans hreview)
      exact heq
    · rw [hreview'] at hreview
      cases hreview
  constructor
  case veto =>
    intro reason hveto
    rw [heq, hveto]
    rfl
  case other =>
    intro hother
    rw [heq, AuthModule.asVeto_of_ne hother]
  case ids =>
    rw [heq]
    exact (sameAround_review h request.login).ids
  case sessions =>
    rw [heq]
    exact (review_keeps h request.login).1
  case stores =>
    rw [heq]
    exact store_review h request.login

/-! ### One step -/

theorem ids_turn (h : House) (c : Circumstance) : (h.turn c).ids = h.ids := by
  cases c with
  | advance amount =>
    simp only [turn, advance]
    cases h.now.add? amount <;> rfl
  | _ => rfl

/-- **A step creates a session with the next id, or leaves the generator as it was.** -/
theorem ids_step {st : Step} (hrange : h.overreaches st = false) :
    (∃ draw r, h.used st = some draw ∧ h.created st = some r ∧
      ((h.step st).session r).id = (h.ids.mint draw).1 ∧
      (h.step st).ids = (h.ids.mint draw).2) ∨
    h.used st = none ∧ h.created st = none ∧ (h.step st).ids = h.ids := by
  cases st with
  | settings next => exact .inr ⟨rfl, rfl, rfl⟩
  | event e =>
    cases e with
    | circumstance c => exact .inr ⟨rfl, rfl, ids_turn h c⟩
    | restore record => exact .inr ⟨rfl, rfl, (sameAround_restore h record).ids⟩
    | use r u => exact .inr ⟨rfl, rfl, (sameAround_use h r u).ids⟩
    | upkeep name u => exact .inr ⟨rfl, rfl, (sameAround_keep h name u).ids⟩
    | create draw request =>
      simp only [used, created, step, after]
      rcases create_outcomes h draw request with ⟨e, hreview, heq⟩ | ⟨-, ⟨s, hmade, heq⟩ | heq⟩
      · rw [heq]
        exact .inr ⟨rfl, rfl, (sameAround_review h request.login).ids⟩
      · have hid : (h.create draw request).1.session h.sessions.length = s := by
          have hsessions : (h.create draw request).1.sessions = (h.addSession s).1.sessions := by
            rw [heq]
            rfl
          rw [session_of_sessions hsessions, session_addSession, if_pos rfl]
        rw [heq] at hid ⊢
        refine .inl ⟨draw, h.sessions.length, rfl, rfl, ?_, rfl⟩
        rw [hid, (Session.make_ok hmade).1]
      · rw [overreaches, heq] at hrange
        cases hrange

/-! ### A run -/

theorem not_overreaches_of_split {before after : List Step} {st : Step}
    (hrange : h.createsInRange (before ++ st :: after) = true) :
    (h.stepAll before).overreaches st = false := by
  induction before generalizing h with
  | nil =>
    obtain ⟨hst, -⟩ := Bool.and_eq_true_iff.1 hrange
    exact Bool.not_eq_true' _ ▸ hst
  | cons first rest ih =>
    obtain ⟨-, hrest⟩ := Bool.and_eq_true_iff.1 hrange
    exact ih hrest

/-- **The ids of the sessions that are created are what the generator mints from their draws alone.** -/
theorem createdIds_eq_mintAll {steps : List Step} (hrange : h.createsInRange steps = true) :
    h.createdIds steps = h.ids.mintAll (h.draws steps) := by
  induction steps generalizing h with
  | nil => rfl
  | cons st rest ih =>
    obtain ⟨hst, hrest⟩ := Bool.and_eq_true_iff.1 hrange
    rw [createdIds, draws, ih hrest]
    rcases ids_step (Bool.not_eq_true' _ ▸ hst) with
      ⟨draw, r, hused, hcreated, hid, hids⟩ | ⟨hused, hcreated, hids⟩
    · rw [hused, hcreated, hids]
      simp [IdGenerator.mintAll, hid]
    · rw [hused, hcreated, hids]
      rfl

/-- **Only sessions that are approved use up ids.**  Whatever happens in a run, a session that is asked
for is created if and only if it is approved; otherwise there is a veto, and no trace of it.  Steps
that create nothing leave the generator alone, so that from one session to the next that is created
the upper half of the id moves by a single step, modulo its size. -/
theorem only_approvals_use_ids (h : House) (steps : List Step)
    (hrange : h.createsInRange steps = true) :
    (∀ before draw request after, steps = before ++ .event (.create draw request) :: after →
      ((∃ r, ((h.stepAll before).create draw request).2 = .ok r) ↔
        ∀ m, (h.stepAll before).auth = some m → (m.review request.login).2 = .ok ()) ∧
      ∀ m e, (h.stepAll before).auth = some m → (m.review request.login).2 = .error e →
        (h.stepAll before).Refused draw request e) ∧
    (∀ before st after, steps = before ++ st :: after → (h.stepAll before).created st = none →
      ((h.stepAll before).step st).ids = (h.stepAll before).ids) ∧
    (∀ k a b, (h.createdIds steps)[k]? = some a → (h.createdIds steps)[k + 1]? = some b →
      3 ≤ (b.sequence - a.sequence).toNat ∧ (b.sequence - a.sequence).toNat < 13) := by
  refine ⟨?_, ?_, ?_⟩
  · rintro before draw request after rfl
    have hst := not_overreaches_of_split hrange
    refine ⟨(create_isOk_iff hst).trans review_eq_ok_iff, fun m e hauth he => ?_⟩
    refine refused_of_review ?_
    rw [review, hauth]
    exact he
  · rintro before st after rfl hnone
    rcases ids_step (not_overreaches_of_split hrange) with ⟨draw, r, -, hcreated, -⟩ | ⟨-, -, hids⟩
    · rw [hnone] at hcreated
      cases hcreated
    · exact hids
  · intro k a b ha hb
    rw [createdIds_eq_mintAll hrange] at ha hb
    obtain ⟨d, -, hd⟩ := IdGenerator.sequence_sub_of_succ ha hb
    have hbounds := IdGenerator.toNat_step_bounds d
    rw [hd]
    omega

/-- Before a session is created and again after it one is vetoed and one is not approved as a disk is
full; in between one is brought back and one is not.  The next that is created has the next id, which
is past the wrap of the counter. -/
theorem next_id_after_refusals :
    let start := { fresh .default .epoch (.fixed "") (some (.fresh true)) with ids := ⟨0xFFFFFFF8⟩ }
    let request : LoginRequest := ⟨1, "ada", none, .empty, "en", none, "Suite", none⟩
    let first := IdGenerator.drawOf 6 (by decide)
    let next := IdGenerator.drawOf 3 (by decide)
    let refusals : List Step :=
      [.event (.circumstance (.veto (some "closed"))), .event (.create next request),
       .event (.circumstance (.veto none)),
       .event (.circumstance (.approvalError (some (.persistence "disk full")))),
       .event (.create next request), .event (.circumstance (.approvalError none))]
    let steps := refusals ++ .event (.create first request) ::
      .event (.restore ⟨⟨7⟩, 1, "ada", "home", none, [], "", [], ""⟩) ::
      .event (.restore ⟨⟨0⟩, 1, "ada", "home", none, [], "", [], ""⟩) ::
      (refusals ++ [.event (.create next request)])
    start.createsInRange steps = true ∧
    ((start.stepAll (refusals.take 1)).create next request).2 =
      .error (.refused (.vetoed "closed")) ∧
    ((start.stepAll (refusals.take 4)).create next request).2 =
      .error (.refused (.vetoed "Persistence error: disk full")) ∧
    start.createdIds steps = [.ofHalves 0xFFFFFFFE 1, .ofHalves 1 1] ∧
    3 ≤ ((SessionId.ofHalves 1 1).sequence - (SessionId.ofHalves 0xFFFFFFFE 1).sequence).toNat := by
  intro start request first next refusals steps
  have hrange : start.createsInRange steps = true := by decide +kernel
  obtain ⟨hcreate, -, hgap⟩ := only_approvals_use_ids start steps hrange
  have hclosed := (hcreate (refusals.take 1) next request (steps.drop 2) rfl).2 _
    (.vetoed "closed") rfl rfl
  have hfull := (hcreate (refusals.take 4) next request (steps.drop 5) rfl).2 _
    (.persistence "disk full") rfl rfl
  have hids : start.createdIds steps = [.ofHalves 0xFFFFFFFE 1, .ofHalves 1 1] := by decide +kernel
  rw [hids] at hgap
  exact ⟨hrange, hclosed.veto _ rfl, hfull.other fun reason => nofun, hids, (hgap 0 _ _ rfl rfl).1⟩

end House

end Gatehouse
