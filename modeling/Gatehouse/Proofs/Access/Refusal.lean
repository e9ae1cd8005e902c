/-
What a check refuses, and in which words.

Whether a check passes and what it answers otherwise are two questions, and they look at
different things.  The first is settled by who is answerable and by the policy (`Permits`), the
second by who is answerable and by whoever words denials (`refusal`).  A check for one of
several codes passes if one of them is permitted, and refuses the first of them otherwise
(`checkAny_of_permits`, `checkAny_of_not_permits`), so it is the disjunction of single checks.

Since the first question does not look at wordings, two chains that differ in nothing else
pass together; and since the second gives each refusal its kind and its code before it is
worded, they fail alike but for the words (`evaluateAll_alike`).
-/
import Gatehouse.Proofs.Access.Discretion

namespace Gatehouse

/-- Whoever is answerable may do what the code stands for, with this policy for nobody. -/
def Active.Permits (policy : UnboundPolicy) (code : String) : Active Session → Prop
  | .session s => s.isEmpty = false ∧ s.permissions.contains code = true
  | .client snapshot => snapshot.permissions.contains code = true
  | .system => True
  | .unbound => policy = .allow

/-! ### Single checks and checks for one of several codes -/

namespace Checker

/-- What a check for the code answers if it does not pass. -/
def refusal (c : Checker) (around : Surroundings) (code : String) : Fault :=
  match around.active with
  | .session s =>
    if s.isEmpty then .notLoggedOn
    else .denied (c.denial around.registries code s.knownCulture)
  | .client _ => .denied (c.denial around.registries code none)
  | _ => .notLoggedOn

variable {c : Checker} {around : Surroundings}

theorem refusal_of_session {s : Session} (h : around.active = .session s) (hs : s.isEmpty = false)
    (code : String) :
    c.refusal around code = .denied (c.denial around.registries code s.knownCulture) := by
  simp [refusal, h, hs]

theorem refusal_of_emptySession {s : Session} (h : around.active = .session s)
    (hs : s.isEmpty = true) (code : String) : c.refusal around code = .notLoggedOn := by
  simp [refusal, h, hs]

theorem checkAny_of_permits {first : String} {rest : List String}
    (h : ∃ code ∈ first :: rest, around.active.Permits c.policy code) :
    c.checkAny around (first :: rest) = .ok () := by
  obtain ⟨code, hcode, hpermits⟩ := h
  cases hactive : around.active with
  | session s =>
    rw [hactive] at hpermits
    rw [checkAny_of_session hactive hpermits.1, checkAnyOf_eq, if_pos ⟨code, hcode, hpermits.2⟩]
  | client snapshot =>
    rw [hactive] at hpermits
    rw [checkAny_of_client hactive, checkAnyOf_eq, if_pos ⟨code, hcode, hpermits⟩]
  | system => exact checkAny_of_system hactive _
  | unbound =>
    rw [hactive] at hpermits
    rw [checkAny_of_unbound hactive]
    exact if_pos hpermits

/-- If none of the codes is permitted, the first is refused. -/
theorem checkAny_of_not_permits {first : String} {rest : List String}
    (h : ¬ ∃ code ∈ first :: rest, around.active.Permits c.policy code) :
    c.checkAny around (first :: rest) = .error (c.refusal around first) := by
  cases hactive : around.active with
  | session s =>
    rw [hactive] at h
    cases hs : s.isEmpty with
    | true => rw [checkAny_of_emptySession hactive hs, refusal_of_emptySession hactive hs]
    | false =>
      have hnone : ¬ ∃ code ∈ first :: rest, s.permissions.contains code = true :=
        fun ⟨code, hcode, hcontains⟩ => h ⟨code, hcode, hs, hcontains⟩
      rw [checkAny_of_session hactive hs, checkAnyOf_eq, if_neg hnone,
        refusal_of_session hactive hs]
  | client snapshot =>
    rw [hactive] at h
    have hnone : ¬ ∃ code ∈ first :: rest, snapshot.permissions.contains code = true := h
    rw [checkAny_of_client hactive, checkAnyOf_eq, if_neg hnone]
    simp only [refusal, hactive]
  | system =>
    rw [hactive] at h
    exact absurd ⟨first, by simp, trivial⟩ h
  | unbound =>
    rw [hactive] at h
    have hdeny : ¬ c.policy = .allow := fun hallow => h ⟨first, by simp, hallow⟩
    rw [checkAny_of_unbound hactive, if_neg hdeny]
    simp only [refusal, hactive]

theorem check_of_permits {code : String} (h : around.active.Permits c.policy code) :
    c.check around code = .ok () := by
  rw [check_eq_checkAny]
  exact checkAny_of_permits ⟨code, by simp, h⟩

theorem check_of_not_permits {code : String} (h : ¬ around.active.Permits c.policy code) :
    c.check around code = .error (c.refusal around code) := by
  rw [check_eq_checkAny]
  exact checkAny_of_not_permits (by simpa using h)

theorem check_eq_ok_iff {code : String} :
    c.check around code = .ok () ↔ around.active.Permits c.policy code := by
  refine ⟨fun hok => ?_, check_of_permits⟩
  by_contra hnot
  rw [check_of_not_permits hnot] at hok
  cases hok

/-- **A check for one of several codes is the disjunction of the checks for each.**  It passes where
one of those passes, and otherwise it answers as the check for the first: in a session that is
logged on, with the denial of that code in the words for the session's culture. -/
theorem checkAny_passes_by_one (c : Checker) (around : Surroundings) :
    c.checkAny around [] = .ok () ∧
    ∀ first rest,
      (c.checkAny around (first :: rest) = .ok () ↔
        ∃ code ∈ first :: rest, c.check around code = .ok ()) ∧
      ((∀ code ∈ first :: rest, c.check around code ≠ .ok ()) →
        ∃ fault, c.check around first = .error fault ∧
          c.checkAny around (first :: rest) = .error fault ∧
          ∀ s, around.active = .session s → s.isEmpty = false →
            fault = .denied (c.denial around.registries first s.knownCulture)) := by
  refine ⟨rfl, fun first rest => ?_⟩
  simp only [ne_eq, check_eq_ok_iff]
  refine ⟨⟨fun hok => ?_, checkAny_of_permits⟩, fun hnone => ?_⟩
  · by_contra hnot
    rw [checkAny_of_not_permits hnot] at hok
    cases hok
  · refine ⟨c.refusal around first, check_of_not_permits (hnone first (by simp)), ?_, ?_⟩
    · exact checkAny_of_not_permits fun ⟨code, hcode, hpermits⟩ => hnone code hcode hpermits
    · intro s hactive hs
      exact refusal_of_session hactive hs first

/-- A checker whose denials name the culture they are for. -/
def bilingual : Checker :=
  ⟨.allow, some (.custom fun code culture => culture.map (code ++ " in " ++ ·))⟩

/-- A session in German that may edit. -/
def germanEditor : Session :=
  { Session.empty with id := ⟨2⟩, culture := "de-DE", permissions := .readOnlyOfCodes [⟨"edit"⟩] }

/-- The editor passes where editing is one way to pass, in whatever spelling, and is refused the
first of the codes where it is none. -/
theorem editor_may_not_audit :
    let around : Surroundings := ⟨.session germanEditor, fun _ => ∅⟩
    bilingual.checkAny around ["audit", "EDIT"] = .ok () ∧
    bilingual.checkAny around ["audit", "Audit", "admin"] =
      .error (.denied ⟨"audit", "audit in de-DE"⟩) := by
  intro around
  obtain ⟨-, hlist⟩ := checkAny_passes_by_one bilingual around
  have hedit : germanEditor.permissions.contains "EDIT" = true := by decide +kernel
  have hmissing : ∀ code ∈ ["audit", "Audit", "admin"],
      germanEditor.permissions.contains code = false := by
    decide +kernel
  have hrefused : ∀ code ∈ ["audit", "Audit", "admin"], bilingual.check around code ≠ .ok () := by
    intro code hcode hok
    have hholds := (check_eq_ok_iff.1 hok).2
    rw [hmissing code hcode] at hholds
    cases hholds
  refine ⟨(hlist "audit" ["EDIT"]).1.2 ⟨"EDIT", by simp, check_of_permits ⟨rfl, hedit⟩⟩, ?_⟩
  obtain ⟨fault, -, hany, hwords⟩ := (hlist "audit" ["Audit", "admin"]).2 hrefused
  rw [hany, hwords germanEditor rfl rfl]
  rfl

end Checker

/-! ### Answers that differ in their words -/

namespace Fault

/-- Two faults that differ in the wording of a denial at most. -/
inductive Reworded : Fault → Fault → Prop
  /-- They are the same. -/
  | same (fault : Fault) : Reworded fault fault
  /-- They deny the same code. -/
  | denied (code message message' : String) :
    Reworded (.denied ⟨code, message⟩) (.denied ⟨code, message'⟩)

variable {f f' : Fault}

theorem Reworded.kind (h : f.Reworded f') : f'.kind = f.kind := by
  cases h <;> rfl

theorem Reworded.deniedCode (h : f.Reworded f') : f'.deniedCode = f.deniedCode := by
  cases h <;> rfl

end Fault

/-- Two answers that differ in the wording of a denial at most. -/
inductive AlikeButWords : Except Fault Unit → Except Fault Unit → Prop
  /-- Both pass. -/
  | ok : AlikeButWords (.ok ()) (.ok ())
  /-- Both fail. -/
  | error {f f' : Fault} (h : f.Reworded f') : AlikeButWords (.error f) (.error f')

theorem AlikeButWords.refl : (answer : Except Fault Unit) → AlikeButWords answer answer
  | .ok () => .ok
  | .error f => .error (.same f)

theorem AlikeButWords.ok_iff {answer answer' : Except Fault Unit}
    (h : AlikeButWords answer answer') : answer = .ok () ↔ answer' = .ok () := by
  cases h <;> simp

theorem AlikeButWords.reworded {answer answer' : Except Fault Unit} {f : Fault}
    (h : AlikeButWords answer answer') (hf : answer = .error f) :
    ∃ f', answer' = .error f' ∧ f.Reworded f' := by
  subst hf
  cases h with
  | error h => exact ⟨_, rfl, h⟩

section TwoCheckers

variable {checker checker' : Checker} {active : Active Session}
  {registries registries' : Registries}

theorem Checker.refusal_reworded (active : Active Session) (registries registries' : Registries)
    (code : String) :
    (checker.refusal ⟨active, registries⟩ code).Reworded
      (checker'.refusal ⟨active, registries'⟩ code) := by
  cases active with
  | session s =>
    cases hs : s.isEmpty with
    | true =>
      rw [refusal_of_emptySession rfl hs, refusal_of_emptySession rfl hs]
      exact .same _
    | false =>
      rw [refusal_of_session rfl hs, refusal_of_session rfl hs]
      exact .denied code _ _
  | client snapshot => exact .denied code _ _
  | system => exact .same _
  | unbound => exact .same _

/-- What needs a session asks no checker. -/
theorem Requirement.evaluate_of_needsSession_congr {q : Requirement} (hneeds : q.NeedsSession) :
    q.evaluate checker ⟨active, registries⟩ = q.evaluate checker' ⟨active, registries'⟩ := by
  cases q with
  | session => rfl
  | license policy => rfl
  | _ => exact absurd hneeds id

theorem Requirement.evaluate_alike {q : Requirement} (hq : q.IsBuiltIn)
    (hpolicy : checker'.policy = checker.policy) :
    AlikeButWords (q.evaluate checker ⟨active, registries⟩)
      (q.evaluate checker' ⟨active, registries'⟩) := by
  by_cases hneeds : q.NeedsSession
  · rw [evaluate_of_needsSession_congr hneeds]
    exact .refl _
  · rw [evaluate_eq_checkAny hq hneeds, evaluate_eq_checkAny hq hneeds]
    cases q.codes with
    | nil => exact .ok
    | cons first rest =>
      by_cases hone : ∃ code ∈ first :: rest, active.Permits checker.policy code
      · rw [Checker.checkAny_of_permits hone, Checker.checkAny_of_permits (hpolicy ▸ hone)]
        exact .ok
      · rw [Checker.checkAny_of_not_permits hone, Checker.checkAny_of_not_permits (hpolicy ▸ hone)]
        exact .error (Checker.refusal_reworded active registries registries' first)

/-- Requirements that are answered alike are so as a chain. -/
theorem evaluateAll_alike {around around' : Surroundings} {rs : List Requirement}
    (h : ∀ q ∈ rs, AlikeButWords (q.evaluate checker around) (q.evaluate checker' around')) :
    AlikeButWords (evaluateAll checker around rs) (evaluateAll checker' around' rs) := by
  induction rs with
  | nil => exact .ok
  | cons q rs ih =>
    have hq := h q (by simp)
    have hrest := ih fun p hp => h p (by simp [hp])
    rw [evaluateAll, evaluateAll]
    cases hleft : q.evaluate checker around <;> cases hright : q.evaluate checker' around' <;>
      rw [hleft, hright] at hq <;> cases hq
    · exact .error ‹_›
    · exact hrest

end TwoCheckers

namespace Chain

/-- **Wording never decides access.**  Two chains that require the same, with the same policy for
nobody but denials worded by whomever and from whatever registries, pass together or fail with the
same kind of fault and the same code, and nothing but the words of a denial differs. -/
theorem wording_never_decides (c c' : Chain) (hc : c.IsBuiltIn)
    (hsame : c'.requirements = c.requirements) (hpolicy : c'.checker.policy = c.checker.policy)
    (active : Active Session) (registries registries' : Registries) :
    (c.evaluate ⟨active, registries⟩ = .ok () ↔ c'.evaluate ⟨active, registries'⟩ = .ok ()) ∧
    ∀ fault, c.evaluate ⟨active, registries⟩ = .error fault →
      ∃ fault', c'.evaluate ⟨active, registries'⟩ = .error fault' ∧ fault.Reworded fault' ∧
        fault'.kind = fault.kind ∧ fault'.deniedCode = fault.deniedCode := by
  have halike :
      AlikeButWords (c.evaluate ⟨active, registries⟩) (c'.evaluate ⟨active, registries'⟩) := by
    unfold evaluate
    rw [hsame]
    exact evaluateAll_alike fun q hq => q.evaluate_alike (hc q hq) hpolicy
  refine ⟨halike.ok_iff, fun fault hfault => ?_⟩
  obtain ⟨fault', hfault', hreworded⟩ := halike.reworded hfault
  exact ⟨fault', hfault', hreworded, hreworded.kind, hreworded.deniedCode⟩

/-- The editor is refused the right to audit in plain words, and where the registry of all knows
what auditing is called, in words that say so. -/
theorem refused_in_other_words :
    let active : Active Session := .session Checker.germanEditor
    let plain : Chain := { seatedAudit with checker := .default }
    let knowing : Registries := fun _ => Registry.empty.register ⟨⟨"AUDIT"⟩, "Auditing", none⟩
    plain.evaluate ⟨active, fun _ => ∅⟩ =
      .error (.denied ⟨"audit", "access denied: permission 'audit' is required"⟩) ∧
    ∃ fault, seatedAudit.evaluate ⟨active, knowing⟩ = .error fault ∧
      fault.kind = "access_denied" ∧ fault.deniedCode = some "audit" ∧
      fault.message = "access denied: permission 'Auditing' (audit) is required" := by
  intro active plain knowing
  have hplain : plain.evaluate ⟨active, fun _ => ∅⟩ =
      .error (.denied ⟨"audit", "access denied: permission 'audit' is required"⟩) := by
    decide +kernel
  have hbuilt : plain.IsBuiltIn := by
    simp [plain, seatedAudit, IsBuiltIn, Requirement.IsBuiltIn]
  obtain ⟨-, hfails⟩ :=
    wording_never_decides plain seatedAudit hbuilt rfl rfl active (fun _ => ∅) knowing
  obtain ⟨fault, hfault, -, hkind, hcode⟩ := hfails _ hplain
  have hworded : seatedAudit.evaluate ⟨active, knowing⟩ = .error (.denied
      ⟨"audit", "access denied: permission 'Auditing' (audit) is required"⟩) := by
    decide +kernel
  refine ⟨hplain, fault, hfault, hkind, hcode, ?_⟩
  rw [hworded] at hfault
  cases hfault
  rfl

end Chain

end Gatehouse
