/-
What a chain looks at.

A chain that asks about a session looks at three things only: whether the session has the
codes that the requirements name, what the licence policies of the chain answer, and, to
word a denial, the culture and the registries that its provider asks.  Two sessions that
agree in these get the same answer, down to the wording, whatever else they hold and
wherever they are (`evaluate_congr`).

Less is needed for a chain to pass: neither the culture nor a registry has a say, and codes
are only ever asked to be there, never to be missing.  So more rights never hurt.
-/
import Gatehouse.Proofs.Access.DecisionTable
import Gatehouse.Proofs.Permission.Identity

namespace Gatehouse

/-! ### What a provider asks -/

namespace Reason

mutual

/-- The registries that the provider asks. -/
def registries : Reason → List String
  | .custom _ => []
  | .registry name => [name]
  | .chain providers => registriesOf providers

/-- The registries that several providers ask. -/
def registriesOf : List Reason → List String
  | [] => []
  | p :: ps => registries p ++ registriesOf ps

end

variable {before after : Registries}

mutual

/-- What a provider answers depends on the registries that it asks. -/
theorem answer_congr (code : String) (culture : Option String) : (r : Reason) →
    (∀ name ∈ r.registries, before name = after name) →
    r.answer before code culture = r.answer after code culture
  | .custom _, _ => rfl
  | .registry name, h => by
    rw [answer, answer, h name (by simp [registries])]
  | .chain providers, h => by
    rw [answer, answer]
    exact firstAnswer_congr code culture providers h

theorem firstAnswer_congr (code : String) (culture : Option String) : (ps : List Reason) →
    (∀ name ∈ registriesOf ps, before name = after name) →
    firstAnswer before code culture ps = firstAnswer after code culture ps
  | [], _ => rfl
  | p :: ps, h => by
    have hfirst := answer_congr code culture p fun name hname => h name (by simp [registriesOf, hname])
    have hrest := firstAnswer_congr code culture ps fun name hname =>
      h name (by simp [registriesOf, hname])
    rw [firstAnswer, firstAnswer, hfirst, hrest]

end

end Reason

/-- The registries that the checker's denials are worded by. -/
def Checker.registries (c : Checker) : List String := (c.reasons.map Reason.registries).getD []

theorem Checker.denial_congr {c : Checker} {before after : Registries}
    (h : ∀ name ∈ c.registries, before name = after name) (code : String)
    (culture : Option String) : c.denial before code culture = c.denial after code culture := by
  unfold denial
  cases hreasons : c.reasons with
  | none => rfl
  | some r =>
    have hasked : ∀ name ∈ r.registries, before name = after name := by
      intro name hname
      exact h name (by simpa [registries, hreasons] using hname)
    rw [Option.bind_some, Option.bind_some, Reason.answer_congr code culture r hasked]

/-! ### What a requirement asks about a session -/

section TwoSessions

variable {checker : Checker} {around around' : Surroundings} {s s' : Session} {q : Requirement}

/-- The answer to codes that two sessions both have or both lack. -/
theorem Checker.checkAny_congr (h : around.active = .session s) (hs : s.isEmpty = false)
    (h' : around'.active = .session s') (hs' : s'.isEmpty = false)
    (hregistries : ∀ name ∈ checker.registries, around.registries name = around'.registries name)
    (hculture : s'.culture = s.culture) {codes : List String}
    (hcodes : ∀ code ∈ codes, s'.permissions.contains code = s.permissions.contains code) :
    checker.checkAny around codes = checker.checkAny around' codes := by
  cases codes with
  | nil => rfl
  | cons first rest =>
    have hknown : s'.knownCulture = s.knownCulture := by
      unfold Session.knownCulture
      rw [hculture]
    have hfound : (∃ code ∈ first :: rest, s.permissions.contains code = true) ↔
        ∃ code ∈ first :: rest, s'.permissions.contains code = true :=
      exists_congr fun code => and_congr_right fun hcode => by rw [hcodes code hcode]
    rw [checkAny_of_session h hs, checkAny_of_session h' hs', checkAnyOf_eq, checkAnyOf_eq, hknown,
      denial_congr hregistries]
    by_cases hany : ∃ code ∈ first :: rest, s.permissions.contains code = true
    · rw [if_pos hany, if_pos (hfound.1 hany)]
    · rw [if_neg hany, if_neg fun hany' => hany (hfound.2 hany')]

namespace Requirement

theorem evaluate_session_of_session (h : around.active = .session s) (hs : s.isEmpty = false) :
    Requirement.session.evaluate checker around = .ok () := by
  simp [evaluate, h, hs, Active.isSystem, Checker.requireSession, Except.map]

/-- A licence is asked for by what its policy answers. -/
theorem evaluate_license_of_session (h : around.active = .session s) (hs : s.isEmpty = false)
    (policy : LicensePolicy) :
    (Requirement.license policy).evaluate checker around =
      (policy.answer s).mapError .licenseExhausted := by
  simp only [evaluate, h, hs, Active.isSystem, Checker.requireSession, Bool.false_eq_true, if_false]
  cases policy.answer s <;> rfl

/-- A requirement that two sessions answer alike is met by both or missed by both alike. -/
theorem evaluate_congr (h : around.active = .session s) (hs : s.isEmpty = false)
    (h' : around'.active = .session s') (hs' : s'.isEmpty = false)
    (hregistries : ∀ name ∈ checker.registries, around.registries name = around'.registries name)
    (hculture : s'.culture = s.culture)
    (hlicense : ∀ policy, q = .license policy → policy.answer s' = policy.answer s)
    (hcodes : ∀ code ∈ q.codes, s'.permissions.contains code = s.permissions.contains code)
    (hq : q.IsBuiltIn) : q.evaluate checker around = q.evaluate checker around' := by
  by_cases hneeds : q.NeedsSession
  · cases q with
    | session => rw [evaluate_session_of_session h hs, evaluate_session_of_session h' hs']
    | license policy =>
      rw [evaluate_license_of_session h hs, evaluate_license_of_session h' hs', hlicense policy rfl]
    | _ => exact absurd hneeds id
  · rw [evaluate_eq_checkAny hq hneeds, evaluate_eq_checkAny hq hneeds]
    exact Checker.checkAny_congr h hs h' hs' hregistries hculture hcodes

end Requirement

end TwoSessions

theorem evaluateAll_congr {checker : Checker} {around around' : Surroundings}
    {rs : List Requirement}
    (h : ∀ q ∈ rs, q.evaluate checker around = q.evaluate checker around') :
    evaluateAll checker around rs = evaluateAll checker around' rs := by
  induction rs with
  | nil => rfl
  | cons q rs ih =>
    rw [evaluateAll, evaluateAll, h q (by simp), ih fun p hp => h p (by simp [hp])]

/-! ### What a chain asks about a session -/

namespace Chain

/-- Two sessions that agree in all that a chain asks about them. -/
structure AskedAlike (c : Chain) (s s' : Session) : Prop where
  /-- They have the same culture... -/
  culture : s'.culture = s.culture
  /-- ... the same answers of the chain's policies... -/
  licenses : ∀ policy, .license policy ∈ c.requirements → policy.answer s' = policy.answer s
  /-- ... and of each code that the chain names, both or neither. -/
  codes : ∀ q ∈ c.requirements, ∀ code ∈ q.codes,
    s'.permissions.contains code = s.permissions.contains code

/-- More rights never hurt where licences answer alike. -/
theorem evaluate_mono {c : Chain} (hc : c.IsBuiltIn) {around around' : Surroundings}
    {s s' : Session} (h : around.active = .session s) (hs : s.isEmpty = false)
    (h' : around'.active = .session s') (hs' : s'.isEmpty = false)
    (hlicenses : ∀ policy, .license policy ∈ c.requirements → policy.answer s' = policy.answer s)
    (hmore : ∀ code, s.permissions.contains code = true → s'.permissions.contains code = true)
    (hok : c.evaluate around = .ok ()) : c.evaluate around' = .ok () := by
  refine (evaluate_of_session h' hs' hc).2.2 fun q hq => ?_
  obtain ⟨hheld, hadmits⟩ := (evaluate_of_session h hs hc).2.1 hok q hq
  refine ⟨fun hne => ?_, fun policy hp => ?_⟩
  · obtain ⟨code, hcode, hcontains⟩ := hheld hne
    exact ⟨code, hcode, hmore code hcontains⟩
  · rw [hlicenses policy (hp ▸ hq)]
    exact hadmits policy hp

/-- **A chain reveals and uses nothing about a session but what it asks.**  In whatever houses two
sessions are, they get the same answer if they agree in all that is asked; and a session that has at
least the rights of another one passes where that one passes. -/
theorem evaluate_uses_what_is_asked (c : Chain) (hc : c.IsBuiltIn) (g g' : House)
    (r r' : SessionRef) (outer outer' : List (Scope SessionRef))
    (hr : (g.session r).isEmpty = false) (hr' : (g'.session r').isEmpty = false) :
    ((∀ name ∈ c.checker.registries, g.registry name = g'.registry name) →
      c.AskedAlike (g.session r) (g'.session r') →
      c.evaluate (g.surroundings (.session r :: outer)) =
        c.evaluate (g'.surroundings (.session r' :: outer'))) ∧
    ((∀ policy, .license policy ∈ c.requirements →
        policy.answer (g'.session r') = policy.answer (g.session r)) →
      (∀ code, (g.session r).permissions.contains code = true →
        (g'.session r').permissions.contains code = true) →
      c.evaluate (g.surroundings (.session r :: outer)) = .ok () →
        c.evaluate (g'.surroundings (.session r' :: outer')) = .ok ()) := by
  refine ⟨fun hregistries halike => evaluateAll_congr fun q hq => ?_, ?_⟩
  · exact q.evaluate_congr rfl hr rfl hr' hregistries halike.culture
      (fun policy hp => halike.licenses policy (hp ▸ hq)) (halike.codes q hq) (hc q hq)
  · exact evaluate_mono hc rfl hr rfl hr'

/-- The licence that trial products lack. -/
def seatPolicy : LicensePolicy := .refusing ["Trial"] "no seat"

/-- The checker whose denials are worded by the registry of all. -/
def wordedChecker : Checker :=
  Checker.default.withReasons (.chain [.silent, .registry House.globalRegistry])

/-- The chain that wants a seat and the right to view. -/
def seatedView : Chain := ⟨"view", wordedChecker, [.license seatPolicy, .code ⟨"view"⟩]⟩

/-- The chain that wants a seat and the right to audit or to administer. -/
def seatedAudit : Chain :=
  ⟨"audit", wordedChecker, [.license seatPolicy, .any [⟨"audit"⟩, ⟨"admin"⟩]]⟩

/-- The house of a viewer who may also edit, in which someone who may audit is logged on as well. -/
def editorHouse : House :=
  { viewerHouse (Client.fresh.login (.ofCodes [⟨"AUDIT"⟩]) ⟨9⟩) with
    sessions := [.empty, { Session.empty with
      id := ⟨2⟩, login := "bob", permissions := .readOnlyOfCodes [⟨"edit"⟩, ⟨"View"⟩] }] }

/-- A viewer who may also edit misses the right to audit just as any viewer does, and may view as any
viewer may. -/
theorem viewers_alike :
    seatedAudit.AskedAlike ((viewerHouse .fresh).session 1) (editorHouse.session 1) ∧
    seatedAudit.evaluate ((viewerHouse .fresh).surroundings [.session 1]) =
      seatedAudit.evaluate (editorHouse.surroundings [.session 1, .system]) ∧
    seatedView.evaluate (editorHouse.surroundings [.session 1, .system]) = .ok () := by
  have haudit : seatedAudit.IsBuiltIn := by simp [seatedAudit, IsBuiltIn, Requirement.IsBuiltIn]
  have hview : seatedView.IsBuiltIn := by simp [seatedView, IsBuiltIn, Requirement.IsBuiltIn]
  have hnamed : ∀ code ∈ ["audit", "admin"],
      (editorHouse.session 1).permissions.contains code =
        ((viewerHouse .fresh).session 1).permissions.contains code := by
    decide +kernel
  have halike : seatedAudit.AskedAlike ((viewerHouse .fresh).session 1) (editorHouse.session 1) := by
    refine ⟨rfl, fun policy hp => ?_, fun q hq code hcode => hnamed code ?_⟩
    · obtain rfl : policy = seatPolicy := by simpa [seatedAudit] using hp
      rfl
    · obtain rfl | rfl : q = .license seatPolicy ∨ q = .any [⟨"audit"⟩, ⟨"admin"⟩] := by
        simpa [seatedAudit] using hq
      · cases hcode
      · exact hcode
  have hmore : ∀ form ∈ ((viewerHouse .fresh).session 1).permissions.spellings.forms,
      form ∈ (editorHouse.session 1).permissions.spellings.forms := by
    decide +kernel
  have hholds : ((viewerHouse .fresh).session 1).permissions.contains "view" = true := by
    decide +kernel
  refine ⟨halike, ?_, ?_⟩
  · exact (evaluate_uses_what_is_asked seatedAudit haudit (viewerHouse .fresh) editorHouse 1 1 []
      [.system] rfl rfl).1 (fun _ _ => rfl) halike
  · refine (evaluate_uses_what_is_asked seatedView hview (viewerHouse .fresh) editorHouse 1 1 []
      [.system] rfl rfl).2 ?_ ?_ ?_
    · intro policy hp
      obtain rfl : policy = seatPolicy := by simpa [seatedView] using hp
      rfl
    · intro code hcode
      exact PermissionSet.contains_iff.2 (hmore _ (PermissionSet.contains_iff.1 hcode))
    · refine (evaluate_of_session rfl rfl hview).2.2 fun q hq => ?_
      obtain rfl | rfl : q = .license seatPolicy ∨ q = .code ⟨"view"⟩ := by
        simpa [seatedView] using hq
      · refine ⟨fun hne => absurd rfl hne, fun policy hp => ?_⟩
        cases hp
        rfl
      · exact ⟨fun _ => ⟨"view", by simp [Requirement.codes], hholds⟩, fun policy hp => by cases hp⟩

end Chain

end Gatehouse
