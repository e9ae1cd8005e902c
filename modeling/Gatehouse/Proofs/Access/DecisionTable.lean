/-
What guard chains decide.

A chain asks its requirements in order and answers with the first fault, so what it
decides is decided requirement by requirement (`evaluateAll_eq_ok_iff`,
`evaluateAll_eq_error_iff`).  For a single requirement there are two questions only.
Codes, kinds and lists of codes all ask for one code out of some (`codes`), and a
session is asked for as if by a licence that admits everyone.

That leaves one line of the table for each of five contexts: the program itself, a
session, the Empty session, a client, and nobody.  The Empty session is bound but not
logged on, so it passes where nothing is asked and nowhere else.  Guards of their own
making are left out throughout, as they may answer anything.
-/
import Gatehouse.House.State

namespace Gatehouse

/-! ### What a requirement asks for -/

namespace Requirement

/-- The codes of which one must be held; for a kind its code, or its path if it has none. -/
def codes : Requirement → List String
  | .code c => [c.text]
  | .kind k => [(k.code.map Code.text).getD k.path]
  | .any cs => cs.map Code.text
  | _ => []

/-- The requirement asks for a session, or for a licence, which covers sessions only. -/
def NeedsSession : Requirement → Prop
  | .session => True
  | .license _ => True
  | _ => False

/-- Where codes are asked for, the set has one of them. -/
def HeldIn (permissions : PermissionSet) (q : Requirement) : Prop :=
  q.codes ≠ [] → ∃ code ∈ q.codes, permissions.contains code = true

/-- The requirement is one of the program's own kinds. -/
def IsBuiltIn : Requirement → Prop
  | .guard _ => False
  | _ => True

end Requirement

/-- The denial of a code in the words of the checker. -/
def Checker.denial (c : Checker) (registries : Registries) (code : String)
    (culture : Option String) : Denial :=
  ⟨code, (c.reasons.bind fun r => r.answer registries code culture).getD
    (Denial.defaultMessage code code)⟩

section Table

variable {checker : Checker} {around : Surroundings}

/-! ### Codes, by context -/

namespace Checker

theorem checkSet_eq (registries : Registries) (permissions : PermissionSet) (code : String)
    (culture : Option String) :
    checker.checkSet registries permissions code culture =
      if permissions.contains code = true then .ok ()
      else .error (.denied (checker.denial registries code culture)) := by
  unfold checkSet PermissionSet.check denial
  by_cases h : permissions.contains code = true
  · simp only [h, if_true]
  · simp only [h]
    rfl

/-- Of several codes one is enough, and the first is missed if there is none. -/
theorem checkAnyOf_eq (registries : Registries) (permissions : PermissionSet) (first : String)
    (rest : List String) (culture : Option String) :
    checker.checkAnyOf registries permissions first rest culture =
      if ∃ code ∈ first :: rest, permissions.contains code = true then .ok ()
      else .error (.denied (checker.denial registries first culture)) := by
  unfold checkAnyOf
  by_cases h : ∃ code ∈ first :: rest, permissions.contains code = true
  · rw [if_pos h, if_pos (List.any_eq_true.2 h)]
  · have hfirst : ¬ permissions.contains first = true := fun hc => h ⟨first, by simp, hc⟩
    rw [if_neg h, if_neg (fun hany => h (List.any_eq_true.1 hany)), checkSet_eq, if_neg hfirst]

/-- Asking for a code is asking for one out of a single one. -/
theorem check_eq_checkAny (code : String) :
    checker.check around code = checker.checkAny around [code] := by
  have hone : ∀ permissions culture,
      checker.checkAnyOf around.registries permissions code [] culture =
        checker.checkSet around.registries permissions code culture := by
    intro permissions culture
    rw [checkAnyOf_eq, checkSet_eq]
    simp
  unfold check checkAny checkSession
  cases around.active <;> simp only [hone]

theorem codeOfKind_eq (k : Kind) : codeOfKind k = (k.code.map Code.text).getD k.path := by
  unfold codeOfKind
  cases k.code <;> rfl

theorem checkAny_of_system (h : around.active = .system) (codes : List String) :
    checker.checkAny around codes = .ok () := by
  cases codes with
  | nil => rfl
  | cons first rest => simp only [checkAny, h]

theorem checkAny_of_session {s : Session} (h : around.active = .session s)
    (hs : s.isEmpty = false) (first : String) (rest : List String) :
    checker.checkAny around (first :: rest) =
      checker.checkAnyOf around.registries s.permissions first rest s.knownCulture := by
  simp only [checkAny, h, requireLoggedOn, hs]
  rfl

theorem checkAny_of_emptySession {s : Session} (h : around.active = .session s)
    (hs : s.isEmpty = true) (first : String) (rest : List String) :
    checker.checkAny around (first :: rest) = .error .notLoggedOn := by
  simp only [checkAny, h, requireLoggedOn, hs]
  rfl

theorem checkAny_of_client {snapshot : ClientSnapshot} (h : around.active = .client snapshot)
    (first : String) (rest : List String) :
    checker.checkAny around (first :: rest) =
      checker.checkAnyOf around.registries snapshot.permissions first rest none := by
  simp only [checkAny, h]

theorem checkAny_of_unbound (h : around.active = .unbound) (first : String)
    (rest : List String) :
    checker.checkAny around (first :: rest) =
      if checker.policy = .allow then .ok () else .error .notLoggedOn := by
  simp only [checkAny, h, checkUnbound]
  cases checker.policy <;> rfl

end Checker

/-! ### One requirement, by context -/

namespace Requirement

variable {q : Requirement}

/-- A requirement that needs no session asks for one of its codes. -/
theorem evaluate_eq_checkAny (hq : q.IsBuiltIn) (hneeds : ¬ q.NeedsSession) :
    q.evaluate checker around = checker.checkAny around q.codes := by
  cases q with
  | session => exact absurd trivial hneeds
  | code c => exact Checker.check_eq_checkAny c.text
  | kind k =>
    show checker.check around (Checker.codeOfKind k) = _
    rw [Checker.codeOfKind_eq]
    exact Checker.check_eq_checkAny _
  | any cs => rfl
  | license policy => exact absurd trivial hneeds
  | guard g => exact absurd hq id

theorem heldIn_iff_of_cons (permissions : PermissionSet) {first : String} {rest : List String}
    (hcodes : q.codes = first :: rest) :
    q.HeldIn permissions ↔ ∃ code ∈ first :: rest, permissions.contains code = true := by
  unfold HeldIn
  rw [hcodes]
  exact ⟨fun h => h (List.cons_ne_nil first rest), fun h _ => h⟩

/-- A requirement that asks for nothing is an empty list of codes. -/
theorem eq_any_nil_iff (hq : q.IsBuiltIn) : q = .any [] ↔ ¬ q.NeedsSession ∧ q.codes = [] := by
  cases q with
  | guard g => exact absurd hq id
  | _ => simp [NeedsSession, codes]

theorem evaluate_of_system (h : around.active = .system) (hq : q.IsBuiltIn) :
    q.evaluate checker around = .ok () := by
  by_cases hneeds : q.NeedsSession
  · cases q with
    | session => simp [evaluate, h, Active.isSystem]
    | license policy => simp [evaluate, h, Active.isSystem]
    | _ => exact absurd hneeds id
  · rw [evaluate_eq_checkAny hq hneeds]
    exact Checker.checkAny_of_system h q.codes

/-- Whoever is not the program itself and not logged on has no session. -/
theorem evaluate_of_needsSession (hneeds : q.NeedsSession)
    (hsys : around.active.isSystem = false)
    (hnone : Checker.requireSession Session.isEmpty around.active = .error .notLoggedOn) :
    q.evaluate checker around = .error .notLoggedOn := by
  cases q with
  | session => simp [evaluate, hsys, hnone, Except.map]
  | license policy => simp [evaluate, hsys, hnone]
  | _ => exact absurd hneeds id

/-- With a session, codes are looked up in its set, and a licence asks its policy. -/
theorem evaluate_of_session {s : Session} (h : around.active = .session s)
    (hs : s.isEmpty = false) (hq : q.IsBuiltIn) :
    (q.evaluate checker around = .ok () ↔
      q.HeldIn s.permissions ∧ ∀ policy, q = .license policy → policy.answer s = .ok ()) ∧
    q.evaluate checker around ≠ .error .notLoggedOn := by
  by_cases hneeds : q.NeedsSession
  · have hsome : Checker.requireSession Session.isEmpty around.active = .ok s := by
      simp [Checker.requireSession, h, hs]
    have hsys : around.active.isSystem = false := by rw [h]; rfl
    cases q with
    | session => simp [evaluate, hsys, hsome, HeldIn, codes, Except.map]
    | license policy =>
      simp only [evaluate, hsys, hsome, Bool.false_eq_true, if_false]
      cases hanswer : policy.answer s <;> simp [HeldIn, codes, hanswer]
    | _ => exact absurd hneeds id
  · rw [evaluate_eq_checkAny hq hneeds]
    have hpolicy : ∀ policy, q ≠ .license policy := by
      intro policy hp
      exact hneeds (hp ▸ trivial)
    cases hcodes : q.codes with
    | nil => simp [Checker.checkAny, HeldIn, hcodes, hpolicy]
    | cons first rest =>
      rw [Checker.checkAny_of_session h hs, Checker.checkAnyOf_eq]
      rw [heldIn_iff_of_cons s.permissions hcodes]
      by_cases hfound : ∃ code ∈ first :: rest, s.permissions.contains code = true
      · rw [if_pos hfound]
        exact ⟨⟨fun _ => ⟨hfound, fun policy hp => absurd hp (hpolicy policy)⟩, fun _ => rfl⟩,
          by simp⟩
      · rw [if_neg hfound]
        exact ⟨⟨by simp, fun hmet => absurd hmet.1 hfound⟩, by simp⟩

theorem evaluate_of_emptySession {s : Session} (h : around.active = .session s)
    (hs : s.isEmpty = true) (hq : q.IsBuiltIn) :
    (q = .any [] → q.evaluate checker around = .ok ()) ∧
    (q ≠ .any [] → q.evaluate checker around = .error .notLoggedOn) := by
  refine ⟨fun hany => by rw [hany]; rfl, fun hany => ?_⟩
  by_cases hneeds : q.NeedsSession
  · exact evaluate_of_needsSession hneeds (by rw [h]; rfl)
      (by simp [Checker.requireSession, h, hs])
  · rw [evaluate_eq_checkAny hq hneeds]
    cases hcodes : q.codes with
    | nil => exact absurd ((eq_any_nil_iff hq).2 ⟨hneeds, hcodes⟩) hany
    | cons first rest => exact Checker.checkAny_of_emptySession h hs first rest

variable (checker) in
/-- A client is looked up in what it was granted, and has no session. -/
theorem evaluate_of_client {snapshot : ClientSnapshot} (h : around.active = .client snapshot)
    (hq : q.IsBuiltIn) :
    (q.NeedsSession → q.evaluate checker around = .error .notLoggedOn) ∧
    (¬ q.NeedsSession → q.HeldIn snapshot.permissions → q.evaluate checker around = .ok ()) ∧
    (¬ q.NeedsSession → ¬ q.HeldIn snapshot.permissions → ∃ first rest, q.codes = first :: rest ∧
      q.evaluate checker around =
        .error (.denied (checker.denial around.registries first none))) := by
  refine ⟨fun hneeds => ?_, fun hneeds hheld => ?_, fun hneeds hmissing => ?_⟩
  · exact evaluate_of_needsSession hneeds (by rw [h]; rfl) (by simp [Checker.requireSession, h])
  · rw [evaluate_eq_checkAny hq hneeds]
    cases hcodes : q.codes with
    | nil => rfl
    | cons first rest =>
      have hfound := (heldIn_iff_of_cons _ hcodes).1 hheld
      rw [Checker.checkAny_of_client h, Checker.checkAnyOf_eq, if_pos hfound]
  · rw [evaluate_eq_checkAny hq hneeds]
    cases hcodes : q.codes with
    | nil => exact absurd (fun hne => absurd hcodes hne) hmissing
    | cons first rest =>
      have hnot := fun hfound => hmissing ((heldIn_iff_of_cons _ hcodes).2 hfound)
      refine ⟨first, rest, rfl, ?_⟩
      rw [Checker.checkAny_of_client h, Checker.checkAnyOf_eq, if_neg hnot]

/-- For nobody the policy decides on codes, and there is no session. -/
theorem evaluate_of_unbound (h : around.active = .unbound) (hq : q.IsBuiltIn) :
    (¬ q.NeedsSession ∧ (q.codes ≠ [] → checker.policy = .allow) →
      q.evaluate checker around = .ok ()) ∧
    (¬ (¬ q.NeedsSession ∧ (q.codes ≠ [] → checker.policy = .allow)) →
      q.evaluate checker around = .error .notLoggedOn) := by
  by_cases hneeds : q.NeedsSession
  · have hfault : q.evaluate checker around = .error .notLoggedOn :=
      evaluate_of_needsSession hneeds (by rw [h]; rfl) (by simp [Checker.requireSession, h])
    exact ⟨fun hmet => absurd hneeds hmet.1, fun _ => hfault⟩
  · rw [evaluate_eq_checkAny hq hneeds]
    cases hcodes : q.codes with
    | nil => simp [Checker.checkAny, hneeds]
    | cons first rest =>
      rw [Checker.checkAny_of_unbound h]
      by_cases hallow : checker.policy = .allow <;> simp [hneeds, hallow]

end Requirement

/-! ### Chains -/

theorem evaluateAll_eq_ok_iff {rs : List Requirement} :
    evaluateAll checker around rs = .ok () ↔
      ∀ q ∈ rs, q.evaluate checker around = .ok () := by
  induction rs with
  | nil => simp [evaluateAll]
  | cons r rs ih =>
    cases hr : r.evaluate checker around with
    | ok u => simp [evaluateAll, hr, ih]
    | error fault => simp [evaluateAll, hr]

/-- The fault of a chain is that of the first requirement that is not met. -/
theorem evaluateAll_eq_error_iff {rs : List Requirement} {fault : Fault} :
    evaluateAll checker around rs = .error fault ↔
      ∃ before q after, rs = before ++ q :: after ∧
        (∀ p ∈ before, p.evaluate checker around = .ok ()) ∧
        q.evaluate checker around = .error fault := by
  induction rs with
  | nil => simp [evaluateAll]
  | cons r rs ih =>
    cases hr : r.evaluate checker around with
    | error other =>
      rw [evaluateAll, hr]
      refine ⟨fun h => ⟨[], r, rs, rfl, by simp, by rw [hr]; exact h⟩, ?_⟩
      intro ⟨before, q, after, hsplit, hbefore, hq⟩
      cases before with
      | nil =>
        obtain ⟨rfl, -⟩ := List.cons.inj hsplit
        exact hr.symm.trans hq
      | cons p before =>
        obtain ⟨rfl, -⟩ := List.cons.inj hsplit
        rw [hbefore r (by simp)] at hr
        cases hr
    | ok u =>
      rw [evaluateAll, hr, ih]
      refine ⟨fun ⟨before, q, after, hsplit, hbefore, hq⟩ => ?_, ?_⟩
      · refine ⟨r :: before, q, after, by rw [hsplit]; rfl, ?_, hq⟩
        intro p hp
        rcases List.mem_cons.1 hp with rfl | hp
        · exact hr
        · exact hbefore p hp
      · intro ⟨before, q, after, hsplit, hbefore, hq⟩
        cases before with
        | nil =>
          obtain ⟨rfl, -⟩ := List.cons.inj hsplit
          rw [hr] at hq
          cases hq
        | cons p before =>
          obtain ⟨rfl, hrs⟩ := List.cons.inj hsplit
          exact ⟨before, q, after, hrs, fun p hp => hbefore p (by simp [hp]), hq⟩

/-- Where a requirement that is not met always has the same fault, so has the chain. -/
theorem evaluateAll_of_one_fault {rs : List Requirement} {met : Requirement → Prop} {fault : Fault}
    (hmet : ∀ q ∈ rs, met q → q.evaluate checker around = .ok ())
    (hunmet : ∀ q ∈ rs, ¬ met q → q.evaluate checker around = .error fault) :
    (evaluateAll checker around rs = .ok () ↔ ∀ q ∈ rs, met q) ∧
    (¬ (∀ q ∈ rs, met q) → evaluateAll checker around rs = .error fault) := by
  have hiff : evaluateAll checker around rs = .ok () ↔ ∀ q ∈ rs, met q := by
    rw [evaluateAll_eq_ok_iff]
    refine ⟨fun h q hq => ?_, fun h q hq => hmet q hq (h q hq)⟩
    by_cases hm : met q
    · exact hm
    · have hfault := hunmet q hq hm
      rw [h q hq] at hfault
      cases hfault
  refine ⟨hiff, fun hnot => ?_⟩
  cases hchain : evaluateAll checker around rs with
  | ok u => exact absurd (hiff.1 hchain) hnot
  | error other =>
    -- Whatever the fault is, some requirement of the chain has it.
    obtain ⟨before, q, after, hsplit, -, hq⟩ := evaluateAll_eq_error_iff.1 hchain
    have hmem : q ∈ rs := by rw [hsplit]; simp
    by_cases hm : met q
    · rw [hmet q hmem hm] at hq
      cases hq
    · rw [hunmet q hmem hm] at hq
      exact hq.symm

/-- A session meets all requirements when it holds all the codes and is covered by all licences. -/
theorem forall_met_iff {rs : List Requirement} {s : Session} :
    (∀ q ∈ rs, q.HeldIn s.permissions ∧ ∀ policy, q = .license policy → policy.answer s = .ok ()) ↔
      (∀ code, .code code ∈ rs → s.permissions.contains code.text = true) ∧
      (∀ k, .kind k ∈ rs → s.permissions.contains ((k.code.map Code.text).getD k.path) = true) ∧
      (∀ cs, .any cs ∈ rs → cs ≠ [] → ∃ code ∈ cs, s.permissions.contains code.text = true) ∧
      (∀ policy, .license policy ∈ rs → policy.answer s = .ok ()) := by
  refine ⟨fun h => ⟨?_, ?_, ?_, ?_⟩, fun ⟨hcode, hkind, hany, hlicense⟩ q hq => ?_⟩
  · intro code hmem
    have hheld := (h _ hmem).1
    simpa [Requirement.HeldIn, Requirement.codes] using hheld
  · intro k hmem
    have hheld := (h _ hmem).1
    simpa [Requirement.HeldIn, Requirement.codes] using hheld
  · intro cs hmem hne
    have hheld := (h _ hmem).1
    obtain ⟨code, hcode, hcontains⟩ := hheld (by simpa [Requirement.codes] using hne)
    obtain ⟨c, hc, rfl⟩ := List.mem_map.1 hcode
    exact ⟨c, hc, hcontains⟩
  · intro policy hmem
    exact (h _ hmem).2 policy rfl
  · cases q with
    | session => simp [Requirement.HeldIn, Requirement.codes]
    | code code => simpa [Requirement.HeldIn, Requirement.codes] using hcode code hq
    | kind k => simpa [Requirement.HeldIn, Requirement.codes] using hkind k hq
    | any cs =>
      refine ⟨fun hne => ?_, fun policy hp => nomatch hp⟩
      obtain ⟨code, hcode, hcontains⟩ := hany cs hq (by simpa [Requirement.codes] using hne)
      exact ⟨code.text, List.mem_map_of_mem hcode, hcontains⟩
    | license policy =>
      have hadmit := hlicense policy hq
      simpa [Requirement.HeldIn, Requirement.codes] using hadmit
    | guard g => simp [Requirement.HeldIn, Requirement.codes]

namespace Chain

variable {c : Chain}

/-- The chain has no guards of their own making. -/
def IsBuiltIn (c : Chain) : Prop := ∀ q ∈ c.requirements, q.IsBuiltIn

theorem evaluate_of_system (h : around.active = .system) (hc : c.IsBuiltIn) :
    c.evaluate around = .ok () :=
  evaluateAll_eq_ok_iff.2 fun q hq => q.evaluate_of_system h (hc q hq)

theorem evaluate_of_session {s : Session} (h : around.active = .session s)
    (hs : s.isEmpty = false) (hc : c.IsBuiltIn) :
    c.evaluate around ≠ .error .notLoggedOn ∧
    (c.evaluate around = .ok () ↔ ∀ q ∈ c.requirements,
      q.HeldIn s.permissions ∧ ∀ policy, q = .license policy → policy.answer s = .ok ()) := by
  refine ⟨fun hfault => ?_, ?_⟩
  · obtain ⟨before, q, after, hsplit, -, hq⟩ := evaluateAll_eq_error_iff.1 hfault
    have hmem : q ∈ c.requirements := by rw [hsplit]; simp
    exact (q.evaluate_of_session h hs (hc q hmem)).2 hq
  · unfold evaluate
    rw [evaluateAll_eq_ok_iff]
    refine forall₂_congr fun q hq => ?_
    exact (q.evaluate_of_session h hs (hc q hq)).1

theorem evaluate_of_emptySession {s : Session} (h : around.active = .session s)
    (hs : s.isEmpty = true) (hc : c.IsBuiltIn) :
    (c.evaluate around = .ok () ↔ ∀ q ∈ c.requirements, q = .any []) ∧
    (¬ (∀ q ∈ c.requirements, q = .any []) → c.evaluate around = .error .notLoggedOn) :=
  evaluateAll_of_one_fault
    (fun q hq => (q.evaluate_of_emptySession h hs (hc q hq)).1)
    (fun q hq => (q.evaluate_of_emptySession h hs (hc q hq)).2)

theorem evaluate_of_unbound (h : around.active = .unbound) (hc : c.IsBuiltIn) :
    (c.evaluate around = .ok () ↔
      ∀ q ∈ c.requirements, ¬ q.NeedsSession ∧ (q.codes ≠ [] → c.checker.policy = .allow)) ∧
    (¬ (∀ q ∈ c.requirements,
        ¬ q.NeedsSession ∧ (q.codes ≠ [] → c.checker.policy = .allow)) →
      c.evaluate around = .error .notLoggedOn) :=
  evaluateAll_of_one_fault
    (fun q hq => (q.evaluate_of_unbound h (hc q hq)).1)
    (fun q hq => (q.evaluate_of_unbound h (hc q hq)).2)

/-- A client passes by what it was granted, up to the first requirement that is not met. -/
theorem evaluate_of_client {snapshot : ClientSnapshot} (h : around.active = .client snapshot)
    (hc : c.IsBuiltIn) :
    (c.evaluate around = .ok () ↔
      ∀ q ∈ c.requirements, ¬ q.NeedsSession ∧ q.HeldIn snapshot.permissions) ∧
    (∀ before q after, c.requirements = before ++ q :: after →
      (∀ p ∈ before, ¬ p.NeedsSession ∧ p.HeldIn snapshot.permissions) →
      (q.NeedsSession → c.evaluate around = .error .notLoggedOn) ∧
      (¬ q.NeedsSession → ¬ q.HeldIn snapshot.permissions →
        ∃ first rest, q.codes = first :: rest ∧ c.evaluate around =
          .error (.denied (c.checker.denial around.registries first none)))) := by
  refine ⟨?_, fun before q after hsplit hbefore => ?_⟩
  · unfold evaluate
    rw [evaluateAll_eq_ok_iff]
    refine forall₂_congr fun q hq => ?_
    obtain ⟨hneeds, hheld, hmissing⟩ := Requirement.evaluate_of_client c.checker h (hc q hq)
    refine ⟨fun hok => ?_, fun hmet => hheld hmet.1 hmet.2⟩
    by_cases hn : q.NeedsSession
    · rw [hneeds hn] at hok
      cases hok
    by_cases hm : q.HeldIn snapshot.permissions
    · exact ⟨hn, hm⟩
    · obtain ⟨first, rest, -, hdenied⟩ := hmissing hn hm
      rw [hdenied] at hok
      cases hok
  · have hmem : ∀ p ∈ before ++ [q], p.IsBuiltIn := by
      intro p hp
      refine hc p ?_
      rw [hsplit]
      rcases List.mem_append.1 hp with hp | hp
      · simp [hp]
      · simp [List.mem_singleton.1 hp]
    have hfirst : ∀ {fault}, q.evaluate c.checker around = .error fault →
        c.evaluate around = .error fault := by
      intro fault hq
      refine evaluateAll_eq_error_iff.2 ⟨before, q, after, hsplit, fun p hp => ?_, hq⟩
      obtain ⟨hneeds, hheld⟩ := hbefore p hp
      exact (Requirement.evaluate_of_client _ h (hmem p (by simp [hp]))).2.1 hneeds hheld
    obtain ⟨hneeds, -, hmissing⟩ := Requirement.evaluate_of_client c.checker h
      (hmem q (by simp))
    refine ⟨fun hn => hfirst (hneeds hn), fun hn hm => ?_⟩
    obtain ⟨first, rest, hcodes, hdenied⟩ := hmissing hn hm
    exact ⟨first, rest, hcodes, hfirst hdenied⟩

end Chain

end Table

namespace Chain

/-- **What a chain decides, by who is answerable.** -/
theorem evaluate_decisions (h : House) (scopes : List (Scope SessionRef)) (c : Chain)
    (hc : c.IsBuiltIn) :
    -- The program itself may do everything.
    (∀ outer, scopes = .system :: outer → c.evaluate (h.surroundings scopes) = .ok ()) ∧
    -- A session must hold the codes and be covered by the licences.
    (∀ r outer, scopes = .session r :: outer → (h.session r).isEmpty = false →
      c.evaluate (h.surroundings scopes) ≠ .error .notLoggedOn ∧
      (c.evaluate (h.surroundings scopes) = .ok () ↔
        (∀ code, .code code ∈ c.requirements →
          (h.session r).permissions.contains code.text = true) ∧
        (∀ k, .kind k ∈ c.requirements →
          (h.session r).permissions.contains ((k.code.map Code.text).getD k.path) = true) ∧
        (∀ cs, .any cs ∈ c.requirements → cs ≠ [] →
          ∃ code ∈ cs, (h.session r).permissions.contains code.text = true) ∧
        (∀ policy, .license policy ∈ c.requirements → policy.answer (h.session r) = .ok ()))) ∧
    -- The Empty session passes where nothing is asked.
    (∀ r outer, scopes = .session r :: outer → (h.session r).isEmpty = true →
      (c.evaluate (h.surroundings scopes) = .ok () ↔ ∀ q ∈ c.requirements, q = .any []) ∧
      (¬ (∀ q ∈ c.requirements, q = .any []) →
        c.evaluate (h.surroundings scopes) = .error .notLoggedOn)) ∧
    -- A client must hold the codes, and what needs a session is never met.
    (∀ snapshot, scopes = [] → h.client.current = some snapshot →
      (c.evaluate (h.surroundings scopes) = .ok () ↔
        ∀ q ∈ c.requirements, ¬ q.NeedsSession ∧ q.HeldIn snapshot.permissions) ∧
      (∀ before q after, c.requirements = before ++ q :: after →
        (∀ p ∈ before, ¬ p.NeedsSession ∧ p.HeldIn snapshot.permissions) →
        (q.NeedsSession → c.evaluate (h.surroundings scopes) = .error .notLoggedOn) ∧
        (¬ q.NeedsSession → ¬ q.HeldIn snapshot.permissions →
          ∃ first rest, q.codes = first :: rest ∧ c.evaluate (h.surroundings scopes) =
            .error (.denied (c.checker.denial h.registry first none))))) ∧
    -- For nobody the policy decides on codes, and what needs a session is never met.
    (scopes = [] → h.client.current = none →
      (c.evaluate (h.surroundings scopes) = .ok () ↔
        ∀ q ∈ c.requirements, ¬ q.NeedsSession ∧ (q.codes ≠ [] → c.checker.policy = .allow)) ∧
      (c.evaluate (h.surroundings scopes) ≠ .ok () →
        c.evaluate (h.surroundings scopes) = .error .notLoggedOn)) := by
  refine ⟨?_, ?_, ?_, ?_, ?_⟩
  · intro outer hscopes
    subst hscopes
    exact evaluate_of_system rfl hc
  · intro r outer hscopes hs
    subst hscopes
    have hactive : (h.surroundings (.session r :: outer)).active = .session (h.session r) := rfl
    obtain ⟨hnever, hok⟩ := evaluate_of_session hactive hs hc
    exact ⟨hnever, hok.trans forall_met_iff⟩
  · intro r outer hscopes hs
    subst hscopes
    exact evaluate_of_emptySession rfl hs hc
  · intro snapshot hscopes hclient
    subst hscopes
    have hactive : (h.surroundings []).active = .client snapshot := by
      simp [House.surroundings, House.active, Active.resolve, hclient, Active.map]
    exact evaluate_of_client hactive hc
  · intro hscopes hclient
    subst hscopes
    have hactive : (h.surroundings []).active = .unbound := by
      simp [House.surroundings, House.active, Active.resolve, hclient, Active.map]
    obtain ⟨hok, hfault⟩ := evaluate_of_unbound hactive hc
    exact ⟨hok, fun hnot => hfault fun hmet => hnot (hok.2 hmet)⟩

/-- A house with one session beside the Empty one, which may view. -/
def viewerHouse (client : Client) : House :=
  { House.fresh .default .first (.fixed "") none with
    sessions := [.empty, { Session.empty with id := ⟨1⟩, permissions := .readOnlyOfCodes [⟨"VIEW"⟩] }]
    client := client }

/-- The chain that wants someone logged on who may view. -/
def viewChain : Chain := ⟨"view", .default, [.code ⟨"view"⟩, .session]⟩

/-- The viewer and the program itself may view; the Empty session, a client and nobody may not, as
they are not logged on. -/
theorem viewer_decisions :
    viewChain.IsBuiltIn ∧
    viewChain.evaluate ((viewerHouse .fresh).surroundings [.system]) = .ok () ∧
    viewChain.evaluate ((viewerHouse .fresh).surroundings [.session 1]) = .ok () ∧
    viewChain.evaluate ((viewerHouse .fresh).surroundings [.session 0]) = .error .notLoggedOn ∧
    viewChain.evaluate
      ((viewerHouse (Client.fresh.login (.ofCodes [⟨"VIEW"⟩]) ⟨1⟩)).surroundings []) =
        .error .notLoggedOn ∧
    viewChain.evaluate ((viewerHouse .fresh).surroundings []) = .error .notLoggedOn := by
  have hbuilt : viewChain.IsBuiltIn := by simp [viewChain, IsBuiltIn, Requirement.IsBuiltIn]
  have hview : (PermissionSet.readOnlyOfCodes [⟨"VIEW"⟩]).contains "view" = true := by
    decide +kernel
  have hfirst := fun scopes => evaluate_decisions (viewerHouse .fresh) scopes viewChain hbuilt
  have hclient := evaluate_decisions (viewerHouse (Client.fresh.login (.ofCodes [⟨"VIEW"⟩]) ⟨1⟩))
    [] viewChain hbuilt
  refine ⟨hbuilt, (hfirst [.system]).1 [] rfl, ?_, ?_, ?_, ?_⟩
  · refine ((hfirst [.session 1]).2.1 1 [] rfl rfl).2.2 ⟨?_, ?_, ?_, ?_⟩
    · intro code hcode
      obtain rfl : code = ⟨"view"⟩ := by simpa [viewChain] using hcode
      exact hview
    · simp [viewChain]
    · simp [viewChain]
    · simp [viewChain]
  · refine ((hfirst [.session 0]).2.2.1 0 [] rfl rfl).2 fun hall => ?_
    have hsession := hall .session (by simp [viewChain])
    cases hsession
  · refine ((hclient.2.2.2.1 _ rfl rfl).2 [.code ⟨"view"⟩] .session [] rfl ?_).1 trivial
    intro p hp
    obtain rfl : p = .code ⟨"view"⟩ := by simpa using hp
    exact ⟨id, fun _ => ⟨"view", by simp [Requirement.codes], hview⟩⟩
  · refine ((hfirst []).2.2.2.2 rfl rfl).2 fun hok => ?_
    have hsession := (((hfirst []).2.2.2.2 rfl rfl).1.1 hok .session (by simp [viewChain])).1
    exact hsession trivial

end Chain

end Gatehouse
