/-
What a chain asks for, and what it lets through.

A chain asks for its requirements in the order in which they were added, up to the first that
is not met, and what it guards is done after all of them or not at all.  None of this shows in
an answer, so it is said of a run with effects: asking for a requirement has whatever effect
`touch` gives it, what is guarded has its own, and the effects are those of any lawful monad.
A run is then equal to a sequence of effects in which each stands as often as it happens
(`runM_eq`): those of the requirements that are consulted, and that of the operation once or
never.

The answers are the same with effects and without (`evaluateM_eq`), and a chain that goes on
with the requirements of another one asks for those where the first would pass
(`evaluateAll_append`).
-/
import Gatehouse.Proofs.Access.DecisionTable

namespace Gatehouse

/-! ### Calls of a builder -/

namespace ChainBuilder

/-- What can be said of a chain that is being built. -/
inductive Call where
  /-- It has this name. -/
  | named (name : String)
  /-- Its requirements ask this checker. -/
  | withChecker (checker : Checker)
  /-- It has this requirement, after those that it has. -/
  | require (r : Requirement)

namespace Call

/-- The name that is given. -/
def name? : Call → Option String
  | .named name => some name
  | _ => none

/-- The checker that is given. -/
def checker? : Call → Option Checker
  | .withChecker checker => some checker
  | _ => none

/-- The requirement that is added. -/
def requirement? : Call → Option Requirement
  | .require r => some r
  | _ => none

end Call

/-- The builder after a call. -/
def apply (b : ChainBuilder) : Call → ChainBuilder
  | .named name => b.named name
  | .withChecker checker => b.withChecker checker
  | .require r => b.require r

/-- The chain that some calls build. -/
def chainOf (calls : List Call) : Chain := (calls.foldl apply fresh).build

theorem foldl_apply (calls : List Call) (b : ChainBuilder) :
    calls.foldl apply b =
      ⟨(calls.filterMap Call.name?).getLast?.or b.name,
       (calls.filterMap Call.checker?).getLast?.or b.checker,
       b.requirements ++ calls.filterMap Call.requirement?⟩ := by
  induction calls generalizing b with
  | nil => simp
  | cons call calls ih =>
    rw [List.foldl_cons, ih]
    cases call with
    | named name =>
      simp only [apply, named, List.filterMap_cons, Call.name?, Call.checker?, Call.requirement?,
        List.getLast?_cons]
      cases (calls.filterMap Call.name?).getLast? <;> rfl
    | withChecker checker =>
      simp only [apply, withChecker, List.filterMap_cons, Call.name?, Call.checker?,
        Call.requirement?, List.getLast?_cons]
      cases (calls.filterMap Call.checker?).getLast? <;> rfl
    | require r =>
      simp [apply, require, Call.name?, Call.checker?, Call.requirement?]

/-- The last name and the last checker count, and the requirements stand as they were added. -/
theorem chainOf_eq (calls : List Call) :
    chainOf calls =
      .ofRequirements (calls.filterMap Call.name?).getLast? (calls.filterMap Call.checker?).getLast?
        (calls.filterMap Call.requirement?) := by
  rw [chainOf, foldl_apply, build]
  simp [fresh]

end ChainBuilder

/-! ### What is consulted -/

section Consulted

variable {checker : Checker} {around : Surroundings}

/-- The requirements that are asked for: up to the first that is not met, and that one. -/
def consulted (checker : Checker) (around : Surroundings) : List Requirement → List Requirement
  | [] => []
  | r :: rs =>
    match r.evaluate checker around with
    | .error _ => [r]
    | .ok () => r :: consulted checker around rs

theorem consulted_of_met {rs : List Requirement}
    (h : ∀ q ∈ rs, q.evaluate checker around = .ok ()) : consulted checker around rs = rs := by
  induction rs with
  | nil => rfl
  | cons r rs ih =>
    have hr : r.evaluate checker around = .ok () := h r (by simp)
    have hrest := ih fun q hq => h q (by simp [hq])
    simp only [consulted, hr, hrest]

theorem consulted_of_unmet {before : List Requirement} {q : Requirement} {fault : Fault}
    (hbefore : ∀ p ∈ before, p.evaluate checker around = .ok ())
    (hq : q.evaluate checker around = .error fault) (after : List Requirement) :
    consulted checker around (before ++ q :: after) = before ++ [q] := by
  induction before with
  | nil => simp only [List.nil_append, consulted, hq]
  | cons p before ih =>
    have hp : p.evaluate checker around = .ok () := hbefore p (by simp)
    have hrest := ih fun r hr => hbefore r (by simp [hr])
    simp only [List.cons_append, consulted, hp, hrest]

/-- Requirements after others are asked for where the others are met. -/
theorem evaluateAll_append (rs rs' : List Requirement) :
    evaluateAll checker around (rs ++ rs') =
      match evaluateAll checker around rs with
      | .error fault => .error fault
      | .ok () => evaluateAll checker around rs' := by
  induction rs with
  | nil => rfl
  | cons r rs ih =>
    rw [List.cons_append, evaluateAll, evaluateAll]
    cases r.evaluate checker around with
    | error fault => rfl
    | ok u => exact ih

end Consulted

/-! ### Runs with effects -/

section Effects

variable {m : Type → Type} [Monad m] [LawfulMonad m] {α : Type}
  (touch : Requirement → m Unit) (around : Surroundings)

/-- To evaluate is to touch what is consulted, each once and in order. -/
theorem evaluateAllM_eq (checker : Checker) (rs : List Requirement) :
    evaluateAllM touch checker around rs = do
      (consulted checker around rs).forM touch
      return evaluateAll checker around rs := by
  induction rs with
  | nil => simp [evaluateAllM, consulted, evaluateAll]
  | cons r rs ih =>
    rw [evaluateAllM, consulted, evaluateAll]
    cases r.evaluate checker around with
    | error fault => simp
    | ok u => simp [ih]

namespace Chain

/-- To evaluate a chain is to touch what is consulted, and to answer. -/
theorem evaluateM_eq (c : Chain) :
    c.evaluateM touch around = do
      (consulted c.checker around c.requirements).forM touch
      return c.evaluate around :=
  evaluateAllM_eq touch around c.checker c.requirements

/-- What is guarded is done once if the chain passes, and not otherwise. -/
theorem runM_eq (c : Chain) (operation : m α) :
    c.runM touch around operation = do
      (consulted c.checker around c.requirements).forM touch
      match c.evaluate around with
      | .error fault => return .error fault
      | .ok () => return .ok (← operation) := by
  rw [runM, evaluateM_eq, bind_assoc]
  exact bind_congr fun _ => pure_bind _ _

/-- A chain that passes has asked for each requirement once, and does what it guards after them. -/
theorem runM_of_ok {c : Chain} (h : c.evaluate around = .ok ()) (operation : m α) :
    (c.evaluateM touch around = do
      c.requirements.forM touch
      return .ok ()) ∧
    (c.runM touch around operation = do
      c.requirements.forM touch
      return .ok (← operation)) := by
  have hall : consulted c.checker around c.requirements = c.requirements :=
    consulted_of_met (evaluateAll_eq_ok_iff.1 h)
  rw [evaluateM_eq, runM_eq, hall, h]
  exact ⟨rfl, rfl⟩

/-- A chain with a requirement that is not met has asked for it last, and does nothing. -/
theorem runM_of_unmet {c : Chain} {before after : List Requirement} {q : Requirement}
    {fault : Fault} (hsplit : c.requirements = before ++ q :: after)
    (hbefore : ∀ p ∈ before, p.evaluate c.checker around = .ok ())
    (hq : q.evaluate c.checker around = .error fault) (operation : m α) :
    (c.evaluateM touch around = do
      (before ++ [q]).forM touch
      return .error fault) ∧
    (c.runM touch around operation = do
      (before ++ [q]).forM touch
      return .error fault) := by
  have hfault : c.evaluate around = .error fault :=
    evaluateAll_eq_error_iff.2 ⟨before, q, after, hsplit, hbefore, hq⟩
  rw [evaluateM_eq, runM_eq, hsplit, consulted_of_unmet hbefore hq after, hfault]
  exact ⟨rfl, rfl⟩

/-- **A chain asks in order up to the first requirement that is not met, and what it guards is done
once if there is none and never if there is one.** -/
theorem asks_in_order_and_gates (calls : List ChainBuilder.Call) (around : Surroundings)
    (touch : Requirement → m Unit) (operation : m α) :
    let c := ChainBuilder.chainOf calls
    -- The requirements are those that were added, in that order.
    c.requirements = calls.filterMap ChainBuilder.Call.requirement? ∧
    -- The chain passes if all are met.  Then each has been asked for once, and what is guarded is
    -- done once, after them.
    (c.evaluate around = .ok () ↔ ∀ q ∈ c.requirements, q.evaluate c.checker around = .ok ()) ∧
    (c.evaluate around = .ok () →
      (c.evaluateM touch around = do
        c.requirements.forM touch
        return .ok ()) ∧
      (c.runM touch around operation = do
        c.requirements.forM touch
        return .ok (← operation))) ∧
    -- Otherwise the answer is the fault of the first that is not met.  It is the last that has been
    -- asked for, and nothing else is done.
    (∀ fault, c.evaluate around = .error fault ↔
      ∃ before q after, c.requirements = before ++ q :: after ∧
        (∀ p ∈ before, p.evaluate c.checker around = .ok ()) ∧
        q.evaluate c.checker around = .error fault) ∧
    (∀ before q after fault, c.requirements = before ++ q :: after →
      (∀ p ∈ before, p.evaluate c.checker around = .ok ()) →
      q.evaluate c.checker around = .error fault →
      (c.evaluateM touch around = do
        (before ++ [q]).forM touch
        return .error fault) ∧
      (c.runM touch around operation = do
        (before ++ [q]).forM touch
        return .error fault)) ∧
    -- A chain that goes on with the requirements of another passes if both pass, all of them asking
    -- its checker, and otherwise fails as the first does where that fails.
    (∀ c' both : Chain, both.requirements = c.requirements ++ c'.requirements →
      let first := { c with checker := both.checker }
      let second := { c' with checker := both.checker }
      (both.evaluate around = .ok () ↔
        first.evaluate around = .ok () ∧ second.evaluate around = .ok ()) ∧
      ∀ fault, first.evaluate around = .error fault → both.evaluate around = .error fault) := by
  intro c
  refine ⟨congrArg requirements (ChainBuilder.chainOf_eq calls), evaluateAll_eq_ok_iff,
    fun hok => runM_of_ok touch around hok operation, fun _ => evaluateAll_eq_error_iff, ?_, ?_⟩
  · intro before q after fault hsplit hbefore hq
    exact runM_of_unmet touch around hsplit hbefore hq operation
  · intro c' both hboth first second
    have hjoined : both.evaluate around =
        match first.evaluate around with
        | .error fault => .error fault
        | .ok () => second.evaluate around := by
      rw [evaluate, hboth]
      exact evaluateAll_append _ _
    cases hfirst : first.evaluate around with
    | error fault => simp [hjoined, hfirst]
    | ok u => simp [hjoined, hfirst]

end Chain

end Effects

namespace Chain

/-- Counts what is asked for and how often what is guarded is done. -/
abbrev Tally := StateM (List Requirement × Nat)

/-- Notes that a requirement is asked for. -/
def Tally.ask (r : Requirement) : Tally Unit := modify fun (asked, done) => (asked ++ [r], done)

/-- Something that is done, for an outcome. -/
def Tally.work (outcome : Nat) : Tally Nat := do
  modify fun (asked, done) => (asked, done + 1)
  return outcome

/-- A guard that finds the house closed. -/
def closed : Requirement := .guard (.refusing "closed" (.licenseExhausted "closed today"))

/-- The viewer's calls, among which the name and the checker come late. -/
def viewerCalls : List ChainBuilder.Call :=
  [.require .session, .named "view", .require (.code ⟨"view"⟩), .withChecker ⟨.deny, none⟩]

/-- The viewer gets to work after two questions.  With the house closed three of four questions are
asked and no work is done, since a chain does not pass if what it goes on with would not. -/
theorem closed_before_work :
    let around := (viewerHouse .fresh).surroundings [.session 1]
    let viewer := ChainBuilder.chainOf viewerCalls
    let visitor := ChainBuilder.chainOf
      (viewerCalls ++ [.require closed, .require (.code ⟨"edit"⟩)])
    ((viewer.runM Tally.ask around (Tally.work 7)).run ([], 0) =
      (.ok 7, [.session, .code ⟨"view"⟩], 1)) ∧
    ((visitor.runM Tally.ask around (Tally.work 7)).run ([], 0) =
      (.error (.licenseExhausted "closed today"), [.session, .code ⟨"view"⟩, closed], 0)) ∧
    visitor.evaluate around ≠ .ok () := by
  intro around viewer visitor
  have hview : (PermissionSet.readOnlyOfCodes [⟨"VIEW"⟩]).contains "view" = true := by
    decide +kernel
  have hmet : ∀ q ∈ viewer.requirements, q.evaluate ⟨.deny, none⟩ around = .ok () := by
    intro q hq
    have hadded : viewer.requirements = [.session, .code ⟨"view"⟩] := rfl
    obtain rfl | rfl : q = .session ∨ q = .code ⟨"view"⟩ := by simpa [hadded] using hq
    · rfl
    · have hheld : (Requirement.code ⟨"view"⟩).HeldIn (.readOnlyOfCodes [⟨"VIEW"⟩]) :=
        fun _ => ⟨"view", by simp [Requirement.codes], hview⟩
      have hcode : (Requirement.code ⟨"view"⟩).IsBuiltIn := trivial
      refine (Requirement.evaluate_of_session rfl rfl hcode).1.2 ⟨hheld, ?_⟩
      intro policy hlicense
      cases hlicense
  obtain ⟨-, hpasses, hdone, -, -, hjoined⟩ :=
    asks_in_order_and_gates viewerCalls around Tally.ask (Tally.work 7)
  obtain ⟨-, -, -, -, hstops, -⟩ := asks_in_order_and_gates
    (viewerCalls ++ [.require closed, .require (.code ⟨"edit"⟩)]) around Tally.ask (Tally.work 7)
  refine ⟨?_, ?_, fun hok => ?_⟩
  · rw [(hdone (hpasses.2 hmet)).2]
    rfl
  · rw [(hstops viewer.requirements closed [.code ⟨"edit"⟩] _ rfl hmet rfl).2]
    rfl
  · have hboth := ((hjoined ⟨"rest", .default, [closed, .code ⟨"edit"⟩]⟩ visitor rfl).1.1 hok).2
    cases hboth

end Chain

end Gatehouse
