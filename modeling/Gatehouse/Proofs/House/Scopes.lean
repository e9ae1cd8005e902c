/-
Scopes within scopes.

A program runs steps, asks for checks and opens scopes, and may go on by what came of
each.  What it does is told twice: by running it (`Job.run`), where a scope is nothing but
a value in a slot, and by the points that the run gets to (`Reaches`), each with the
scopes that are open there.  A program leaves the slot as it found it, since every scope
in it does (`bound_run`).  So what is read at a point is the innermost of the scopes that
are open there (`Reaches.bound`), whatever was opened and closed on the way.

The house is not put back when a scope ends: what a body did to it stays.
-/
import Gatehouse.House.Flow
import Gatehouse.Proofs.House.Client
import Gatehouse.Proofs.House.Nobody

namespace Gatehouse

open House (Step)

/-! ### Programs -/

/-- A program, run for an outcome. -/
inductive Job where
  /-- It is done. -/
  | done (outcome : Except Fault Unit)
  /-- Something happens to the house, and what is left to do may depend on the house. -/
  | step (st : Step) (rest : House → Job)
  /-- A check is made, of whatever kind, and what is left to do may depend on its outcome. -/
  | check (question : Surroundings → Except Fault Unit) (rest : Except Fault Unit → Job)
  /-- A body is run inside a scope, and what is left to do may depend on its outcome. -/
  | within (s : Scope SessionRef) (body : Job) (rest : Except Fault Unit → Job)

variable {slot : Slot (Scope SessionRef)}

namespace Job

/-- Runs the program in a flow. -/
def run : Job → Flow slot → Flow slot × Except Fault Unit
  | .done outcome, f => (f, outcome)
  | .step st rest, f => (rest (f.house.step st)).run (f.withHouse (f.house.step st))
  | .check question rest, f => (rest (question f.surroundings)).run f
  | .within s body rest, f =>
    let (after, outcome) := f.within s body.run
    (rest outcome).run after

/-- What the run does to the house. -/
def steps : Job → Flow slot → List Step
  | .done _, _ => []
  | .step st rest, f => st :: (rest (f.house.step st)).steps (f.withHouse (f.house.step st))
  | .check question rest, f => (rest (question f.surroundings)).steps f
  | .within s body rest, f =>
    let (after, outcome) := f.within s body.run
    body.steps (f.enter s) ++ (rest outcome).steps after

/-- The run gets to a point.  With it come the scopes that are open there, the innermost first, the
steps until then, and what is left to do in the innermost scope. -/
inductive Reaches : Flow slot → Job → List (Scope SessionRef) → List Step → Flow slot → Job → Prop
  /-- It starts. -/
  | here (f : Flow slot) (job : Job) : Reaches f job [] [] f job
  /-- It goes on after a step. -/
  | step {f f' : Flow slot} {st : Step} {rest : House → Job} {job : Job}
    {scopes : List (Scope SessionRef)} {steps : List Step}
    (h : Reaches (f.withHouse (f.house.step st)) (rest (f.house.step st)) scopes steps f' job) :
    Reaches f (.step st rest) scopes (st :: steps) f' job
  /-- It goes on after a check. -/
  | check {f f' : Flow slot} {question : Surroundings → Except Fault Unit}
    {rest : Except Fault Unit → Job} {job : Job}
    {scopes : List (Scope SessionRef)} {steps : List Step}
    (h : Reaches f (rest (question f.surroundings)) scopes steps f' job) :
    Reaches f (.check question rest) scopes steps f' job
  /-- It is in the body of a scope. -/
  | inside {f f' : Flow slot} {s : Scope SessionRef} {body : Job} {rest : Except Fault Unit → Job}
    {job : Job} {scopes : List (Scope SessionRef)} {steps : List Step}
    (h : Reaches (f.enter s) body scopes steps f' job) :
    Reaches f (.within s body rest) (scopes ++ [s]) steps f' job
  /-- It goes on after a scope. -/
  | after {f f' : Flow slot} {s : Scope SessionRef} {body : Job} {rest : Except Fault Unit → Job}
    {job : Job} {scopes : List (Scope SessionRef)} {steps : List Step}
    (h : Reaches (f.within s body.run).1 (rest (f.within s body.run).2) scopes steps f' job) :
    Reaches f (.within s body rest) scopes (body.steps (f.enter s) ++ steps) f' job

variable {f f' f'' : Flow slot} {job job' job'' : Job} {scopes scopes' : List (Scope SessionRef)}
  {steps steps' : List Step}

theorem Reaches.trans (h : Reaches f job scopes steps f' job')
    (h' : Reaches f' job' scopes' steps' f'' job'') :
    Reaches f job (scopes' ++ scopes) (steps ++ steps') f'' job'' := by
  induction h with
  | here f job =>
    rw [List.append_nil]
    exact h'
  | step _ ih => exact .step (ih h')
  | check _ ih => exact .check (ih h')
  | inside _ ih =>
    rw [← List.append_assoc]
    exact .inside (ih h')
  | after _ ih =>
    rw [List.append_assoc]
    exact .after (ih h')

/-- Every run gets to its end, outside the scopes that it opened. -/
theorem reaches_done (job : Job) (f : Flow slot) :
    Reaches f job [] (job.steps f) (job.run f).1 (.done (job.run f).2) := by
  induction job generalizing f with
  | done outcome => exact .here f _
  | step st rest ih => exact .step (ih _ _)
  | check question rest ih => exact .check (ih _ _)
  | within s body rest _ ih => exact .after (ih _ _)

/-! ### The slot and the house -/

/-- A program leaves bound what it found bound. -/
theorem bound_run (hslot : slot.Lawful) (job : Job) (f : Flow slot) :
    (job.run f).1.bound = f.bound := by
  induction job generalizing f with
  | done outcome => rfl
  | step st rest ih => exact ih _ _
  | check question rest ih => exact ih _ _
  | within s body rest _ ih => exact (ih _ _).trans (hslot.read_release _ _)

theorem house_run (job : Job) (f : Flow slot) :
    (job.run f).1.house = f.house.stepAll (job.steps f) := by
  induction job generalizing f with
  | done outcome => rfl
  | step st rest ih => exact ih _ _
  | check question rest ih => exact ih _ _
  | within s body rest ihBody ih =>
    rw [run, steps, House.stepAll_append]
    refine (ih _ _).trans ?_
    exact congrArg (House.stepAll · _) (ihBody (f.enter s))

/-- What is bound at a point is the innermost of the scopes that are open there. -/
theorem Reaches.bound (hslot : slot.Lawful) (h : Reaches f job scopes steps f' job') :
    f'.bound = scopes.head?.or f.bound := by
  induction h with
  | here f job => rfl
  | step _ ih => exact ih
  | check _ ih => exact ih
  | @inside f f' s body rest job scopes steps _ ih =>
    have hbound : (f.enter s).bound = some s := hslot.read_bind f.cell s
    rw [ih, hbound]
    cases scopes <;> rfl
  | @after f f' s body rest job scopes steps _ ih =>
    have hbound : (f.within s body.run).1.bound = f.bound := hslot.read_release f.cell _
    rw [ih, hbound]

/-- The house at a point is what the steps until then make of it, inside scopes or not. -/
theorem Reaches.house (h : Reaches f job scopes steps f' job') :
    f'.house = f.house.stepAll steps := by
  induction h with
  | here f job => rfl
  | step _ ih => exact ih
  | check _ ih => exact ih
  | inside _ ih => exact ih
  | @after f f' s body rest job scopes steps _ ih =>
    rw [ih, House.stepAll_append]
    exact congrArg (House.stepAll · steps) (house_run body (f.enter s))

/-! ### The answers at a point -/

/-- What is answered where these scopes are open, the innermost first, after these steps. -/
structure Answers (f : Flow slot) (scopes : List (Scope SessionRef)) (steps : List Step) : Prop where
  /-- In a scope of a session, that session is answerable, and it is the current one. -/
  session : ∀ r, scopes.head? = some (.session r) → f.active = .session r ∧ f.currentSession = r
  /-- In a scope of the system, the program itself is answerable. -/
  system : scopes.head? = some .system → f.active = .system
  /-- Outside all scopes it is the program as a client, with what the last login granted... -/
  client : scopes = [] → ∀ permissions id, House.LoggedIn permissions id steps →
    f.active = .client ⟨permissions.snapshot, id⟩
  /-- ... and nobody if the program is not logged in. -/
  unbound : scopes = [] → (∀ permissions id, ¬ House.LoggedIn permissions id steps) →
    f.active = .unbound
  /-- But for a scope of a session, the Empty session is the current one. -/
  empty : (∀ r, scopes.head? ≠ some (.session r)) →
    f.currentSession = emptyRef ∧ f.house.session emptyRef = .empty
  /-- The program itself is at work in a scope of the system, and nowhere else. -/
  isSystem : f.isSystem = true ↔ scopes.head? = some .system
  /-- This is what the house says of the scopes, and a check looks at that. -/
  house : f.active = f.house.active scopes ∧ f.currentSession = f.house.currentSession scopes ∧
    f.isSystem = (f.house.active scopes).isSystem ∧ f.surroundings = f.house.surroundings scopes

/-- The slot tells as much as the scopes that are open. -/
theorem house_of_bound (hbound : f.bound = scopes.head?) :
    f.active = f.house.active scopes ∧ f.currentSession = f.house.currentSession scopes ∧
      f.isSystem = (f.house.active scopes).isSystem ∧
      f.surroundings = f.house.surroundings scopes := by
  have hactive : f.active = f.house.active scopes := by
    unfold Flow.active House.active Active.resolve
    rw [hbound]
    rcases scopes with _ | ⟨_ | _, _⟩ <;> rfl
  have hclient : f.bound = none → (f.house.active scopes).isSystem = false ∧
      f.house.currentSession scopes = emptyRef := by
    intro hnone
    unfold House.currentSession
    rw [← hactive, Flow.active, hnone]
    cases f.house.client.current <;> exact ⟨rfl, rfl⟩
  unfold Flow.currentSession Flow.isSystem Flow.surroundings House.surroundings
  rw [hactive, hbound]
  rcases scopes with _ | ⟨_ | _, _⟩
  · obtain ⟨hsystem, hcurrent⟩ := hclient hbound
    exact ⟨rfl, hcurrent.symm, hsystem.symm, rfl⟩
  · exact ⟨rfl, rfl, rfl, rfl⟩
  · exact ⟨rfl, rfl, rfl, rfl⟩

theorem answers_of_bound (hbound : f.bound = scopes.head?) {start : House}
    (hstart : start.client.current = none) (hempty : f.house.session emptyRef = .empty)
    (hhouse : f.house = start.stepAll steps) : Answers f scopes steps where
  session := by
    intro r hr
    simp [Flow.active, Flow.currentSession, hbound, hr]
  system := by
    intro hsystem
    simp [Flow.active, hbound, hsystem]
  client := by
    intro hnone permissions id hin
    have hcurrent := (House.current_stepAll hstart steps).2 ⟨permissions, id, hin, rfl⟩
    rw [← hhouse] at hcurrent
    simp [Flow.active, hbound, hnone, hcurrent]
  unbound := by
    intro hnone hout
    have hcurrent : f.house.client.current = none := by
      refine Option.eq_none_iff_forall_ne_some.2 ?_
      intro snapshot hsome
      rw [hhouse, House.current_stepAll hstart] at hsome
      obtain ⟨permissions, id, hin, -⟩ := hsome
      exact hout permissions id hin
    simp [Flow.active, hbound, hnone, hcurrent]
  empty := by
    intro hnone
    refine ⟨?_, hempty⟩
    unfold Flow.currentSession
    rw [hbound]
    rcases scopes with _ | ⟨r | _, _⟩
    · rfl
    · exact absurd rfl (hnone r)
    · rfl
  isSystem := by
    unfold Flow.isSystem
    rw [hbound]
    rcases scopes with _ | ⟨_ | _, _⟩ <;> simp
  house := house_of_bound hbound

/-! ### After a scope -/

/-- A flow goes on after a scope in which these steps were done. -/
structure Resumes (before after : Flow slot) (inside : List Step) : Prop where
  /-- The session that was current before is so again. -/
  currentSession : after.currentSession = before.currentSession
  /-- The program itself is at work if it was before. -/
  isSystem : after.isSystem = before.isSystem
  /-- Who is answerable is what it would have been before with the house as it is now. -/
  active : after.active = (before.withHouse after.house).active
  /-- The house is as the body left it. -/
  house : after.house = before.house.stepAll inside

theorem resumes_within (hslot : slot.Lawful) (f : Flow slot) (s : Scope SessionRef) (body : Job) :
    Resumes f (f.within s body.run).1 (body.steps (f.enter s)) := by
  have hbound : (f.within s body.run).1.bound = f.bound := hslot.read_release f.cell _
  refine ⟨?_, ?_, ?_, house_run body (f.enter s)⟩
  · rw [Flow.currentSession, hbound, Flow.currentSession]
  · rw [Flow.isSystem, hbound, Flow.isSystem]
  · rw [Flow.active, hbound, Flow.active]
    rfl

/-- **At every point of every program the innermost scope that is open there decides, and outside all
scopes the last login; after a scope, however its body ended, it is as before but for the house.** -/
theorem innermost_scope_decides (hslot : slot.Lawful) (settings : SessionSettings)
    (now : Instant) (address : AddressSource) (auth : Option AuthModule) (job : Job) :
    let f := Flow.start slot (.fresh settings now address auth)
    (∀ scopes steps f' job', Reaches f job scopes steps f' job' → Answers f' scopes steps) ∧
    ∀ scopes steps f' s body rest, Reaches f job scopes steps f' (.within s body rest) →
      let inside := body.steps (f'.enter s)
      let (after, outcome) := f'.within s body.run
      Resumes f' after inside ∧ Reaches f job scopes (steps ++ inside) after (rest outcome) := by
  intro f
  have hvacant : f.bound = none := hslot.read_vacant
  constructor
  · intro scopes steps f' job' h
    have hhouse := h.house
    have hbound := h.bound hslot
    rw [hvacant, Option.or_none] at hbound
    have hempty : (f.house.stepAll steps).session emptyRef = .empty :=
      ((House.vacant_fresh settings now address auth).stepAll steps).vacant
    have hstart : f.house.client.current = none := rfl
    rw [← hhouse] at hempty
    exact answers_of_bound hbound hstart hempty hhouse
  · intro scopes steps f' s body rest h
    have hgoes := h.trans (.after (.here _ _))
    rw [List.append_nil] at hgoes
    exact ⟨resumes_within hslot f' s body, hgoes⟩

/-- The program logs in again inside two scopes, of which the inner one ends with a fault.  In there
the program itself is answerable, and afterwards it is so as a client with what it was granted last. -/
theorem login_within_scopes :
    let reader := PermissionSet.ofCodes [⟨"READ"⟩]
    let writer := PermissionSet.ofCodes [⟨"WRITE"⟩]
    let ada : SessionRecord := ⟨⟨7⟩, 1, "ada", "", none, [], "", [], ""⟩
    let inner : Job := .step (.event (.circumstance (.login writer ⟨6⟩))) fun _ =>
      .done (.error .notLoggedOn)
    let job : Job := .step (.event (.restore ada)) fun _ =>
      .step (.event (.circumstance (.login reader ⟨5⟩))) fun _ =>
        .within (.session 1) (.within .system inner .done) .done
    let f := Flow.start (.plain _) (.fresh .default .epoch (.fixed "") none)
    (∃ steps f', Reaches f job [.system, .session 1] steps f' inner ∧ f'.active = .system ∧
      f'.currentSession = emptyRef) ∧
    (job.run f).1.active = .client ⟨writer.snapshot, ⟨6⟩⟩ ∧
      (job.run f).2 = .error .notLoggedOn := by
  intro reader writer ada inner job f
  obtain ⟨hanswers, -⟩ := innermost_scope_decides (Slot.lawful_plain _) .default .epoch
    (.fixed "") none job
  refine ⟨?_, ?_, rfl⟩
  · have hinside : Reaches f job ([] ++ [.system] ++ [.session 1]) _ _ inner :=
      .step (.step (.inside (.inside (.here _ _))))
    have hthere := hanswers _ _ _ _ hinside
    exact ⟨_, _, hinside, hthere.system rfl, (hthere.empty (by simp)).1⟩
  · have hthere := hanswers _ _ _ _ (reaches_done job f)
    have hsteps : job.steps f = [.event (.restore ada), .event (.circumstance (.login reader ⟨5⟩))] ++
        [.event (.circumstance (.login writer ⟨6⟩))] := rfl
    refine hthere.client rfl writer ⟨6⟩ ?_
    rw [hsteps]
    exact comesAndStays_concat.2 (.inr rfl)

end Job

end Gatehouse
