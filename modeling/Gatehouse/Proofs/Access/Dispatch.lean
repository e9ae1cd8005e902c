/-
What guards an operation.

A dispatcher is built by registering chains for operations and setting a fallback, as often as
one likes and in any order.  What guards an operation afterwards is said here of the calls
alone (`guardOf`): the chain that was registered last under its very name, or else the fallback
that was set last, or else nothing.

The two halves of a builder are filled by different calls, and the entries of its map by calls
with different names.  So each of them is the last of the calls that are about it
(`get?_chains_foldl`, `fallback_foldl`), and calls about different things can be made in any
order.  How the chain then gates what is done is known of chains.
-/
import Gatehouse.Access.Dispatcher
import Gatehouse.Proofs.Access.Gating
import Gatehouse.Proofs.SortedMap
import Gatehouse.Proofs.Text.Utf8

namespace Gatehouse

namespace DispatcherBuilder

/-! ### Calls of a builder -/

/-- What can be said of a dispatcher that is being built. -/
inductive Call where
  /-- An operation is guarded by this chain. -/
  | operation (name : String) (chain : Chain)
  /-- Operations that are not known are guarded by this chain. -/
  | fallback (chain : Chain)

namespace Call

/-- The chain that is registered under a name. -/
def registered? (name : String) : Call → Option Chain
  | .operation name' chain => if name = name' then some chain else none
  | .fallback _ => none

theorem registered?_eq_some_iff {name : String} {call : Call} {chain : Chain} :
    call.registered? name = some chain ↔ call = .operation name chain := by
  cases call with
  | operation name' chain' =>
    by_cases hname : name = name'
    · simp [registered?, hname]
    · simp [registered?, hname, Ne.symm hname]
  | fallback chain' => simp [registered?]

/-- The fallback that is set. -/
def fallback? : Call → Option Chain
  | .operation _ _ => none
  | .fallback chain => some chain

end Call

/-- The builder after a call. -/
def apply (b : DispatcherBuilder) : Call → DispatcherBuilder
  | .operation name chain => b.operation name chain
  | .fallback chain => b.withFallback chain

/-- The dispatcher that some calls build. -/
def dispatcherOf (calls : List Call) : Dispatcher := (calls.foldl apply fresh).build

/-- The chain that was registered last under a name. -/
def lastRegistered (calls : List Call) (name : String) : Option Chain :=
  (calls.filterMap (Call.registered? name)).getLast?

/-- The fallback that was set last. -/
def lastFallback (calls : List Call) : Option Chain := (calls.filterMap Call.fallback?).getLast?

/-- What guards an operation: the chain that was registered last under its name, or else the
fallback that was set last, or else nothing. -/
def guardOf (calls : List Call) (name : String) : Chain :=
  (lastRegistered calls name).getD ((lastFallback calls).getD .unguarded)

/-- The calls are the same but for the order of those that are about different things. -/
structure Reordered (calls calls' : List Call) : Prop where
  /-- Chains are registered under a name in the same order. -/
  registered : ∀ name,
    calls'.filterMap (Call.registered? name) = calls.filterMap (Call.registered? name)
  /-- Fallbacks are set in the same order. -/
  fallback : calls'.filterMap Call.fallback? = calls.filterMap Call.fallback?

/-! ### What the calls leave -/

theorem get?_chains_foldl (calls : List Call) (b : DispatcherBuilder) (name : String) :
    (calls.foldl apply b).chains.get? name =
      (lastRegistered calls name).or (b.chains.get? name) := by
  unfold lastRegistered
  induction calls generalizing b with
  | nil => rfl
  | cons call calls ih =>
    rw [List.foldl_cons, ih]
    cases call with
    | operation name' chain =>
      simp only [apply, operation, SortedMap.get?_insert, Call.registered?, List.filterMap_cons]
      by_cases hname : name = name'
      · simp only [if_pos hname, List.getLast?_cons]
        cases (calls.filterMap (Call.registered? name)).getLast? <;> rfl
      · simp only [if_neg hname]
    | fallback chain => rfl

theorem fallback_foldl (calls : List Call) (b : DispatcherBuilder) :
    (calls.foldl apply b).fallback = (lastFallback calls).or b.fallback := by
  unfold lastFallback
  induction calls generalizing b with
  | nil => rfl
  | cons call calls ih =>
    rw [List.foldl_cons, ih]
    cases call with
    | operation name chain => rfl
    | fallback chain =>
      simp only [apply, withFallback, Call.fallback?, List.filterMap_cons, List.getLast?_cons]
      cases (calls.filterMap Call.fallback?).getLast? <;> rfl

/-- **The chain that a dispatcher finds is the one that the calls leave.** -/
theorem chain_dispatcherOf (calls : List Call) (name : String) :
    (dispatcherOf calls).chain name = guardOf calls name := by
  show ((calls.foldl apply fresh).chains.get? name).getD
    ((calls.foldl apply fresh).fallback.getD .unguarded) = _
  rw [get?_chains_foldl, fallback_foldl]
  simp [fresh, guardOf]

theorem mem_operations_dispatcherOf {calls : List Call} {name : String} :
    name ∈ (dispatcherOf calls).operations ↔ ∃ chain, .operation name chain ∈ calls := by
  show name ∈ (calls.foldl apply fresh).chains.keys ↔ _
  rw [SortedMap.mem_keys_iff, SortedMap.contains, get?_chains_foldl]
  constructor
  · intro hsome
    obtain ⟨chain, hchain⟩ := Option.isSome_iff_exists.1 hsome
    have hlast : lastRegistered calls name = some chain := by simpa [fresh] using hchain
    obtain ⟨call, hcall, hregistered⟩ := List.mem_filterMap.1 (List.mem_of_getLast? hlast)
    exact ⟨chain, Call.registered?_eq_some_iff.1 hregistered ▸ hcall⟩
  · rintro ⟨chain, hcall⟩
    have hregistered : chain ∈ calls.filterMap (Call.registered? name) :=
      List.mem_filterMap.2 ⟨_, hcall, Call.registered?_eq_some_iff.2 rfl⟩
    have hlast : (lastRegistered calls name).isSome = true :=
      List.getLast?_isSome.2 (List.ne_nil_of_mem hregistered)
    simp [hlast]

/-- Calls about different things can be made in any order. -/
theorem Reordered.guardOf {calls calls' : List Call} (h : Reordered calls calls') (name : String) :
    guardOf calls' name = guardOf calls name := by
  unfold DispatcherBuilder.guardOf lastRegistered lastFallback
  rw [h.registered, h.fallback]

end DispatcherBuilder

/-! ### What is done behind the chain -/

namespace Dispatcher

open DispatcherBuilder

variable {m : Type → Type} [Monad m] [LawfulMonad m] {α : Type}

/-- **An operation is done once if the chain that was registered for it last lets it, and never
otherwise, whatever else was registered and in which order.** -/
theorem guarded_by_last_registration (calls : List Call) (name : String)
    (touch : Requirement → m Unit) (around : Surroundings) (handler : m α) :
    let d := dispatcherOf calls
    let c := guardOf calls name
    -- If the chain passes, its requirements are asked for and the handler is run once, after them.
    (c.evaluate around = .ok () →
      d.invokeM touch around name handler = do
        c.requirements.forM touch
        return .ok (← handler)) ∧
    -- If not, the answer is its fault, and the handler is not run.
    (∀ fault, c.evaluate around = .error fault →
      d.invokeM touch around name handler = do
        (consulted c.checker around c.requirements).forM touch
        return .error fault) ∧
    -- An operation that is not known is let through if no fallback was set.
    (lastRegistered calls name = none → lastFallback calls = none →
      d.invokeM touch around name handler = do
        return .ok (← handler)) ∧
    -- The operations that are known are listed once each, in the order of their bytes.
    d.operations.Pairwise (fun a b => Text.utf8 a.toList < Text.utf8 b.toList) ∧
    (∀ known, known ∈ d.operations ↔ ∃ chain, .operation known chain ∈ calls) ∧
    -- The order of calls that are about different things does not matter.
    (∀ calls', Reordered calls calls' →
      (dispatcherOf calls').invokeM touch around name handler =
        d.invokeM touch around name handler) := by
  intro d c
  have hinvoke : d.invokeM touch around name handler = c.runM touch around handler := by
    unfold invokeM
    rw [chain_dispatcherOf]
  refine ⟨?_, ?_, ?_, ?_, fun _ => mem_operations_dispatcherOf, ?_⟩
  · intro hok
    rw [hinvoke]
    exact (Chain.runM_of_ok touch around hok handler).2
  · intro fault hfault
    rw [hinvoke, Chain.runM_eq, hfault]
  · intro hnone hfallback
    have hopen : c = .unguarded := by
      show guardOf calls name = _
      unfold guardOf
      rw [hnone, hfallback]
      rfl
    rw [hinvoke, hopen, (Chain.runM_of_ok touch around (c := .unguarded) rfl handler).2]
    exact pure_bind _ _
  · exact (SortedMap.pairwise_keys _).imp Text.utf8_lt_iff.2
  · intro calls' hreordered
    rw [hinvoke]
    unfold invokeM
    rw [chain_dispatcherOf, hreordered.guardOf]

/-- Views were closed and are open to whoever is logged on, refunds the other way round.  A fallback
that comes late, or registrations that come in another order, make no difference. -/
theorem views_open_refunds_closed :
    let around := (Chain.viewerHouse .fresh).surroundings [.session 1]
    let logged : Chain := ⟨"logged on", ⟨.deny, none⟩, [.session]⟩
    let shut : Chain := ⟨"shut", ⟨.deny, none⟩, [.session, Chain.closed]⟩
    let calls : List Call := [.operation "view" shut, .operation "refund" logged,
      .operation "view" logged, .operation "refund" shut, .fallback shut]
    let calls' : List Call := [.fallback shut, .operation "refund" logged,
      .operation "refund" shut, .operation "view" shut, .operation "view" logged]
    let d := dispatcherOf calls
    let work := Chain.Tally.work 7
    ((d.invokeM Chain.Tally.ask around "view" work).run ([], 0) = (.ok 7, [.session], 1)) ∧
    ((d.invokeM Chain.Tally.ask around "refund" work).run ([], 0) =
      (.error (.licenseExhausted "closed today"), [.session, Chain.closed], 0)) ∧
    (dispatcherOf calls').invokeM Chain.Tally.ask around "view" work =
      d.invokeM Chain.Tally.ask around "view" work ∧
    ((dispatcherOf []).invokeM Chain.Tally.ask around "health" work).run ([], 0) =
      (.ok 7, [], 1) ∧
    "refund" ∈ d.operations := by
  intro around logged shut calls calls' d work
  obtain ⟨hview, -, -, -, hknown, hreordered⟩ :=
    guarded_by_last_registration calls "view" Chain.Tally.ask around work
  obtain ⟨-, hrefund, -⟩ :=
    guarded_by_last_registration calls "refund" Chain.Tally.ask around work
  obtain ⟨-, -, hhealth, -⟩ :=
    guarded_by_last_registration [] "health" Chain.Tally.ask around work
  have hmoved : Reordered calls calls' := by
    refine ⟨fun name => ?_, rfl⟩
    by_cases hviewed : name = "view"
    · subst hviewed
      rfl
    · by_cases hrefunded : name = "refund"
      · subst hrefunded
        rfl
      · simp [calls, calls', List.filterMap_cons, Call.registered?, hviewed, hrefunded]
  refine ⟨?_, ?_, hreordered calls' hmoved, ?_, (hknown _).2 ⟨shut, by simp [calls]⟩⟩
  · rw [hview rfl]
    rfl
  · rw [hrefund _ rfl]
    rfl
  · rw [hhealth rfl rfl]
    rfl

end Dispatcher

end Gatehouse
