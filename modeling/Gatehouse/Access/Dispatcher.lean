/-
Dispatch by operation.

A dispatcher has a guard chain for each operation it knows, the one registered
last under the operation's exact name, and a fallback for all others.  The fallback
is the one that was set last, and requires nothing if none was.
-/
import Gatehouse.Access.Chain

namespace Gatehouse

/-- Guard chains by operation. -/
structure Dispatcher where
  /-- The chains of the operations that are known. -/
  chains : SortedMap String Chain
  /-- The chain of all others. -/
  fallback : Chain

namespace Dispatcher

instance : Inhabited Dispatcher := ⟨⟨∅, .unguarded⟩⟩

/-- The chain that guards an operation. -/
def chain (d : Dispatcher) (name : String) : Chain := (d.chains.get? name).getD d.fallback

/-- Whether the operation is known. -/
def contains (d : Dispatcher) (name : String) : Bool := d.chains.contains name

/-- The operations that are known, in order. -/
def operations (d : Dispatcher) : List String := d.chains.keys

/-- Does something on behalf of an operation, if its chain lets it; asking for a requirement has an
effect of its own. -/
def invokeM {m : Type → Type} [Monad m] {α : Type} (d : Dispatcher) (touch : Requirement → m Unit)
    (around : Surroundings) (name : String) (handler : m α) : m (Except Fault α) :=
  (d.chain name).runM touch around handler

end Dispatcher

/-! ### Building dispatchers -/

/-- What has been said of a dispatcher that is being built. -/
structure DispatcherBuilder where
  /-- The chains registered so far, by operation. -/
  chains : SortedMap String Chain
  /-- The chain for operations that are not known, if one was set. -/
  fallback : Option Chain

namespace DispatcherBuilder

/-- Nothing has been said. -/
def fresh : DispatcherBuilder := ⟨∅, none⟩

instance : Inhabited DispatcherBuilder := ⟨fresh⟩

/-- Registers a chain for an operation, in place of an earlier one. -/
def operation (b : DispatcherBuilder) (name : String) (c : Chain) : DispatcherBuilder :=
  { b with chains := b.chains.insert name c }

/-- Sets the chain for operations that are not known. -/
def withFallback (b : DispatcherBuilder) (c : Chain) : DispatcherBuilder :=
  { b with fallback := some c }

/-- The dispatcher. -/
def build (b : DispatcherBuilder) : Dispatcher := ⟨b.chains, b.fallback.getD .unguarded⟩

end DispatcherBuilder

end Gatehouse
