import ContextBaggage.Propagator.Selection
import ContextBaggage.Scope

/-!
# A host

What a program has that serves requests: its environment, the propagator installed for all its
parts, which is the one that does nothing until another is installed, and the scope of its thread
of work.
-/

namespace ContextBaggage

variable {Slot : Type}

structure Host (Value : Slot → Type) where
  environment : Environment
  installed : Propagator Value
  scope : Scope (Context Value)

namespace Host

variable {Value : Slot → Type} {κ : Type} [Injector κ]

def start (environment : Environment) : Host Value :=
  ⟨environment, .noop, .start .empty⟩

def install (h : Host Value) (propagator : Propagator Value) : Host Value :=
  { h with installed := propagator }

def current (h : Host Value) : Context Value := h.scope.current

def currentOfNewThread : Context Value := (Scope.start .empty : Scope (Context Value)).current

end Host

end ContextBaggage
