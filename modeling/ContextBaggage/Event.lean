import ContextBaggage.Rejection

/-!
# Events

Operations that never fail leave a note when they could not do all that was asked. A note is an
event, and a result that may come with notes is a logged value: its events are listed in the order
in which they happened.
-/

namespace ContextBaggage

inductive Level
  | debug
  | warning
deriving DecidableEq, Repr

inductive Component
  | baggage
  | propagation
deriving DecidableEq, Repr

inductive Event
  | setRejected (cause : Rejection)
  | attachFailed
  /-- The position of no attachment was to be released. -/
  | outOfOrderDrop (position : UInt16)
  /-- A position above the highest one, `height`, was to be released. -/
  | popOutOfBounds (position height : UInt16)
  /-- `count` members of a received header were skipped, the first of them for `cause`. -/
  | membersSkipped (count : Nat) (cause : Rejection)
  | unknownPropagator (name : String)
deriving DecidableEq, Repr

inductive Detail
  | text (s : String)
  | count (n : Nat)
deriving DecidableEq, Repr

namespace Event

def name : Event → String
  | setRejected _ => "Baggage.Set.Rejected"
  | attachFailed => "Context.AttachFailed"
  | outOfOrderDrop _ => "Context.OutOfOrderDrop"
  | popOutOfBounds .. => "Context.PopOutOfBounds"
  | membersSkipped .. => "BaggagePropagator.Extract.MembersSkipped"
  | unknownPropagator _ => "Propagators.Config.Unknown"

def level : Event → Level
  | setRejected _ => .debug
  | attachFailed => .warning
  | outOfOrderDrop _ => .warning
  | popOutOfBounds .. => .warning
  | membersSkipped .. => .debug
  | unknownPropagator _ => .warning

def component : Event → Component
  | setRejected _ => .baggage
  | attachFailed => .baggage
  | outOfOrderDrop _ => .baggage
  | popOutOfBounds .. => .baggage
  | membersSkipped .. => .propagation
  | unknownPropagator _ => .propagation

/-- What an event tells besides its name. -/
def details : Event → List (String × Detail)
  | setRejected cause => [("reason", .text cause.message)]
  | attachFailed =>
    [("message", .text (s!"Too many contexts. Max limit is {positionBound}. " ++
      "The current context is unchanged."))]
  | outOfOrderDrop position =>
    [("position", .count position.toNat),
      ("message", .text "Attempted to pop the base or overflow position")]
  | popOutOfBounds position height =>
    [("position", .count position.toNat), ("stack_length", .count height.toNat),
      ("message", .text "Attempted to pop beyond the end of the context stack")]
  | membersSkipped count cause =>
    [("skipped", .count count), ("first_reason", .text cause.message)]
  | unknownPropagator name =>
    [("propagator", .text name),
      ("message", .text "Unsupported propagator in OTEL_PROPAGATORS, ignored")]

end Event

structure Logged (α : Type) where
  value : α
  events : List Event
deriving DecidableEq

namespace Logged

variable {α β : Type}

def bind (x : Logged α) (f : α → Logged β) : Logged β :=
  ⟨(f x.value).value, x.events ++ (f x.value).events⟩

instance : Monad Logged where
  pure a := ⟨a, []⟩
  bind := Logged.bind

@[simp] theorem value_pure (a : α) : (pure a : Logged α).value = a := rfl

@[simp] theorem value_bind (x : Logged α) (f : α → Logged β) :
    (x >>= f).value = (f x.value).value := rfl

@[simp] theorem events_bind (x : Logged α) (f : α → Logged β) :
    (x >>= f).events = x.events ++ (f x.value).events := rfl

theorem bind_congr_value {x : Logged α} {f g : α → Logged β} (h : f x.value = g x.value) :
    x >>= f = x >>= g := by
  show Logged.bind x f = Logged.bind x g
  rw [Logged.bind, Logged.bind, h]

theorem eq_pure {x : Logged α} (h : x.events = []) : x = pure x.value := by
  cases x
  cases h
  rfl

instance : LawfulMonad Logged :=
  .mk' Logged (fun x => by simp [Functor.map, Logged.bind])
    (fun a f => by simp [Bind.bind, Logged.bind, pure])
    (fun x f g => by simp [Bind.bind, Logged.bind])

end Logged

end ContextBaggage
