import ContextBaggage.Abort
import ContextBaggage.Attachments

/-!
# Scopes and guards

A scope is the place where contexts are attached, one for each thread of work. Attaching gives a
guard, which is asked once: to release the attachment, or to be forgotten, after which the
attachment stays. When no position is left the attachment is refused with an event, and the guard
guards nothing.

The scope lists the guards it has given in order and refers to them by their number. A guard that
has been dropped or forgotten is no longer held.
-/

namespace ContextBaggage

variable {α : Type}

inductive Guard
  | attached (position : UInt16)
  | refused
deriving DecidableEq, Repr

structure Scope (α : Type) where
  attachments : Attachments α
  /-- All guards given so far; `none` for those no longer held. -/
  guards : Array (Option Guard)

namespace Scope

inductive Request (α : Type)
  | attach (cx : α)
  | drop (guard : Nat)
  | forget (guard : Nat)

def start (base : α) : Scope α := ⟨.start base, #[]⟩

def current (s : Scope α) : α := s.attachments.current

def guard? (s : Scope α) (guard : Nat) : Option Guard := s.guards[guard]?.join

def isHeld (s : Scope α) (guard : Nat) : Bool := (s.guard? guard).isSome

def attach (s : Scope α) (cx : α) : Logged (Scope α) :=
  if s.attachments.isFull then
    ⟨⟨s.attachments, s.guards.push (some .refused)⟩, [.attachFailed]⟩
  else
    let position := s.attachments.nextPosition
    pure ⟨s.attachments.attach cx, s.guards.push (some (.attached position))⟩

/-- The guard is gone and its attachment stays. -/
def forget (s : Scope α) (guard : Nat) : Scope α :=
  { s with guards := s.guards.setIfInBounds guard none }

/-- The guard is gone, and so is its attachment. -/
def drop (s : Scope α) (guard : Nat) : Logged (Scope α) :=
  match s.guard? guard with
  | some (.attached position) => do
    let attachments ← s.attachments.release position
    return ⟨attachments, s.guards.setIfInBounds guard none⟩
  | _ => pure (s.forget guard)

def answer (s : Scope α) : Request α → Logged (Scope α)
  | .attach cx => s.attach cx
  | .drop guard => s.drop guard
  | .forget guard => pure (s.forget guard)

def run (s : Scope α) (requests : List (Request α)) : Logged (Scope α) := requests.foldlM answer s

/-- While the current context is being read it cannot be replaced: what would do so aborts. -/
def answerWhileReading (s : Scope α) : Request α → Except Abort (Scope α)
  | .attach _ => .error .currentInUse
  | .drop guard =>
    match s.guard? guard with
    | some (.attached _) => .error .currentInUse
    | _ => .ok (s.forget guard)
  | .forget guard => .ok (s.forget guard)

end Scope

end ContextBaggage
