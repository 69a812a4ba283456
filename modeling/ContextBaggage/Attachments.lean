import ContextBaggage.Event

/-!
# Attached contexts

A context is attached to become the current one, and takes the position above all others that are
attached. Attachments may be released in any order. Releasing the highest one brings back the
context below it; releasing another one only takes it out of those that can come back.

Every attachment saves the context it replaces. So the slot at position `p` holds the context
attached at `p` from the moment when another one covers it, and slot 0 holds the context that was
there before all others.

Positions are kept in 16 bits. The lowest number is that of slot 0 and the highest is kept free, so
neither is ever given out; to release one of them, or a position above the highest in use, changes
nothing and leaves an event.
-/

namespace ContextBaggage

variable {α : Type}

structure Attachments (α : Type) where
  current : α
  /-- The covered contexts; a released one leaves `none`. -/
  saved : Array (Option α)

namespace Attachments

def start (base : α) : Attachments α := ⟨base, #[]⟩

/-- The highest position in use; 0 when nothing is attached. -/
def height (s : Attachments α) : Nat := s.saved.size

def isFull (s : Attachments α) : Bool := positionBound ≤ s.height + 1

def nextPosition (s : Attachments α) : UInt16 := .ofNat (s.height + 1)

/-- Attaches a context at the position above all others. -/
def attach (s : Attachments α) (cx : α) : Attachments α := ⟨cx, s.saved.push (some s.current)⟩

/-- Releases the highest attachment. The next context that has not been released becomes the
current one. -/
def uncover : Attachments α → Attachments α
  | ⟨current, saved⟩ =>
    let kept := saved.popWhile Option.isNone
    match kept.back? with
    | some (some previous) => ⟨previous, kept.pop⟩
    | _ => ⟨current, kept.pop⟩

/-- Releases a covered attachment: its context cannot come back. -/
def clear : Attachments α → UInt16 → Attachments α
  | ⟨current, saved⟩, position => ⟨current, saved.setIfInBounds position.toNat none⟩

@[simp] theorem height_attach (s : Attachments α) (cx : α) : (s.attach cx).height = s.height + 1 :=
  Array.size_push (some s.current)

@[simp] theorem height_clear (s : Attachments α) (position : UInt16) :
    (s.clear position).height = s.height :=
  Array.size_setIfInBounds

def release (s : Attachments α) (position : UInt16) : Logged (Attachments α) :=
  let height := UInt16.ofNat s.height
  if position = 0 ∨ position = .ofNat positionBound then ⟨s, [.outOfOrderDrop position]⟩
  else if position = height then pure s.uncover
  else if height < position then ⟨s, [.popOutOfBounds position height]⟩
  else pure (s.clear position)

end Attachments

end ContextBaggage
