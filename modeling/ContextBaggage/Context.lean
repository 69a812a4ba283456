import ContextBaggage.Baggage

/-!
# Contexts

A context holds what belongs to one request: baggage, and one value for each of some slots. Which
slots there are, and the type of the value in each, is up to the program that uses the context. A
context is never changed; every update gives a new one.
-/

namespace ContextBaggage

variable {Slot : Type} {Value : Slot → Type}

structure Context (Value : Slot → Type) where
  /-- `none` when no baggage was ever stored, which is not the same as empty baggage. -/
  baggage? : Option Baggage
  /-- At most one value for each slot. -/
  values : List (Sigma Value)

namespace Context

def empty : Context Value := ⟨none, []⟩

section Baggage

def baggage (cx : Context Value) : Baggage := cx.baggage?.getD .empty

def hasBaggage (cx : Context Value) : Bool := cx.baggage?.isSome

def withBaggage (cx : Context Value) (b : Baggage) : Context Value := { cx with baggage? := some b }

def clearBaggage (cx : Context Value) : Context Value := cx.withBaggage .empty

@[simp] theorem baggage?_withBaggage (cx : Context Value) (b : Baggage) :
    (cx.withBaggage b).baggage? = some b := rfl

@[simp] theorem baggage_withBaggage (cx : Context Value) (b : Baggage) :
    (cx.withBaggage b).baggage = b := rfl

@[simp] theorem values_withBaggage (cx : Context Value) (b : Baggage) :
    (cx.withBaggage b).values = cx.values := rfl

/-- What baggage was there before does not matter. -/
theorem withBaggage_congr {cx other : Context Value} (h : cx.values = other.values)
    (b : Baggage) : cx.withBaggage b = other.withBaggage b := by
  rw [withBaggage, withBaggage, h]

end Baggage

section Values
variable [DecidableEq Slot]

def lookup (slot : Slot) : List (Sigma Value) → Option (Value slot)
  | [] => none
  | ⟨s, v⟩ :: rest => if h : s = slot then some (h ▸ v) else lookup slot rest

def get? (cx : Context Value) (slot : Slot) : Option (Value slot) := lookup slot cx.values

/-- Stores a value in place of any earlier one in its slot. -/
def withValue (cx : Context Value) (slot : Slot) (v : Value slot) : Context Value :=
  { cx with values := ⟨slot, v⟩ :: cx.values.filter fun w => w.1 ≠ slot }

@[simp] theorem get?_withBaggage (cx : Context Value) (b : Baggage) (slot : Slot) :
    (cx.withBaggage b).get? slot = cx.get? slot := rfl

end Values

def count (cx : Context Value) : Nat := cx.values.length + if cx.hasBaggage then 1 else 0

/-- A context shows how much it holds, not what. -/
def inspect (cx : Context Value) : String :=
  "Context \x7b entries count: " ++ toString cx.count ++ " \x7d"

end Context

end ContextBaggage
