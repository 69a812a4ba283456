/-!
# Ascending tables of code points

A property of characters is stored as an ascending list of disjoint ranges, and a change of case
as an ascending list of runs. A search goes through the rows once and stops at the first row that
ends at or after the code point asked for, since no later row can hold it.

This module holds the search. The tables are data and have modules of their own.
-/

namespace ContextBaggage.Text

structure Range where
  first : Nat
  last : Nat
deriving DecidableEq, Repr

namespace Range

/-- Membership of a code point in an ascending table. -/
def covers (table : List Range) (n : Nat) : Bool :=
  match table.find? fun r => n ≤ r.last with
  | some r => r.first ≤ n
  | none => false

end Range

def inTable (table : List Range) (c : Char) : Bool := Range.covers table c.toNat

/-- Every `stride`-th code point from `first` to `last` changes case by one shift: `first` becomes
`image`, and the others keep their distance to it. -/
structure CaseRun where
  first : Nat
  last : Nat
  stride : Nat
  image : Nat
deriving DecidableEq, Repr

namespace CaseRun

def image? (r : CaseRun) (n : Nat) : Option Nat :=
  if r.first ≤ n ∧ (n - r.first) % r.stride = 0 then some (r.image + (n - r.first)) else none

/-- The image of a code point under an ascending table; `none` when it stays as it is. -/
def lookup (table : List CaseRun) (n : Nat) : Option Nat :=
  (table.find? fun r => n ≤ r.last).bind fun r => r.image? n

end CaseRun

end ContextBaggage.Text
