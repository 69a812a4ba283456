import ContextBaggage.Baggage

/-!
# Walking through entries from both ends

A cursor holds the entries not yet seen. Each step takes one of them from the front or from the
back, until none is left.
-/

namespace ContextBaggage.Baggage

structure Cursor where
  unseen : List Entry
deriving DecidableEq

def cursor (b : Baggage) : Cursor := ⟨b.entries⟩

namespace Cursor

def remaining (c : Cursor) : Nat := c.unseen.length

def next (c : Cursor) : Option Entry × Cursor := (c.unseen.head?, ⟨c.unseen.tail⟩)

def nextBack (c : Cursor) : Option Entry × Cursor := (c.unseen.getLast?, ⟨c.unseen.dropLast⟩)

end Cursor

end ContextBaggage.Baggage
