import ContextBaggage.Entry

/-!
# Baggage

An ordered list of entries, at most one for each key, that travels with a request. Every update
gives a new value. A pair that is set stands first, before all other entries in their order, and
takes the place of the entry that had its key; a pair that breaks a rule or a limit is refused
with the cause.
-/

namespace ContextBaggage

structure Baggage where
  entries : List Entry
  /-- What all entries are charged together, kept so that it need not be counted again. -/
  size : Nat
deriving DecidableEq

namespace Baggage

def charge (es : List Entry) : Nat := es.foldr (fun e n => e.size + n) 0

@[simp] theorem charge_nil : charge [] = 0 := rfl

@[simp] theorem charge_cons (e : Entry) (es : List Entry) :
    charge (e :: es) = e.size + charge es := rfl

@[simp] theorem charge_append (ds es : List Entry) :
    charge (ds ++ es) = charge ds + charge es := by
  induction ds with
  | nil => simp
  | cons d ds ih => simp [ih, Nat.add_assoc]

theorem charge_le_of_sublist {ds es : List Entry} (h : ds.Sublist es) : charge ds ≤ charge es := by
  induction h with
  | slnil => exact Nat.le_refl _
  | cons e _ ih =>
    rw [charge_cons]
    omega
  | cons_cons e _ ih =>
    rw [charge_cons, charge_cons]
    omega

def ofEntries (es : List Entry) : Baggage := ⟨es, charge es⟩

def empty : Baggage := ofEntries []

def length (b : Baggage) : Nat := b.entries.length

def isEmpty (b : Baggage) : Bool := b.entries.isEmpty

def pairs (b : Baggage) : List Pair := b.entries.map Entry.toPair

/-- Baggage is compared by its contents; what the entries are charged does not matter. -/
def sameContents (a b : Baggage) : Bool := a.pairs == b.pairs

/-- The entry of a key; there is none for the empty key. -/
def entry? (b : Baggage) (key : String) : Option Entry :=
  if key.isEmpty then none else b.entries.find? fun e => e.key == key

def get? (b : Baggage) (key : String) : Option String := (b.entry? key).map (·.value)

def others (b : Baggage) (key : String) : List Entry := b.entries.filter fun e => e.key != key

def remove (b : Baggage) (key : String) : Baggage := ofEntries (b.others key)

/-- Puts a pair before the other entries. Its texts are checked before its size. Only the other
entries count towards the limits, so a replaced entry never stands in the way of its successor. -/
def trySet (b : Baggage) (p : Pair) : Except Rejection Baggage :=
  match p.fault? with
  | some rejection => .error rejection
  | none =>
    let others := b.others p.key
    let total := charge others + p.size
    if entrySizeBound ≤ p.size then .error (.entryTooLarge p.size)
    else if maxEntries ≤ others.length then .error .full
    else if totalSizeBound ≤ total then .error (.totalTooLarge total)
    else .ok ⟨p.entry :: others, total⟩

def setOrKeep (b : Baggage) (p : Pair) : Baggage :=
  match b.trySet p with
  | .ok updated => updated
  | .error _ => b

/-- What is left when a pair is refused: nothing if its key or value can never be carried, so that
no stale value is taken for it, and everything otherwise. -/
def afterRejection (b : Baggage) : Rejection → Baggage
  | .invalidKey => empty
  | .invalidValue => empty
  | _ => b

/-- Sets the pairs in turn and skips the refused ones, so that the last pair stands first. -/
def ofPairs (ps : List Pair) : Baggage := ps.foldl setOrKeep empty

/-- Sets the entries again one by one, which reverses them and charges their encoded sizes. -/
def rebuild (b : Baggage) : Baggage := ofPairs b.pairs

end Baggage

end ContextBaggage
