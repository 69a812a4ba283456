import ContextBaggage.Proofs.Hops
import Mathlib.Data.List.Find

/-!
# The log of changes

An update that changes anything is noted in a log: a pair that was put, a key that was dropped, or
the reset that follows an invalid key or value. A pair that is refused for any other reason leaves
no note. The log lists the changes in the order of time.

Baggage moves every pair that is put to the front. The log knows nothing of places, and still the
entries after any updates can be read off it, and so can the entry of each key.
-/

namespace ContextBaggage

inductive Update
  | set (p : Pair)
  | remove (key : String)
deriving DecidableEq

inductive Change
  | put (p : Pair)
  | drop (key : String)
  | reset
deriving DecidableEq

namespace Change

/-- The change decides which entry the key has from now on. -/
def concerns : Change → String → Bool
  | put p, key => key == p.key
  | drop gone, key => key == gone
  | reset, _ => true

theorem find?_filter (c : Change) (es : List Entry) (key : String) :
    (es.filter fun e => !c.concerns e.key).find? (fun e => e.key == key) =
      if c.concerns key then none else es.find? fun e => e.key == key := by
  rw [List.find?_filter]
  split
  · next h =>
    rw [List.find?_eq_none]
    intro e _ hfound
    simp only [Bool.not_eq_true', beq_iff_eq, decide_eq_true_iff] at hfound
    rw [hfound.2, h] at hfound
    cases hfound.1
  · next h =>
    apply List.find?_congr
    intro e _
    by_cases hkey : e.key = key
    · simp [hkey, h]
    · simp [hkey]

end Change

namespace Update

def leg : Update → Leg
  | set p => .set p
  | remove key => .remove key

/-- What the update changes when it is asked of this baggage. -/
def change? (b : Baggage) : Update → Option Change
  | set p =>
    match b.trySet p with
    | .ok _ => some (.put p)
    | .error .invalidKey => some .reset
    | .error .invalidValue => some .reset
    | .error _ => none
  | remove key => some (.drop key)

end Update

namespace Baggage

/-- The baggage after updates that are made one after the other. -/
def after (b : Baggage) (updates : List Update) : Baggage :=
  (travel b (updates.map Update.leg)).value

/-- The changes that the updates make, each of them to the baggage that it finds. -/
def log (b : Baggage) : List Update → List Change
  | [] => []
  | update :: updates => (update.change? b).toList ++ (b.after [update]).log updates

variable {b : Baggage} {update : Update}

example : (((Header.parse "a=1,b=2,c=3").after
    [.set ⟨"b", "4", .empty⟩, .set ⟨"d", "5", .empty⟩, .remove "c", .set ⟨"b", "6", .empty⟩]).pairs.map
      fun p => (p.key, p.value)) = [("b", "6"), ("d", "5"), ("a", "1")] := by
  decide +kernel

end Baggage

end ContextBaggage
