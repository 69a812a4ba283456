import ContextBaggage.Baggage
import ContextBaggage.Event

/-!
# Updates that never fail

Setting a pair for a caller who does not ask whether it was taken. A refused pair leaves an event,
and the baggage falls back to what `Baggage.afterRejection` says.
-/

namespace ContextBaggage.Baggage

def set (b : Baggage) (p : Pair) : Logged Baggage :=
  match b.trySet p with
  | .ok updated => pure updated
  | .error rejection => ⟨b.afterRejection rejection, [.setRejected rejection]⟩

end ContextBaggage.Baggage
