/-!
# Aborts

The two misuses that have no answer at all.
-/

namespace ContextBaggage

inductive Abort
  /-- The current context was to be replaced while it was being read. -/
  | currentInUse
  /-- All variables were asked for as texts, and one of them is none. -/
  | variableNotText
deriving DecidableEq, Repr

end ContextBaggage
