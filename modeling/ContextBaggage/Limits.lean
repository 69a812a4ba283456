/-!
# Limits

The bounds on baggage and on what is remembered of a header that could not be read in full. The
two sizes are exclusive: an entry or a whole that reaches its bound is refused.
-/

namespace ContextBaggage

def maxEntries : Nat := 180

def entrySizeBound : Nat := 4096

def totalSizeBound : Nat := 8192

/-- The number of rejections that a report keeps; later ones are counted only. -/
def maxReported : Nat := 16

/-- The bound on the positions of attached contexts, exclusive as well. -/
def positionBound : Nat := 65535

end ContextBaggage
