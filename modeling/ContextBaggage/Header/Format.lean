import ContextBaggage.Baggage

/-!
# Writing a header

The members are written in the order of the entries: encoded key, equals sign, encoded value, and
the metadata as it is behind a semicolon if there is any.
-/

namespace ContextBaggage

def Pair.member (p : Pair) : String :=
  let member := Percent.encode p.key ++ "=" ++ Percent.encode p.value
  if p.metadata.isEmpty then member else member ++ ";" ++ p.metadata.text

def Baggage.header (b : Baggage) : String := ",".intercalate (b.pairs.map Pair.member)

end ContextBaggage
