import ContextBaggage.Baggage
import ContextBaggage.Text.Quoted

/-!
# Text for inspection

How metadata, entries and baggage are shown to a developer: by kind, with every field named and
every text quoted.
-/

namespace ContextBaggage

open ContextBaggage.Text

/-- A kind with its named fields, between braces. -/
def inspectFields (kind : String) (fields : List (String × String)) : String :=
  kind ++ " \x7b " ++ ", ".intercalate (fields.map fun f => f.1 ++ ": " ++ f.2) ++ " \x7d"

def Metadata.inspect (m : Metadata) : String := "BaggageMetadata(" ++ quoted m.text ++ ")"

def Entry.inspect (e : Entry) : String :=
  inspectFields "BaggageEntry" [("key", quoted e.key), ("value", quoted e.value),
    ("metadata", e.metadata.inspect), ("encoded_len", toString e.size)]

def Baggage.inspect (b : Baggage) : String :=
  let entries := ", ".intercalate (b.entries.map Entry.inspect)
  inspectFields "Baggage" [("entries", "[" ++ entries ++ "]"), ("encoded_len", toString b.size)]

end ContextBaggage
