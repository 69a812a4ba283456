import ContextBaggage.Limits
import ContextBaggage.Percent

/-!
# Rejections

Why a member of a header or a pair to be set does not become an entry.
-/

namespace ContextBaggage

inductive Rejection
  | noSeparator
  | invalidKey
  | invalidValue
  | invalidMetadata
  | undecodable (fault : Percent.Fault)
  /-- `size` is that of the entry. -/
  | entryTooLarge (size : Nat)
  /-- `size` is what the whole would have come to. -/
  | totalTooLarge (size : Nat)
  | full
  | duplicateKey
deriving DecidableEq, Repr

namespace Rejection

def message : Rejection → String
  | noSeparator => "list-member has no '=' separator"
  | invalidKey => "key is empty or not printable ASCII"
  | invalidValue => "value is not printable ASCII"
  | invalidMetadata => "metadata contains ',' or is not printable ASCII"
  | undecodable fault => fault.message
  | entryTooLarge size => s!"entry of {size} bytes reaches the {entrySizeBound} byte entry limit"
  | totalTooLarge size => s!"entry would grow baggage to {size} bytes, limit is {totalSizeBound}"
  | full => s!"baggage already holds {maxEntries} entries"
  | duplicateKey => "duplicate key in header"

end Rejection

end ContextBaggage
