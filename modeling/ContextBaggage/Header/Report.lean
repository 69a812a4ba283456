import ContextBaggage.Baggage
import ContextBaggage.Header.Member

/-!
# Reading a header

Reading never fails. Members are taken one after the other, and one that is malformed, does not
decode, breaks a rule, has the key of an earlier entry or goes beyond a limit is left out. The
report tells which entries were taken and why the first members were left out. Once the baggage is
full, one more member ends the reading.
-/

namespace ContextBaggage.Header

structure Report where
  baggage : Baggage
  /-- The causes of the first `maxReported` skips, in order. -/
  skipped : List Rejection
  skippedCount : Nat
deriving DecidableEq

/-- Decodes a key or a value, whose text must keep a rule. -/
def decodeText (rule : String → Bool) (broken : Rejection) (encoded : String) :
    Except Rejection String :=
  match Percent.decode encoded with
  | .error fault => .error (.undecodable fault)
  | .ok text => if rule text then .ok text else .error broken

/-- The entry of a member. Metadata is taken as it is, and the size is the one in the header. -/
def Member.decode (m : Member) : Except Rejection Entry := do
  let key ← decodeText isKey .invalidKey m.key.content
  let value ← decodeText isPrintable .invalidValue m.value.content
  return { key, value, metadata := .ofText m.metadata.content, size := m.size }

/-- Why an entry does not fit behind those taken, which are charged `total` together. -/
def misfit? (taken : List Entry) (total : Nat) (e : Entry) : Option Rejection :=
  if entrySizeBound ≤ e.size then some (.entryTooLarge e.size)
  else if totalSizeBound ≤ total + e.size then some (.totalTooLarge (total + e.size))
  else if taken.any fun t => t.key == e.key then some .duplicateKey
  else none

def accept (taken : List Entry) (total : Nat) (token : Except Rejection Member) :
    Except Rejection Entry := do
  let member ← token
  let e ← member.decode
  match misfit? taken total e with
  | some rejection => throw rejection
  | none => return e

section Reading
variable {σ : Type} (skip : σ → Rejection → σ)

/-- Reads members up to the end, or up to the first one that finds the baggage full. `skip` says
what is remembered of a skipped member. -/
def readFrom (taken : List Entry) (total : Nat) (skips : σ) :
    List (Except Rejection Member) → Baggage × σ
  | [] => (.ofEntries taken, skips)
  | token :: rest =>
    if maxEntries ≤ taken.length then (.ofEntries taken, skip skips .full)
    else
      match accept taken total token with
      | .ok e => readFrom (taken ++ [e]) (total + e.size) skips rest
      | .error rejection => readFrom taken total (skip skips rejection) rest

def readHeader (skips : σ) (header : String) : Baggage × σ :=
  readFrom skip [] 0 skips (tokenize header)

end Reading

/-- Counts a skip, and keeps its cause while there is room. -/
def noteSkip (skips : List Rejection × Nat) (rejection : Rejection) : List Rejection × Nat :=
  (if skips.1.length < maxReported then skips.1 ++ [rejection] else skips.1, skips.2 + 1)

def report (header : String) : Report :=
  let (baggage, skipped, skippedCount) := readHeader noteSkip ([], 0) header
  { baggage, skipped, skippedCount }

/-- Reads a header; what was left out is forgotten. -/
def parse (header : String) : Baggage := (readHeader (fun skips _ => skips) () header).1

end ContextBaggage.Header
