import ContextBaggage.Percent
import ContextBaggage.Rejection
import ContextBaggage.Text.WhiteSpace

/-!
# Entries

A pair is what a caller asks to set: a key, a value and metadata. An entry is a pair that baggage
has taken up, with the size it was charged: the size of its encoded form when it was set, and the
size it took up in the header when it was read from one.
-/

namespace ContextBaggage

open ContextBaggage.Text

/-- A text about an entry that is carried as it is, but never starts or ends with white space. -/
structure Metadata where
  text : String
  trimmed_text : trimmed text = text
deriving DecidableEq

namespace Metadata

def ofText (s : String) : Metadata := ⟨trimmed s, trimmed_trimmed s⟩

@[simp] theorem ofText_text (m : Metadata) : ofText m.text = m := by
  cases m
  simpa [ofText]

def empty : Metadata := ofText ""

def isEmpty (m : Metadata) : Bool := m.text.isEmpty

def size (m : Metadata) : Nat := byteLength m.text.toList

theorem not_isWhiteSpace_head (m : Metadata) (c : Char) (h : m.text.toList.head? = some c) :
    isWhiteSpace c = false := by
  rw [← m.trimmed_text, toList_trimmed] at h
  exact head?_trim c h

theorem not_isWhiteSpace_getLast (m : Metadata) (c : Char) (h : m.text.toList.getLast? = some c) :
    isWhiteSpace c = false := by
  rw [← m.trimmed_text, toList_trimmed] at h
  exact getLast?_trim c h

end Metadata

/-- Printable ASCII, from U+0020 to U+007E. -/
def isPrintable (s : String) : Bool :=
  s.toList.all fun c => 0x20 ≤ c.toNat && c.toNat ≤ 0x7E

theorem isPrintable_iff {s : String} :
    isPrintable s = true ↔ ∀ c ∈ s.toList, 0x20 ≤ c.toNat ∧ c.toNat ≤ 0x7E := by
  simp [isPrintable]

def isKey (s : String) : Bool := !s.isEmpty && isPrintable s

theorem isKey_iff {s : String} :
    isKey s = true ↔ s ≠ "" ∧ ∀ c ∈ s.toList, 0x20 ≤ c.toNat ∧ c.toNat ≤ 0x7E := by
  simp [isKey, isPrintable_iff]

/-- Metadata that may be set. A comma in it would start the next member of a header. -/
def isMetadata (s : String) : Bool := !s.toList.contains ',' && isPrintable s

structure Pair where
  key : String
  value : String
  metadata : Metadata
deriving DecidableEq

namespace Pair

/-- The size of the pair in a header, separators not counted. -/
def size (p : Pair) : Nat :=
  Percent.encodedSize p.key + Percent.encodedSize p.value + p.metadata.size

/-- The first rule that the texts of a pair break. -/
def fault? (p : Pair) : Option Rejection :=
  if !isKey p.key then some .invalidKey
  else if !isPrintable p.value then some .invalidValue
  else if !isMetadata p.metadata.text then some .invalidMetadata
  else none

end Pair

structure Entry extends Pair where
  size : Nat
deriving DecidableEq

/-- The entry that setting a pair makes. -/
def Pair.entry (p : Pair) : Entry := ⟨p, p.size⟩

end ContextBaggage
