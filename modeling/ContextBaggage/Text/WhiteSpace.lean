import ContextBaggage.Text.Ranges
import ContextBaggage.Text.Trim

/-!
# White space

The twenty-five characters with the property `White_Space`. Metadata and propagator names lose
them at both ends; the separators of a header lose U+0020 only, which is not a matter of this
module.
-/

namespace ContextBaggage.Text

def whiteSpaceTable : List Range := [
  ⟨0x9, 0xD⟩, ⟨0x20, 0x20⟩, ⟨0x85, 0x85⟩, ⟨0xA0, 0xA0⟩, ⟨0x1680, 0x1680⟩, ⟨0x2000, 0x200A⟩,
  ⟨0x2028, 0x2029⟩, ⟨0x202F, 0x202F⟩, ⟨0x205F, 0x205F⟩, ⟨0x3000, 0x3000⟩]

def isWhiteSpace (c : Char) : Bool := inTable whiteSpaceTable c

def trimmed (s : String) : String := String.ofList (trim isWhiteSpace s.toList)

@[simp] theorem toList_trimmed (s : String) :
    (trimmed s).toList = trim isWhiteSpace s.toList := String.toList_ofList

@[simp] theorem trimmed_trimmed (s : String) : trimmed (trimmed s) = trimmed s := by
  rw [trimmed, toList_trimmed, trim_trim, trimmed]

end ContextBaggage.Text
