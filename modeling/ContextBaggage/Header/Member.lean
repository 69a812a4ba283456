import ContextBaggage.Header.Piece
import ContextBaggage.Rejection

/-!
# Members of a header

A header is a list of segments between commas. A segment of blanks says nothing; any other one is
a member, a key, a value and perhaps metadata:

    member = blanks key blanks "=" blanks value blanks [ ";" blanks metadata blanks ]

The key ends at the first equals sign and the value at the first semicolon after it. Nothing is
decoded here, and a member without an equals sign is reported in its place.
-/

namespace ContextBaggage.Header

/-- The three parts of a member, still encoded and without blanks at their ends. -/
structure Member where
  key : Piece
  value : Piece
  metadata : Piece
deriving DecidableEq, Repr

namespace Member

/-- The size that counts against the limits: separators and blanks are free. -/
def size (m : Member) : Nat := m.key.size + m.value.size + m.metadata.size

/-- Reads a trimmed segment. Without metadata, the empty piece at the segment's end stands for
it. -/
def ofPiece (segment : Piece) : Except Rejection Member :=
  match segment.cut? '=' with
  | none => .error .noSeparator
  | some (key, rest) =>
    match rest.cut? ';' with
    | some (value, metadata) => .ok ⟨key.trim, value.trim, metadata.trim⟩
    | none => .ok ⟨key.trim, rest.trim, ⟨segment.stop, []⟩⟩

end Member

def segments (text : List Char) : List Piece := (Piece.split ',' 0 text).map Piece.trim

def tokenize (header : String) : List (Except Rejection Member) :=
  ((segments header.toList).filter fun segment => !segment.text.isEmpty).map Member.ofPiece

end ContextBaggage.Header
