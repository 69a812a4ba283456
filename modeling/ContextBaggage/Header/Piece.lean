import ContextBaggage.Text.Trim
import ContextBaggage.Text.Utf8

/-!
# Pieces of a header

A piece is a stretch of a header that remembers where it stands: its first byte and its
characters. Cutting and trimming keep both in step, so the place of every part of a member can be
reported without looking at the header again.
-/

namespace ContextBaggage.Header

open ContextBaggage.Text

/-- The characters `text`, of which the first starts at byte `start` of the header. -/
structure Piece where
  start : Nat
  text : List Char
deriving DecidableEq, Repr

def isBlank (c : Char) : Bool := c == ' '

namespace Piece

def size (p : Piece) : Nat := byteLength p.text

def stop (p : Piece) : Nat := p.start + p.size

def content (p : Piece) : String := String.ofList p.text

/-- Drops the blanks at both ends; of a piece of blanks its empty end is left. -/
def trim (p : Piece) : Piece :=
  ⟨p.start + byteLength (p.text.takeWhile isBlank), Text.trim isBlank p.text⟩

/-- The pieces on both sides of the first `separator`, if there is one. -/
def cut? (separator : Char) (p : Piece) : Option (Piece × Piece) :=
  match p.text.dropWhile (· != separator) with
  | [] => none
  | _ :: after =>
    let before := p.text.takeWhile (· != separator)
    some (⟨p.start, before⟩, ⟨p.start + byteLength before + separator.utf8Size, after⟩)

/-- Gives consecutive texts, one `gap` of bytes apart, their places from `start` on. `done` holds
the pieces before them, last one first. -/
def placeFrom (gap : Nat) (done : List Piece) (start : Nat) : List (List Char) → List Piece
  | [] => done.reverse
  | text :: rest => placeFrom gap (⟨start, text⟩ :: done) (start + byteLength text + gap) rest

/-- The pieces of `text` between separators, empty ones included. -/
def split (separator : Char) (start : Nat) (text : List Char) : List Piece :=
  placeFrom separator.utf8Size [] start (text.splitOn separator)

theorem placeFrom_eq (gap : Nat) (done : List Piece) (start : Nat) (texts : List (List Char)) :
    placeFrom gap done start texts = done.reverse ++ placeFrom gap [] start texts := by
  induction texts generalizing done start with
  | nil => simp [placeFrom]
  | cons text rest ih =>
    rw [placeFrom, placeFrom, ih, ih [_]]
    simp

theorem placeFrom_cons (gap start : Nat) (text : List Char) (rest : List (List Char)) :
    placeFrom gap [] start (text :: rest) =
      ⟨start, text⟩ :: placeFrom gap [] (start + byteLength text + gap) rest := by
  rw [placeFrom, placeFrom_eq]
  rfl

theorem map_text_placeFrom (gap start : Nat) (texts : List (List Char)) :
    (placeFrom gap [] start texts).map Piece.text = texts := by
  induction texts generalizing start with
  | nil => rfl
  | cons text rest ih => rw [placeFrom_cons, List.map_cons, ih]

end Piece

end ContextBaggage.Header
