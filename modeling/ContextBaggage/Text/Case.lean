import ContextBaggage.Text.CaseTable
import ContextBaggage.Text.CaseContext

/-!
# Lower and upper case

The full mappings: a character may become several, and a capital sigma has two lower-case forms,
of which the second is written where a word ends. Names of fields are written in lower case, names
of variables in upper case.
-/

namespace ContextBaggage.Text

/-- U+0130 alone becomes two characters, an `i` and a combining dot. -/
def lowerChar (c : Char) : List Char :=
  if c = '\u0130' then ['i', '\u0307']
  else match CaseRun.lookup CaseTable.lowerRuns c.toNat with
    | some n => [Char.ofNat n]
    | none => [c]

def upperChar (c : Char) : List Char :=
  match CaseTable.upperTexts.lookup c.toNat with
  | some ns => ns.map Char.ofNat
  | none => match CaseRun.lookup CaseTable.upperRuns c.toNat with
    | some n => [Char.ofNat n]
    | none => [c]

/-- The first character that is not looked through is a letter with case. -/
def meetsCased (cs : List Char) : Bool :=
  match cs.dropWhile isCaseIgnorable with
  | c :: _ => isCased c
  | [] => false

/-- A place ends a word when a cased letter stands before it and none follows. `before` lists what
stands before the place, nearest first. -/
def endsWord (before after : List Char) : Bool := meetsCased before && !meetsCased after

/-- The lower case of `c` between `before`, nearest first, and `after`. -/
def lowerAt (before : List Char) (c : Char) (after : List Char) : List Char :=
  if c = 'Σ' then [if endsWord before after then 'ς' else 'σ'] else lowerChar c

/-- Goes on after `before`; `done` holds what is written so far, last character first. -/
def lowerFrom (done before : List Char) : List Char → List Char
  | [] => done.reverse
  | c :: after => lowerFrom ((lowerAt before c after).reverse ++ done) (c :: before) after

def lower (s : String) : String := String.ofList (lowerFrom [] [] s.toList)

def upper (s : String) : String := String.ofList (s.toList.flatMap upperChar)

theorem lowerFrom_eq (done before cs : List Char) :
    lowerFrom done before cs = done.reverse ++ lowerFrom [] before cs := by
  induction cs generalizing done before with
  | nil => simp [lowerFrom]
  | cons c after ih =>
    rw [lowerFrom, lowerFrom, ih, ih ((lowerAt before c after).reverse ++ [])]
    simp

/-- One character at a time, each between its own surroundings. -/
theorem lowerFrom_cons (before : List Char) (c : Char) (after : List Char) :
    lowerFrom [] before (c :: after) =
      lowerAt before c after ++ lowerFrom [] (c :: before) after := by
  rw [lowerFrom, lowerFrom_eq]
  simp

end ContextBaggage.Text
