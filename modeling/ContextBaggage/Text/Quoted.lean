import ContextBaggage.Text.Unshown

/-!
# Quoted text

A text between double quotes on which every character can be seen: a backslash marks the common
controls, the quote and itself, and a character that would not show is given by its code point.
-/

namespace ContextBaggage.Text

/-- The code point in lower-case hexadecimal digits, between braces. -/
def codePoint (c : Char) : List Char :=
  '\\' :: 'u' :: '\x7b' :: Nat.toDigits 16 c.toNat ++ ['\x7d']

def quotedChar (c : Char) : List Char :=
  match c with
  | '\x00' => ['\\', '0']
  | '\t' => ['\\', 't']
  | '\r' => ['\\', 'r']
  | '\n' => ['\\', 'n']
  | '\\' => ['\\', '\\']
  | '\"' => ['\\', '\"']
  | c => if isUnshown c then codePoint c else [c]

def quoted (s : String) : String :=
  String.ofList ('\"' :: s.toList.flatMap quotedChar ++ ['\"'])

end ContextBaggage.Text
