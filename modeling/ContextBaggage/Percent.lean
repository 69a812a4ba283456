import ContextBaggage.Text.Utf8

/-!
# Percent encoding of keys and values

An encoded text is a run of octets, each written in one of three ways: an unreserved byte stands
for itself, a plus sign for a space, and a percent sign with two hexadecimal digits for the byte
they spell. Writing uses upper-case digits and escapes only what has no shorter form; reading
takes digits of either case and escapes of any byte. What an octet sequence spells is read as
UTF-8.

Reading makes three passes. The first looks for a fault, the second turns plus signs into spaces,
and the third resolves the escapes; it knows nothing of faults and would leave a percent sign
alone that starts no escape.
-/

namespace ContextBaggage.Percent

open ContextBaggage.Text

/-- Why a text is not an encoded one. A place is a byte position in that text. -/
inductive Fault
  | badEscape (place : Nat)
  | strayByte (byte : UInt8) (place : Nat)
  | notUtf8
deriving DecidableEq, Repr

def space : UInt8 := 0x20

def plusSign : UInt8 := 0x2B

def percentSign : UInt8 := 0x25

def isAlphanumeric (b : UInt8) : Bool :=
  (0x30 ≤ b && b ≤ 0x39) || (0x41 ≤ b && b ≤ 0x5A) || (0x61 ≤ b && b ≤ 0x7A)

def isUnreserved (b : UInt8) : Bool :=
  isAlphanumeric b || b == 0x2D || b == 0x2E || b == 0x5F || b == 0x7E

section Writing

/-- The signs that are taken out of what is escaped. -/
def keptSigns : List UInt8 := [0x2D, 0x5F, 0x2E, 0x7E]

/-- What is not ASCII is escaped, and so is every ASCII byte but the letters, the digits and the
kept signs. -/
def isEscaped (b : UInt8) : Bool :=
  0x80 ≤ b || (!isAlphanumeric b && !keptSigns.contains b)

def hexDigit (n : Nat) : Char := (Nat.digitChar n).toUpper

def escape (b : UInt8) : List Char := ['%', hexDigit (b.toNat / 16), hexDigit (b.toNat % 16)]

/-- A byte in percent encoding proper, which has no plus sign. -/
def chunk (b : UInt8) : List Char :=
  if isEscaped b then escape b else [Char.ofNat b.toNat]

def encodeByte (b : UInt8) : List Char :=
  if chunk b = ['%', '2', '0'] then ['+'] else chunk b

def encode (s : String) : String :=
  String.ofList ((utf8 s.toList).flatMap encodeByte)

def byteCost (b : UInt8) : Nat := if isUnreserved b || b == space then 1 else 3

/-- The size of the encoded text, counted without writing it. -/
def encodedSize (s : String) : Nat := (utf8 s.toList).foldr (fun b n => byteCost b + n) 0

end Writing

section Reading

def isHexDigit (b : UInt8) : Bool :=
  (0x30 ≤ b && b ≤ 0x39) || (0x41 ≤ b && b ≤ 0x46) || (0x61 ≤ b && b ≤ 0x66)

def hexValue? (b : UInt8) : Option UInt8 :=
  if 0x30 ≤ b && b ≤ 0x39 then some (b - 0x30)
  else if 0x41 ≤ b && b ≤ 0x46 then some (b - 0x37)
  else if 0x61 ≤ b && b ≤ 0x66 then some (b - 0x57)
  else none

/-- The first fault of some bytes, of which the first is at `place`. -/
def faultFrom? (place : Nat) : List UInt8 → Option Fault
  | [] => none
  | b :: rest =>
    if b = percentSign then
      match rest with
      | high :: low :: rest =>
        if isHexDigit high && isHexDigit low then faultFrom? (place + 3) rest
        else some (.badEscape place)
      | _ => some (.badEscape place)
    else if isUnreserved b || b == plusSign then faultFrom? (place + 1) rest
    else some (.strayByte b place)

def fault? (bytes : List UInt8) : Option Fault := faultFrom? 0 bytes

def spaced (bytes : List UInt8) : List UInt8 :=
  bytes.map fun b => if b == plusSign then space else b

/-- Puts the byte that an escape spells in its place. `done` holds what is written so far, last
byte first. -/
def unescapeFrom (done : List UInt8) : List UInt8 → List UInt8
  | [] => done.reverse
  | b :: rest =>
    if b = percentSign then
      match rest with
      | high :: low :: after =>
        match hexValue? high, hexValue? low with
        | some h, some l => unescapeFrom ((16 * h + l) :: done) after
        | _, _ => unescapeFrom (b :: done) (high :: low :: after)
      | rest => unescapeFrom (b :: done) rest
    else unescapeFrom (b :: done) rest

def unescape (bytes : List UInt8) : List UInt8 := unescapeFrom [] bytes

theorem unescapeFrom_cons {b : UInt8} (hb : b ≠ percentSign) (done rest : List UInt8) :
    unescapeFrom done (b :: rest) = unescapeFrom (b :: done) rest := by
  rw [unescapeFrom.eq_def]
  simp only [if_neg hb]

theorem unescapeFrom_escape {high low h l : UInt8} (hh : hexValue? high = some h)
    (hl : hexValue? low = some l) (done rest : List UInt8) :
    unescapeFrom done (percentSign :: high :: low :: rest) =
      unescapeFrom ((16 * h + l) :: done) rest := by
  rw [unescapeFrom.eq_def]
  simp only [if_true, hh, hl]

theorem unescapeFrom_append (done before bytes : List UInt8) :
    unescapeFrom (done ++ before) bytes = before.reverse ++ unescapeFrom done bytes := by
  fun_induction unescapeFrom done bytes with
  | case1 done => simp [unescapeFrom]
  | case2 done high low after h l hl hh ih => rwa [unescapeFrom_escape hh hl]
  | case3 done high low after hno ih =>
    rw [← ih, unescapeFrom, if_pos rfl]
    split
    · next h l hh hl => exact (hno h l hh hl).elim
    · rfl
  | case4 done rest hno ih =>
    rw [← ih, unescapeFrom, if_pos rfl]
    · rfl
    · exact hno
  | case5 done b rest hb ih => rwa [unescapeFrom_cons hb]

theorem unescapeFrom_eq (done bytes : List UInt8) :
    unescapeFrom done bytes = done.reverse ++ unescape bytes :=
  unescapeFrom_append [] done bytes

@[simp] theorem unescape_nil : unescape [] = [] := rfl

theorem unescape_cons {b : UInt8} (hb : b ≠ percentSign) (rest : List UInt8) :
    unescape (b :: rest) = b :: unescape rest := by
  rw [unescape, unescapeFrom_cons hb, unescapeFrom_eq]
  rfl

theorem unescape_escape {high low h l : UInt8} (hh : hexValue? high = some h)
    (hl : hexValue? low = some l) (rest : List UInt8) :
    unescape (percentSign :: high :: low :: rest) = (16 * h + l) :: unescape rest := by
  rw [unescape, unescapeFrom_escape hh hl, unescapeFrom_eq]
  rfl

/-- A fault in the octets is reported before any fault in what they spell. -/
def decode (s : String) : Except Fault String :=
  let bytes := utf8 s.toList
  match fault? bytes with
  | some fault => .error fault
  | none =>
    match ofUtf8? (unescape (spaced bytes)) with
    | some text => .ok text
    | none => .error .notUtf8

end Reading

def Fault.byteText (b : UInt8) : String :=
  String.ofList [Nat.digitChar (b.toNat / 16), Nat.digitChar (b.toNat % 16)]

def Fault.message : Fault → String
  | badEscape place => s!"invalid percent-encoding at byte {place}"
  | strayByte byte place => s!"unexpected character 0x{byteText byte} at byte {place}"
  | notUtf8 => "percent-decoded bytes are not valid UTF-8"

end ContextBaggage.Percent
