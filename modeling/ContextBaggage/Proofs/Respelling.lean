import ContextBaggage.Proofs.Tokens

/-!
# Writing again what was read

Encoding writes the shortest token of every byte, and of the escapes the one with upper-case digits.
So a text that was decoded is encoded token by token, each at most as long as the one it was read
from. The size is the same unless an escape was wasted on a byte that needs none, and the spelling
is unless, besides, a digit was in lower case.
-/

namespace ContextBaggage.Percent

open ContextBaggage.Text

def isUpperHexDigit (b : UInt8) : Bool := (0x30 ≤ b && b ≤ 0x39) || (0x41 ≤ b && b ≤ 0x46)

section Digits
variable {b v h l : UInt8}

theorem isUpperHexDigit_iff : isUpperHexDigit b = true ↔
    (0x30 ≤ b.toNat ∧ b.toNat ≤ 0x39) ∨ (0x41 ≤ b.toNat ∧ b.toNat ≤ 0x46) := by
  simp only [isUpperHexDigit, Bool.or_eq_true, Bool.and_eq_true, decide_eq_true_eq,
    UInt8.le_iff_toNat_le, UInt8.reduceToNat]

/-- The value of a digit, by the range it is from. -/
theorem toNat_of_hexValue? (hv : hexValue? b = some v) :
    (0x30 ≤ b.toNat ∧ b.toNat ≤ 0x39 ∧ v.toNat = b.toNat - 0x30) ∨
      (0x41 ≤ b.toNat ∧ b.toNat ≤ 0x46 ∧ v.toNat = b.toNat - 0x37) ∨
      (0x61 ≤ b.toNat ∧ b.toNat ≤ 0x66 ∧ v.toNat = b.toNat - 0x57) := by
  have hb := b.toNat_lt
  unfold hexValue? at hv
  simp only [Bool.and_eq_true, decide_eq_true_eq, UInt8.le_iff_toNat_le, UInt8.reduceToNat] at hv
  split at hv
  · next hrange =>
    obtain rfl := Option.some.inj hv
    refine .inl ⟨hrange.1, hrange.2, ?_⟩
    simp only [UInt8.toNat_sub, UInt8.reduceToNat]
    omega
  · split at hv
    · next hrange =>
      obtain rfl := Option.some.inj hv
      refine .inr (.inl ⟨hrange.1, hrange.2, ?_⟩)
      simp only [UInt8.toNat_sub, UInt8.reduceToNat]
      omega
    · split at hv
      · next hrange =>
        obtain rfl := Option.some.inj hv
        refine .inr (.inr ⟨hrange.1, hrange.2, ?_⟩)
        simp only [UInt8.toNat_sub, UInt8.reduceToNat]
        omega
      · cases hv

theorem toNat_lt_of_hexValue? (hv : hexValue? b = some v) : v.toNat < 16 := by
  rcases toNat_of_hexValue? hv with hdigit | hupper | hlower <;> omega

theorem toNat_hexDigit : ∀ n < 16, (hexDigit n).toNat = if n < 10 then n + 0x30 else n + 0x37 := by
  decide

/-- The digit that is written for a value is the one it was read from, if that is in upper case. -/
theorem ofNat_hexDigit_eq_iff (hv : hexValue? b = some v) :
    UInt8.ofNat (hexDigit v.toNat).toNat = b ↔ isUpperHexDigit b = true := by
  rw [← UInt8.toNat_inj, UInt8.toNat_ofNat', toNat_hexDigit _ (toNat_lt_of_hexValue? hv),
    isUpperHexDigit_iff]
  rcases toNat_of_hexValue? hv with hdigit | hupper | hlower
  · rw [if_pos (by omega)]
    omega
  · rw [if_neg (by omega)]
    omega
  · rw [if_neg (by omega)]
    omega

theorem toNat_octet (hh : h.toNat < 16) (hl : l.toNat < 16) :
    (16 * h + l).toNat / 16 = h.toNat ∧ (16 * h + l).toNat % 16 = l.toNat := by
  simp only [UInt8.toNat_add, UInt8.toNat_mul, UInt8.reduceToNat]
  omega

end Digits

namespace Token

/-- An escape of a byte that has a shorter token. -/
def IsWasteful : Token → Prop
  | kept _ _ => False
  | plus => False
  | escape _ _ h l _ _ => isUnreserved (16 * h + l) = true ∨ 16 * h + l = space

/-- A token without a lower-case hexadecimal digit. -/
def IsUpperCase : Token → Prop
  | kept _ _ => True
  | plus => True
  | escape high low _ _ _ _ => isUpperHexDigit high = true ∧ isUpperHexDigit low = true

/-- What encoding writes for the byte that the token denotes. -/
def rewritten (token : Token) : List UInt8 := utf8 (encodeByte token.octet)

variable (token : Token)

theorem length_rewritten : token.rewritten.length = byteCost token.octet := by
  rw [rewritten, length_utf8, byteLength_encodeByte]

theorem length_rewritten_le : token.rewritten.length ≤ token.bytes.length := by
  rw [length_rewritten]
  cases token with
  | kept b hb => simp [byteCost, octet, bytes, hb]
  | plus => exact Nat.le_refl 1
  | escape high low h l hh hl =>
    unfold byteCost
    split
    · exact Nat.le_succ_of_le (Nat.le_succ_of_le (Nat.le_refl 1))
    · exact Nat.le_refl 3

theorem length_rewritten_eq_iff :
    token.rewritten.length = token.bytes.length ↔ ¬token.IsWasteful := by
  rw [length_rewritten]
  cases token with
  | kept b hb => simp [byteCost, octet, bytes, hb, IsWasteful]
  | plus => simp [byteCost, octet, bytes, IsWasteful]
  | escape high low h l hh hl =>
    simp only [byteCost, octet, bytes, IsWasteful, Bool.or_eq_true, beq_iff_eq]
    split
    · next hshort => simp [hshort]
    · next hlong => simp [hlong]

variable {high low h l : UInt8} {hh : hexValue? high = some h} {hl : hexValue? low = some l}

theorem rewritten_escape (hlong : ¬(escape high low h l hh hl).IsWasteful) :
    (escape high low h l hh hl).rewritten = [percentSign, .ofNat (hexDigit h.toNat).toNat,
      .ofNat (hexDigit l.toNat).toNat] := by
  have hlong := not_or.mp hlong
  have hoctet := toNat_octet (toNat_lt_of_hexValue? hh) (toNat_lt_of_hexValue? hl)
  rw [rewritten, octet, encodeByte_eq_escape (by simpa using hlong.1) hlong.2, utf8_escape,
    hoctet.1, hoctet.2]

theorem rewritten_escape_eq_iff (hlong : ¬(escape high low h l hh hl).IsWasteful) :
    (escape high low h l hh hl).rewritten = [percentSign, high, low] ↔
      isUpperHexDigit high = true ∧ isUpperHexDigit low = true := by
  rw [rewritten_escape hlong, ← ofNat_hexDigit_eq_iff hh, ← ofNat_hexDigit_eq_iff hl]
  simp only [List.cons.injEq, true_and, and_true]

theorem rewritten_eq_iff : token.rewritten = token.bytes ↔ ¬token.IsWasteful ∧ token.IsUpperCase := by
  cases token with
  | kept b hb =>
    have hsame : (kept b hb).rewritten = [b] := by
      rw [rewritten, octet, encodeByte_of_isUnreserved hb, utf8_ofNat (lt_of_isUnreserved hb)]
    simp [hsame, bytes, IsWasteful, IsUpperCase]
  | plus =>
    have hsame : plus.rewritten = [plusSign] := rfl
    simp [hsame, bytes, IsWasteful, IsUpperCase]
  | escape high low h l hh hl =>
    constructor
    · intro hsame
      have hlong := (length_rewritten_eq_iff _).mp (congrArg List.length hsame)
      exact ⟨hlong, (rewritten_escape_eq_iff hlong).mp hsame⟩
    · rintro ⟨hlong, hupper⟩
      exact (rewritten_escape_eq_iff hlong).mpr hupper

end Token

section Texts
variable {tokens : List Token} {s t : String}

theorem utf8_encode_of_tokens (h : tokens.map Token.octet = utf8 t.toList) :
    utf8 (encode t).toList = tokens.flatMap Token.rewritten := by
  rw [encode, String.toList_ofList, utf8, List.flatMap_assoc, ← h, List.flatMap_map]
  rfl

theorem length_flatMap_rewritten_le (tokens : List Token) :
    (tokens.flatMap Token.rewritten).length ≤ (Token.spelled tokens).length := by
  induction tokens with
  | nil => exact Nat.le_refl 0
  | cons token tokens ih =>
    have hle := token.length_rewritten_le
    rw [List.flatMap_cons, Token.spelled_cons, List.length_append, List.length_append]
    omega

theorem length_flatMap_rewritten_eq_iff : (tokens.flatMap Token.rewritten).length =
    (Token.spelled tokens).length ↔ ∀ token ∈ tokens, ¬token.IsWasteful := by
  induction tokens with
  | nil => simp
  | cons token tokens ih =>
    have hle := token.length_rewritten_le
    have hrest := length_flatMap_rewritten_le tokens
    rw [List.forall_mem_cons, ← ih, ← token.length_rewritten_eq_iff, List.flatMap_cons,
      Token.spelled_cons, List.length_append, List.length_append]
    omega

/-- Where the spellings agree as a whole they agree token by token, since none gets longer. -/
theorem flatMap_rewritten_eq_iff : tokens.flatMap Token.rewritten = Token.spelled tokens ↔
    ∀ token ∈ tokens, ¬token.IsWasteful ∧ token.IsUpperCase := by
  induction tokens with
  | nil => simp
  | cons token tokens ih =>
    rw [List.forall_mem_cons, ← ih, ← token.rewritten_eq_iff, List.flatMap_cons,
      Token.spelled_cons]
    constructor
    · intro hsame
      have hle := token.length_rewritten_le
      have hrest := length_flatMap_rewritten_le tokens
      have hlength := congrArg List.length hsame
      rw [List.length_append, List.length_append] at hlength
      exact List.append_inj hsame (by omega)
    · rintro ⟨hfirst, hrest⟩
      rw [hfirst, hrest]

/-- Encoding is undone by decoding, and its tokens are shortest ones in upper case. -/
theorem encode_tokens (s : String) :
    decode (encode s) = .ok s ∧
    (∃ tokens : List Token, Token.spelled tokens = utf8 (encode s).toList ∧
      ∀ token ∈ tokens, ¬token.IsWasteful ∧ token.IsUpperCase) ∧
    ',' ∉ (encode s).toList ∧ ';' ∉ (encode s).toList ∧ '=' ∉ (encode s).toList ∧
      ' ' ∉ (encode s).toList := by
  refine ⟨decode_encode s, ?_, not_mem_encode s (by decide) (by decide),
    not_mem_encode s (by decide) (by decide), not_mem_encode s (by decide) (by decide),
    not_mem_encode s (by decide) (by decide)⟩
  obtain ⟨tokens, hspelled, hoctets⟩ := decode_eq_ok_iff_exists_tokens.mp (decode_encode s)
  refine ⟨tokens, hspelled, flatMap_rewritten_eq_iff.mp ?_⟩
  rw [← utf8_encode_of_tokens hoctets, hspelled]

/-- A text that was decoded is never encoded longer. The size stays if no escape was wasted, and the
text does if, in addition, no digit was in lower case. -/
theorem encode_decoded (h : decode s = .ok t) :
    (encode t).utf8ByteSize ≤ s.utf8ByteSize ∧
    ∃ tokens : List Token, Token.spelled tokens = utf8 s.toList ∧
      (∀ others : List Token, Token.spelled others = utf8 s.toList → others = tokens) ∧
      ((encode t).utf8ByteSize = s.utf8ByteSize ↔ ∀ token ∈ tokens, ¬token.IsWasteful) ∧
      (encode t = s ↔ (∀ token ∈ tokens, ¬token.IsWasteful) ∧
        ∀ token ∈ tokens, token.IsUpperCase) := by
  obtain ⟨tokens, hspelled, hoctets⟩ := decode_eq_ok_iff_exists_tokens.mp h
  have hencoded := utf8_encode_of_tokens hoctets
  have hsize : (encode t).utf8ByteSize = (tokens.flatMap Token.rewritten).length := by
    rw [← byteLength_toList, ← length_utf8, hencoded]
  have hread : s.utf8ByteSize = (Token.spelled tokens).length := by
    rw [← byteLength_toList, ← length_utf8, hspelled]
  rw [hsize, hread]
  refine ⟨length_flatMap_rewritten_le tokens, tokens, hspelled, ?_,
    length_flatMap_rewritten_eq_iff, ?_⟩
  · intro others hothers
    exact Token.spelled_inj (hothers.trans hspelled.symm)
  · have hsame : encode t = s ↔ tokens.flatMap Token.rewritten = Token.spelled tokens := by
      rw [← hencoded, hspelled]
      exact ⟨fun heq => heq ▸ rfl, utf8_toList_inj⟩
    rw [hsame, flatMap_rewritten_eq_iff]
    simp only [imp_and, forall_and]

theorem encode_decoded_mixed :
    decode "%7e+%c3%A9" = .ok "~ é" ∧
    (encode "~ é").utf8ByteSize ≤ "%7e+%c3%A9".utf8ByteSize ∧
    ∃ tokens : List Token, Token.spelled tokens = utf8 "%7e+%c3%A9".toList ∧
      (∀ others : List Token, Token.spelled others = utf8 "%7e+%c3%A9".toList → others = tokens) ∧
      ((encode "~ é").utf8ByteSize = "%7e+%c3%A9".utf8ByteSize ↔
        ∀ token ∈ tokens, ¬token.IsWasteful) ∧
      (encode "~ é" = "%7e+%c3%A9" ↔ (∀ token ∈ tokens, ¬token.IsWasteful) ∧
        ∀ token ∈ tokens, token.IsUpperCase) := by
  have hread : decode "%7e+%c3%A9" = .ok "~ é" :=
    decode_eq_ok_iff.mpr (spells_iff.mpr ⟨by decide +kernel, by decide +kernel⟩)
  exact ⟨hread, encode_decoded hread⟩

end Texts

end ContextBaggage.Percent
