import ContextBaggage.Percent

/-!
# Tokens and the octets they denote

`Spells bytes octets` says that `bytes` is a run of tokens, each an unreserved byte, a plus sign or
an escape with digits of either case, and that `octets` is what they denote one by one. Decoding
succeeds on such runs only, and encoding writes one of the shortest of them.

Nothing here is about what the octets spell in UTF-8, apart from the two laws on texts at the end.
-/

namespace ContextBaggage.Percent

open ContextBaggage.Text

inductive Spells : List UInt8 → List UInt8 → Prop
  | nil : Spells [] []
  | kept {b : UInt8} {bytes octets : List UInt8} (hb : isUnreserved b = true)
      (rest : Spells bytes octets) : Spells (b :: bytes) (b :: octets)
  | plus {bytes octets : List UInt8} (rest : Spells bytes octets) :
      Spells (plusSign :: bytes) (space :: octets)
  | escaped {high low h l : UInt8} {bytes octets : List UInt8} (hh : hexValue? high = some h)
      (hl : hexValue? low = some l) (rest : Spells bytes octets) :
      Spells (percentSign :: high :: low :: bytes) ((16 * h + l) :: octets)

section Bytes
variable {b v : UInt8}

theorem ne_percentSign_of_isUnreserved (hb : isUnreserved b = true) : b ≠ percentSign := by
  rintro rfl
  exact absurd hb (by decide)

theorem ne_plusSign_of_isUnreserved (hb : isUnreserved b = true) : b ≠ plusSign := by
  rintro rfl
  exact absurd hb (by decide)

theorem isHexDigit_eq_isSome (b : UInt8) : isHexDigit b = (hexValue? b).isSome := by
  unfold isHexDigit hexValue?
  split
  · simp [*]
  · split
    · simp [*]
    · split <;> simp_all

theorem isHexDigit_of_hexValue? (hv : hexValue? b = some v) : isHexDigit b = true := by
  rw [isHexDigit_eq_isSome, hv, Option.isSome_some]

theorem exists_hexValue? (hb : isHexDigit b = true) : ∃ v, hexValue? b = some v :=
  Option.isSome_iff_exists.mp (isHexDigit_eq_isSome b ▸ hb)

theorem isUnreserved_of_isHexDigit (hb : isHexDigit b = true) : isUnreserved b = true := by
  simp only [isHexDigit, isUnreserved, isAlphanumeric, Bool.or_eq_true, Bool.and_eq_true,
    decide_eq_true_eq, UInt8.le_iff_toNat_le, UInt8.reduceToNat] at hb ⊢
  omega

theorem lt_of_isUnreserved (hb : isUnreserved b = true) : b < 0x80 := by
  simp only [isUnreserved, isAlphanumeric, Bool.or_eq_true, Bool.and_eq_true, decide_eq_true_eq,
    beq_iff_eq, UInt8.le_iff_toNat_le, UInt8.lt_iff_toNat_lt, ← UInt8.toNat_inj,
    UInt8.reduceToNat] at hb ⊢
  omega

/-- The two alphabets, one made by taking signs out and one by adding them, are the same. -/
theorem isEscaped_eq (b : UInt8) : isEscaped b = !isUnreserved b := by
  rw [Bool.eq_iff_iff]
  simp [isEscaped, isUnreserved, keptSigns, isAlphanumeric, UInt8.le_iff_toNat_le,
    ← UInt8.toNat_inj]
  omega

end Bytes

section Passes
variable {bytes octets : List UInt8}

theorem faultFrom?_single {b : UInt8} (h : isUnreserved b = true ∨ b = plusSign) (place : Nat)
    (rest : List UInt8) : faultFrom? place (b :: rest) = faultFrom? (place + 1) rest := by
  have hpercent : b ≠ percentSign := by
    rcases h with hb | rfl
    · exact ne_percentSign_of_isUnreserved hb
    · decide
  have htoken : (isUnreserved b || b == plusSign) = true := by
    rwa [Bool.or_eq_true, beq_iff_eq]
  rw [faultFrom?.eq_def]
  simp only [if_neg hpercent, htoken, if_true]

theorem faultFrom?_escape {high low : UInt8} (hhigh : isHexDigit high = true)
    (hlow : isHexDigit low = true) (place : Nat) (rest : List UInt8) :
    faultFrom? place (percentSign :: high :: low :: rest) = faultFrom? (place + 3) rest := by
  rw [faultFrom?.eq_def]
  simp only [if_true, hhigh, hlow, Bool.and_self]

theorem Spells.faultFrom?_eq_none (hs : Spells bytes octets) (place : Nat) :
    faultFrom? place bytes = none := by
  induction hs generalizing place with
  | nil => rfl
  | kept hb rest ih => rw [faultFrom?_single (.inl hb), ih]
  | plus rest ih => rw [faultFrom?_single (.inr rfl), ih]
  | escaped hh hl rest ih =>
    rw [faultFrom?_escape (isHexDigit_of_hexValue? hh) (isHexDigit_of_hexValue? hl), ih]

theorem exists_spells_of_faultFrom? {place : Nat} (hf : faultFrom? place bytes = none) :
    ∃ octets, Spells bytes octets := by
  fun_induction faultFrom? place bytes with
  | case1 place => exact ⟨[], .nil⟩
  | case2 place high low rest hdigits ih =>
    obtain ⟨octets, hs⟩ := ih hf
    rw [Bool.and_eq_true] at hdigits
    obtain ⟨h, hh⟩ := exists_hexValue? hdigits.1
    obtain ⟨l, hl⟩ := exists_hexValue? hdigits.2
    exact ⟨(16 * h + l) :: octets, .escaped hh hl hs⟩
  | case3 place high low rest hdigits => simp at hf
  | case4 place rest hno => simp at hf
  | case5 place b rest hb htoken ih =>
    obtain ⟨octets, hs⟩ := ih hf
    rw [Bool.or_eq_true, beq_iff_eq] at htoken
    rcases htoken with hkept | rfl
    · exact ⟨b :: octets, .kept hkept hs⟩
    · exact ⟨space :: octets, .plus hs⟩
  | case6 place b rest hb htoken => simp at hf

theorem spaced_cons {b : UInt8} (hb : b ≠ plusSign) (bytes : List UInt8) :
    spaced (b :: bytes) = b :: spaced bytes := by
  simp [spaced, hb]

/-- The passes do not disturb each other: no digit is a plus sign, and no space starts an escape. -/
theorem Spells.unescape_spaced (hs : Spells bytes octets) : unescape (spaced bytes) = octets := by
  induction hs with
  | nil => rfl
  | @kept b bytes octets hb rest ih =>
    rw [spaced_cons (ne_plusSign_of_isUnreserved hb),
      unescape_cons (ne_percentSign_of_isUnreserved hb), ih]
  | @plus bytes octets rest ih =>
    have hspaced : spaced (plusSign :: bytes) = space :: spaced bytes := by simp [spaced]
    rw [hspaced, unescape_cons (by decide), ih]
  | @escaped high low h l bytes octets hh hl rest ih =>
    have hhigh := isUnreserved_of_isHexDigit (isHexDigit_of_hexValue? hh)
    have hlow := isUnreserved_of_isHexDigit (isHexDigit_of_hexValue? hl)
    rw [spaced_cons (by decide), spaced_cons (ne_plusSign_of_isUnreserved hhigh),
      spaced_cons (ne_plusSign_of_isUnreserved hlow), unescape_escape hh hl, ih]

/-- Without a fault the last two passes give what the tokens denote. -/
theorem spells_iff :
    Spells bytes octets ↔ fault? bytes = none ∧ unescape (spaced bytes) = octets := by
  constructor
  · intro hs
    exact ⟨hs.faultFrom?_eq_none 0, hs.unescape_spaced⟩
  · rintro ⟨hf, rfl⟩
    obtain ⟨octets, hs⟩ := exists_spells_of_faultFrom? hf
    rwa [hs.unescape_spaced]

theorem decode_eq_ok_iff {s t : String} :
    decode s = .ok t ↔ Spells (utf8 s.toList) (utf8 t.toList) := by
  rw [spells_iff, decode]
  cases hf : fault? (utf8 s.toList) with
  | some fault => simp
  | none =>
    rw [eq_comm (b := utf8 t.toList), ← ofUtf8?_eq_some_iff]
    cases ht : ofUtf8? (unescape (spaced (utf8 s.toList))) <;> simp

end Passes

section Writing

theorem hexDigit_spells : ∀ n < 16, (hexDigit n).toNat < 0x80 ∧
    hexValue? (.ofNat (hexDigit n).toNat) = some (.ofNat n) := by decide

theorem utf8_escape (b : UInt8) : utf8 (escape b) = [percentSign,
    .ofNat (hexDigit (b.toNat / 16)).toNat, .ofNat (hexDigit (b.toNat % 16)).toNat] := by
  have hlt := b.toNat_lt
  have hhigh := (hexDigit_spells (b.toNat / 16) (by omega)).1
  have hlow := (hexDigit_spells (b.toNat % 16) (by omega)).1
  rw [escape, utf8_cons, utf8_cons, utf8_cons, utf8EncodeChar_of_lt hhigh,
    utf8EncodeChar_of_lt hlow]
  rfl

theorem escape_eq_iff (b : UInt8) : escape b = ['%', '2', '0'] ↔ b = space := by
  have hinj : ∀ m < 16, ∀ n < 16, hexDigit m = hexDigit n → m = n := by decide
  constructor
  · intro h
    have hlt := b.toNat_lt
    simp only [escape, List.cons.injEq, true_and, and_true] at h
    have hhigh := hinj (b.toNat / 16) (by omega) 2 (by omega) h.1
    have hlow := hinj (b.toNat % 16) (by omega) 0 (by omega) h.2
    apply UInt8.toNat_inj.mp
    change b.toNat = 32
    omega
  · rintro rfl
    decide

theorem encodeByte_of_isUnreserved {b : UInt8} (hb : isUnreserved b = true) :
    encodeByte b = [Char.ofNat b.toNat] := by
  have hchunk : chunk b = [Char.ofNat b.toNat] := by simp [chunk, isEscaped_eq, hb]
  rw [encodeByte, hchunk, if_neg (by simp)]

theorem encodeByte_eq_escape {b : UInt8} (hb : isUnreserved b = false) (hne : b ≠ space) :
    encodeByte b = escape b := by
  have hchunk : chunk b = escape b := by simp [chunk, isEscaped_eq, hb]
  rw [encodeByte, hchunk, if_neg (mt (escape_eq_iff b).mp hne)]

theorem spells_encodeByte (b : UInt8) {bytes octets : List UInt8} (hs : Spells bytes octets) :
    Spells (utf8 (encodeByte b) ++ bytes) (b :: octets) := by
  cases hb : isUnreserved b with
  | true =>
    rw [encodeByte_of_isUnreserved hb, utf8_ofNat (lt_of_isUnreserved hb)]
    exact .kept hb hs
  | false =>
    by_cases hne : b = space
    · subst hne
      exact .plus hs
    · have hlt := b.toNat_lt
      have hhigh := (hexDigit_spells (b.toNat / 16) (by omega)).2
      have hlow := (hexDigit_spells (b.toNat % 16) (by omega)).2
      have hbyte : 16 * UInt8.ofNat (b.toNat / 16) + UInt8.ofNat (b.toNat % 16) = b := by
        apply UInt8.toNat_inj.mp
        simp only [UInt8.toNat_add, UInt8.toNat_mul, UInt8.toNat_ofNat', UInt8.reduceToNat]
        omega
      have hesc := Spells.escaped hhigh hlow hs
      rw [hbyte] at hesc
      rw [encodeByte_eq_escape hb hne, utf8_escape]
      exact hesc

theorem spells_encode (s : String) : Spells (utf8 (encode s).toList) (utf8 s.toList) := by
  rw [encode, String.toList_ofList]
  induction utf8 s.toList with
  | nil => exact .nil
  | cons b octets ih =>
    rw [List.flatMap_cons, utf8_append]
    exact spells_encodeByte b ih

theorem decode_encode (s : String) : decode (encode s) = .ok s :=
  decode_eq_ok_iff.mpr (spells_encode s)

end Writing

section Sizes
variable {bytes octets : List UInt8}

/-- No token is shorter than the one that encoding writes. -/
theorem Spells.foldr_byteCost_le (hs : Spells bytes octets) :
    octets.foldr (fun b n => byteCost b + n) 0 ≤ bytes.length := by
  induction hs with
  | nil => exact Nat.le_refl 0
  | @kept b bytes octets hb rest ih =>
    have hcost : byteCost b = 1 := by simp [byteCost, hb]
    simp only [List.foldr_cons, List.length_cons, hcost]
    omega
  | @plus bytes octets rest ih =>
    have hcost : byteCost space = 1 := rfl
    simp only [List.foldr_cons, List.length_cons, hcost]
    omega
  | @escaped high low h l bytes octets hh hl rest ih =>
    have hcost : byteCost (16 * h + l) ≤ 3 := by
      unfold byteCost
      split <;> omega
    simp only [List.foldr_cons, List.length_cons]
    omega

/-- The size of a text that is written again is at most that of the text it was read from. -/
theorem encodedSize_le_of_decode {s t : String} (h : decode s = .ok t) :
    encodedSize t ≤ byteLength s.toList := by
  have hs := decode_eq_ok_iff.mp h
  rw [← length_utf8]
  exact hs.foldr_byteCost_le

theorem byteLength_encodeByte (b : UInt8) : byteLength (encodeByte b) = byteCost b := by
  cases hb : isUnreserved b with
  | true =>
    rw [encodeByte_of_isUnreserved hb, ← length_utf8, utf8_ofNat (lt_of_isUnreserved hb)]
    simp [byteCost, hb]
  | false =>
    by_cases hne : b = space
    · subst hne
      rfl
    · rw [encodeByte_eq_escape hb hne, ← length_utf8, utf8_escape]
      simp [byteCost, hb, hne]

theorem byteLength_encode (s : String) : byteLength (encode s).toList = encodedSize s := by
  rw [encode, String.toList_ofList, encodedSize]
  induction utf8 s.toList with
  | nil => rfl
  | cons b octets ih =>
    rw [List.flatMap_cons, byteLength_append, byteLength_encodeByte, ih, List.foldr_cons]

end Sizes

section Separators
variable {octets : List UInt8} {cs : List Char}

/-- The bytes that stand in tokens; hexadecimal digits are among the unreserved ones. -/
def isTokenByte (b : UInt8) : Bool := isUnreserved b || b == plusSign || b == percentSign

theorem Spells.isTokenByte {bytes : List UInt8} (hs : Spells bytes octets) :
    ∀ b ∈ bytes, isTokenByte b = true := by
  induction hs with
  | nil => simp
  | @kept b bytes octets hb rest ih =>
    intro c hc
    rcases List.mem_cons.mp hc with rfl | hc
    · simp [Percent.isTokenByte, hb]
    · exact ih c hc
  | @plus bytes octets rest ih =>
    intro c hc
    rcases List.mem_cons.mp hc with rfl | hc
    · rfl
    · exact ih c hc
  | @escaped high low h l bytes octets hh hl rest ih =>
    have hhigh := isUnreserved_of_isHexDigit (isHexDigit_of_hexValue? hh)
    have hlow := isUnreserved_of_isHexDigit (isHexDigit_of_hexValue? hl)
    intro c hc
    rcases List.mem_cons.mp hc with rfl | hc
    · rfl
    rcases List.mem_cons.mp hc with rfl | hc
    · simp [Percent.isTokenByte, hhigh]
    rcases List.mem_cons.mp hc with rfl | hc
    · simp [Percent.isTokenByte, hlow]
    · exact ih c hc

/-- An ASCII character that stands in no token is not in a text of tokens. -/
theorem Spells.not_mem (hs : Spells (utf8 cs) octets) {c : Char} (hc : c.toNat < 0x80)
    (htoken : Percent.isTokenByte (.ofNat c.toNat) = false) : c ∉ cs := by
  intro hmem
  rw [hs.isTokenByte _ ((mem_utf8_of_lt hc).mpr hmem)] at htoken
  cases htoken

theorem not_mem_encode (s : String) {c : Char} (hc : c.toNat < 0x80)
    (htoken : Percent.isTokenByte (.ofNat c.toNat) = false) : c ∉ (encode s).toList :=
  (spells_encode s).not_mem hc htoken

end Separators

end ContextBaggage.Percent
