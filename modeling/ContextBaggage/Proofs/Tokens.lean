import ContextBaggage.Proofs.Octets

/-!
# Tokens and the first fault

A token is an unreserved byte, a plus sign or an escape with digits of either case. `Token` holds
them as data, so that what is asked of every token of a text is asked of the members of a list. No
token is the beginning of another one, hence a text is spelled in one way at most.

`Sweep` looks for the first fault by position: it reads bytes that are there, goes on behind each
token, and comes to an end for every text. A fault is reported where the tokens in front of it end.
`Resolves` is what is known of the pass that puts bytes in the place of escapes.
-/

namespace ContextBaggage.Percent

open ContextBaggage.Text

inductive Token
  | kept (b : UInt8) (hb : isUnreserved b = true)
  | plus
  | escape (high low h l : UInt8) (hh : hexValue? high = some h) (hl : hexValue? low = some l)

namespace Token

def bytes : Token → List UInt8
  | kept b _ => [b]
  | plus => [plusSign]
  | escape high low _ _ _ _ => [percentSign, high, low]

/-- The byte that a token denotes. -/
def octet : Token → UInt8
  | kept b _ => b
  | plus => space
  | escape _ _ h l _ _ => 16 * h + l

def spelled (tokens : List Token) : List UInt8 := tokens.flatMap bytes

@[simp] theorem spelled_nil : spelled [] = [] := rfl

@[simp] theorem spelled_cons (token : Token) (tokens : List Token) :
    spelled (token :: tokens) = token.bytes ++ spelled tokens := rfl

theorem bytes_append_inj {t u : Token} {rest other : List UInt8}
    (h : t.bytes ++ rest = u.bytes ++ other) : t = u ∧ rest = other := by
  have hplus : isUnreserved plusSign = false := by decide
  have hpercent : isUnreserved percentSign = false := by decide
  have hne : plusSign ≠ percentSign := by decide
  cases t with
  | kept b hb =>
    cases u with
    | kept c hc => simpa [bytes] using h
    | plus =>
      obtain rfl : b = plusSign := (List.cons.inj h).1
      rw [hplus] at hb
      cases hb
    | escape high low h' l hh hl =>
      obtain rfl : b = percentSign := (List.cons.inj h).1
      rw [hpercent] at hb
      cases hb
  | plus =>
    cases u with
    | kept c hc =>
      obtain rfl : plusSign = c := (List.cons.inj h).1
      rw [hplus] at hc
      cases hc
    | plus => exact ⟨rfl, (List.cons.inj h).2⟩
    | escape high low h' l hh hl => exact absurd (List.cons.inj h).1 hne
  | escape high low h' l hh hl =>
    cases u with
    | kept c hc =>
      obtain rfl : percentSign = c := (List.cons.inj h).1
      rw [hpercent] at hc
      cases hc
    | plus => exact absurd (List.cons.inj h).1.symm hne
    | escape high' low' h'' l' hh' hl' =>
      simp only [bytes, List.cons_append, List.nil_append, List.cons.injEq, true_and] at h
      obtain ⟨rfl, rfl, rfl⟩ := h
      obtain rfl := Option.some.inj (hh.symm.trans hh')
      obtain rfl := Option.some.inj (hl.symm.trans hl')
      exact ⟨rfl, rfl⟩

theorem bytes_ne_nil (token : Token) : token.bytes ≠ [] := by
  cases token <;> exact List.cons_ne_nil _ _

theorem spelled_inj {tokens others : List Token} (h : spelled tokens = spelled others) :
    tokens = others := by
  induction tokens generalizing others with
  | nil =>
    cases others with
    | nil => rfl
    | cons u others => exact absurd h.symm (by simp [u.bytes_ne_nil])
  | cons t tokens ih =>
    cases others with
    | nil => exact absurd h (by simp [t.bytes_ne_nil])
    | cons u others =>
      obtain ⟨rfl, hrest⟩ := bytes_append_inj h
      rw [ih hrest]

end Token

section Language
variable {bytes octets : List UInt8}

theorem spells_iff_exists_tokens : Spells bytes octets ↔
    ∃ tokens : List Token, Token.spelled tokens = bytes ∧ tokens.map Token.octet = octets := by
  constructor
  · intro hs
    induction hs with
    | nil => exact ⟨[], rfl, rfl⟩
    | @kept b bytes octets hb rest ih =>
      obtain ⟨tokens, rfl, rfl⟩ := ih
      exact ⟨.kept b hb :: tokens, rfl, rfl⟩
    | @plus bytes octets rest ih =>
      obtain ⟨tokens, rfl, rfl⟩ := ih
      exact ⟨.plus :: tokens, rfl, rfl⟩
    | @escaped high low h l bytes octets hh hl rest ih =>
      obtain ⟨tokens, rfl, rfl⟩ := ih
      exact ⟨.escape high low h l hh hl :: tokens, rfl, rfl⟩
  · rintro ⟨tokens, rfl, rfl⟩
    induction tokens with
    | nil => exact .nil
    | cons token tokens ih =>
      cases token with
      | kept b hb => exact .kept hb ih
      | plus => exact .plus ih
      | escape high low h l hh hl => exact .escaped hh hl ih

theorem decode_eq_ok_iff_exists_tokens {s t : String} : decode s = .ok t ↔
    ∃ tokens : List Token, Token.spelled tokens = utf8 s.toList ∧
      tokens.map Token.octet = utf8 t.toList :=
  decode_eq_ok_iff.trans spells_iff_exists_tokens

def IsTokens (bytes : List UInt8) : Prop := ∃ tokens : List Token, Token.spelled tokens = bytes

end Language

section Sweeping
variable {bytes : List UInt8} {place : Nat} {result : Option Fault} {fault : Fault}

/-- Two hexadecimal digits stand at the place. -/
def HexPairAt (bytes : List UInt8) (place : Nat) : Prop :=
  ∃ high low, bytes[place]? = some high ∧ bytes[place + 1]? = some low ∧
    isHexDigit high = true ∧ isHexDigit low = true

def StartsToken (b : UInt8) : Prop := ∃ token : Token, token.bytes.head? = some b

/-- The fault at a place where no token starts. -/
inductive FaultAt (bytes : List UInt8) (place : Nat) : Fault → Prop
  | badEscape (hb : bytes[place]? = some percentSign) (hdigits : ¬HexPairAt bytes (place + 1)) :
      FaultAt bytes place (.badEscape place)
  | strayByte {b : UInt8} (hb : bytes[place]? = some b) (hstart : ¬StartsToken b) :
      FaultAt bytes place (.strayByte b place)

/-- The search for a fault from a place on. -/
inductive Sweep (bytes : List UInt8) : Nat → Option Fault → Prop
  | ended {place : Nat} (h : place = bytes.length) : Sweep bytes place none
  | single {place : Nat} {b : UInt8} {result : Option Fault} (hb : bytes[place]? = some b)
      (htoken : isUnreserved b = true ∨ b = plusSign) (rest : Sweep bytes (place + 1) result) :
      Sweep bytes place result
  | escape {place : Nat} {result : Option Fault} (hb : bytes[place]? = some percentSign)
      (hdigits : HexPairAt bytes (place + 1)) (rest : Sweep bytes (place + 3) result) :
      Sweep bytes place result
  | fault {place : Nat} {fault : Fault} (h : FaultAt bytes place fault) :
      Sweep bytes place (some fault)

theorem startsToken_iff {b : UInt8} :
    StartsToken b ↔ (isUnreserved b = true ∨ b = plusSign) ∨ b = percentSign := by
  constructor
  · rintro ⟨token, hhead⟩
    cases token with
    | kept c hc =>
      obtain rfl := Option.some.inj hhead
      exact .inl (.inl hc)
    | plus => exact .inl (.inr (Option.some.inj hhead).symm)
    | escape high low h l hh hl => exact .inr (Option.some.inj hhead).symm
  · rintro ((hb | rfl) | rfl)
    · exact ⟨.kept b hb, rfl⟩
    · exact ⟨.plus, rfl⟩
    · exact ⟨.escape 0x30 0x30 0 0 rfl rfl, rfl⟩

theorem drop_of_getElem? {b : UInt8} (hb : bytes[place]? = some b) :
    bytes.drop place = b :: bytes.drop (place + 1) := by
  obtain ⟨hplace, rfl⟩ := List.getElem?_eq_some_iff.mp hb
  exact List.drop_eq_getElem_cons hplace

theorem getElem?_of_drop {b : UInt8} {rest : List UInt8} (h : bytes.drop place = b :: rest) :
    bytes[place]? = some b ∧ bytes.drop (place + 1) = rest := by
  constructor
  · rw [← Nat.add_zero place, ← List.getElem?_drop, h]
    rfl
  · rw [← List.drop_drop, h]
    rfl

theorem hexPairAt_iff : HexPairAt bytes place ↔
    ∃ high low after, bytes.drop place = high :: low :: after ∧
      isHexDigit high = true ∧ isHexDigit low = true := by
  constructor
  · rintro ⟨high, low, hhigh, hlow, hdigits⟩
    refine ⟨high, low, bytes.drop (place + 1 + 1), ?_, hdigits⟩
    rw [drop_of_getElem? hhigh, drop_of_getElem? hlow]
  · rintro ⟨high, low, after, hdrop, hdigits⟩
    obtain ⟨hhigh, hrest⟩ := getElem?_of_drop hdrop
    exact ⟨high, low, hhigh, (getElem?_of_drop hrest).1, hdigits⟩

/-- The search comes to an end wherever it is begun. -/
theorem sweep_faultFrom? {rest : List UInt8} (h : bytes.drop place = rest)
    (hplace : place ≤ bytes.length) : Sweep bytes place (faultFrom? place rest) := by
  fun_induction faultFrom? place rest with
  | case1 place =>
    have hlength := List.drop_eq_nil_iff.mp h
    exact .ended (by omega)
  | case2 place high low after hdigits ih =>
    obtain ⟨hb, hnext⟩ := getElem?_of_drop h
    rw [Bool.and_eq_true] at hdigits
    have hafter : bytes.drop (place + 3) = after := by
      rw [← List.drop_drop, h]
      rfl
    have hlength := congrArg List.length h
    rw [List.length_drop, List.length_cons, List.length_cons, List.length_cons] at hlength
    exact .escape hb (hexPairAt_iff.mpr ⟨high, low, after, hnext, hdigits⟩)
      (ih hafter (by omega))
  | case3 place high low after hdigits =>
    obtain ⟨hb, hnext⟩ := getElem?_of_drop h
    refine .fault (.badEscape hb fun hpair => hdigits ?_)
    obtain ⟨first, second, others, hdrop, hpair⟩ := hexPairAt_iff.mp hpair
    rw [hnext] at hdrop
    obtain ⟨rfl, rfl, -⟩ : high = first ∧ low = second ∧ after = others := by
      simpa using hdrop
    rwa [Bool.and_eq_true]
  | case4 place rest hshort =>
    obtain ⟨hb, hnext⟩ := getElem?_of_drop h
    refine .fault (.badEscape hb fun hpair => ?_)
    obtain ⟨high, low, after, hdrop, -⟩ := hexPairAt_iff.mp hpair
    exact hshort high low after (hnext.symm.trans hdrop)
  | case5 place b rest hpercent htoken ih =>
    obtain ⟨hb, hnext⟩ := getElem?_of_drop h
    have hlength := congrArg List.length h
    rw [List.length_drop, List.length_cons] at hlength
    rw [Bool.or_eq_true, beq_iff_eq] at htoken
    exact .single hb htoken (ih hnext (by omega))
  | case6 place b rest hpercent htoken =>
    obtain ⟨hb, -⟩ := getElem?_of_drop h
    rw [Bool.or_eq_true, beq_iff_eq] at htoken
    refine .fault (.strayByte hb fun hstart => ?_)
    rcases startsToken_iff.mp hstart with hsingle | hescape
    · exact htoken hsingle
    · exact hpercent hescape

theorem FaultAt.faultFrom?_eq (h : FaultAt bytes place fault) :
    faultFrom? place (bytes.drop place) = some fault := by
  cases h with
  | badEscape hb hdigits =>
    rw [drop_of_getElem? hb, faultFrom?.eq_def]
    simp only [if_true]
    split
    · next high low after hdrop =>
      have hno : ¬(isHexDigit high && isHexDigit low) = true := by
        intro hpair
        rw [Bool.and_eq_true] at hpair
        exact hdigits (hexPairAt_iff.mpr ⟨high, low, after, hdrop, hpair⟩)
      rw [if_neg hno]
    · rfl
  | @strayByte b hb hstart =>
    have hstart := mt startsToken_iff.mpr hstart
    rw [not_or] at hstart
    have hsingle : ¬(isUnreserved b || b == plusSign) = true := by
      rw [Bool.or_eq_true, beq_iff_eq]
      exact hstart.1
    rw [drop_of_getElem? hb, faultFrom?.eq_def]
    simp only [if_neg hstart.2, if_neg hsingle]

theorem faultFrom?_bytes_append (token : Token) (place : Nat) (rest : List UInt8) :
    faultFrom? place (token.bytes ++ rest) = faultFrom? (place + token.bytes.length) rest := by
  cases token with
  | kept b hb => exact faultFrom?_single (.inl hb) place rest
  | plus => exact faultFrom?_single (.inr rfl) place rest
  | escape high low h l hh hl =>
    exact faultFrom?_escape (isHexDigit_of_hexValue? hh) (isHexDigit_of_hexValue? hl) place rest

theorem faultFrom?_spelled_append (tokens : List Token) (place : Nat) (rest : List UInt8) :
    faultFrom? place (Token.spelled tokens ++ rest) =
      faultFrom? (place + (Token.spelled tokens).length) rest := by
  induction tokens generalizing place with
  | nil => rfl
  | cons token tokens ih =>
    rw [Token.spelled_cons, List.append_assoc, faultFrom?_bytes_append, ih, List.length_append,
      Nat.add_assoc]

theorem exists_token_single {b : UInt8} (hb : bytes[place]? = some b)
    (h : isUnreserved b = true ∨ b = plusSign) :
    ∃ token : Token, bytes.drop place = token.bytes ++ bytes.drop (place + 1) ∧
      token.bytes.length = 1 := by
  rw [drop_of_getElem? hb]
  rcases h with hkept | rfl
  · exact ⟨.kept b hkept, rfl, rfl⟩
  · exact ⟨.plus, rfl, rfl⟩

theorem exists_token_escape (hb : bytes[place]? = some percentSign)
    (hdigits : HexPairAt bytes (place + 1)) :
    ∃ token : Token, bytes.drop place = token.bytes ++ bytes.drop (place + 3) ∧
      token.bytes.length = 3 := by
  obtain ⟨high, low, hhigh, hlow, hpair⟩ := hdigits
  obtain ⟨h, hh⟩ := exists_hexValue? hpair.1
  obtain ⟨l, hl⟩ := exists_hexValue? hpair.2
  rw [drop_of_getElem? hb, drop_of_getElem? hhigh, drop_of_getElem? hlow]
  exact ⟨.escape high low h l hh hl, rfl, rfl⟩

theorem IsTokens.take_add {token : Token} {rest : List UInt8} (h : IsTokens (bytes.take place))
    (hdrop : bytes.drop place = token.bytes ++ rest) :
    IsTokens (bytes.take (place + token.bytes.length)) := by
  obtain ⟨tokens, htokens⟩ := h
  refine ⟨tokens ++ [token], ?_⟩
  rw [List.take_add, ← htokens, hdrop, List.take_left]
  simp [Token.spelled]

theorem Sweep.eq_faultFrom? (h : Sweep bytes place result) :
    result = faultFrom? place (bytes.drop place) := by
  induction h with
  | ended hplace =>
    rw [hplace, List.drop_length]
    rfl
  | single hb htoken rest ih =>
    obtain ⟨token, hdrop, hlength⟩ := exists_token_single hb htoken
    rw [ih, hdrop, faultFrom?_bytes_append, hlength]
  | escape hb hdigits rest ih =>
    obtain ⟨token, hdrop, hlength⟩ := exists_token_escape hb hdigits
    rw [ih, hdrop, faultFrom?_bytes_append, hlength]
  | fault hfault => exact hfault.faultFrom?_eq.symm

theorem sweep_iff : Sweep bytes 0 result ↔ result = fault? bytes := by
  constructor
  · exact Sweep.eq_faultFrom?
  · rintro rfl
    exact sweep_faultFrom? rfl (Nat.zero_le _)

/-- Up to the fault that is found, the search has only gone over tokens. -/
theorem Sweep.exists_faultAt (h : Sweep bytes place (some fault))
    (hbefore : IsTokens (bytes.take place)) :
    ∃ found, IsTokens (bytes.take found) ∧ FaultAt bytes found fault := by
  generalize hresult : some fault = result at h
  induction h with
  | ended hplace => cases hresult
  | single hb htoken rest ih =>
    obtain ⟨token, hdrop, hlength⟩ := exists_token_single hb htoken
    exact ih (hlength ▸ hbefore.take_add hdrop) hresult
  | escape hb hdigits rest ih =>
    obtain ⟨token, hdrop, hlength⟩ := exists_token_escape hb hdigits
    exact ih (hlength ▸ hbefore.take_add hdrop) hresult
  | @fault place other hfault =>
    obtain rfl := Option.some.inj hresult
    exact ⟨place, hbefore, hfault⟩

theorem FaultAt.lt_length (h : FaultAt bytes place fault) : place < bytes.length := by
  cases h with
  | badEscape hb _ => exact (List.getElem?_eq_some_iff.mp hb).1
  | strayByte hb _ => exact (List.getElem?_eq_some_iff.mp hb).1

theorem fault?_eq_some_iff : fault? bytes = some fault ↔
    ∃ place, IsTokens (bytes.take place) ∧ FaultAt bytes place fault := by
  constructor
  · intro hfault
    exact Sweep.exists_faultAt (sweep_iff.mpr hfault.symm) ⟨[], rfl⟩
  · rintro ⟨place, ⟨tokens, htokens⟩, hfault⟩
    have hlength : (Token.spelled tokens).length = place := by
      rw [htokens, List.length_take, Nat.min_eq_left (Nat.le_of_lt hfault.lt_length)]
    calc fault? bytes
      _ = faultFrom? 0 (Token.spelled tokens ++ bytes.drop place) := by
        rw [htokens, List.take_append_drop, fault?]
      _ = faultFrom? place (bytes.drop place) := by
        rw [faultFrom?_spelled_append, hlength, Nat.zero_add]
      _ = some fault := hfault.faultFrom?_eq

end Sweeping

section Resolving
variable {bytes rest : List UInt8} {resolve : List UInt8 → List UInt8}

/-- Puts the byte that an escape spells in its place and leaves all other bytes as they are. -/
structure Resolves (resolve : List UInt8 → List UInt8) : Prop where
  nil : resolve [] = []
  escape {high low h l : UInt8} (hh : hexValue? high = some h) (hl : hexValue? low = some l)
    (rest : List UInt8) :
    resolve (percentSign :: high :: low :: rest) = (16 * h + l) :: resolve rest
  other {b : UInt8} {rest : List UInt8} (h : ¬(b = percentSign ∧ HexPairAt rest 0)) :
    resolve (b :: rest) = b :: resolve rest

theorem unescape_percentSign (h : ¬HexPairAt rest 0) :
    unescape (percentSign :: rest) = percentSign :: unescape rest := by
  have hstep : unescapeFrom [] (percentSign :: rest) = unescapeFrom [percentSign] rest := by
    rw [unescapeFrom.eq_def]
    simp only [if_true]
    split
    · next high low after =>
      split
      · next h' l hh hl =>
        have hdigits := And.intro (isHexDigit_of_hexValue? hh) (isHexDigit_of_hexValue? hl)
        exact absurd ⟨high, low, rfl, rfl, hdigits⟩ h
      · rfl
    · rfl
  rw [unescape, hstep, unescapeFrom_eq]
  rfl

theorem resolves_unescape : Resolves unescape where
  nil := unescape_nil
  escape hh hl rest := unescape_escape hh hl rest
  other := by
    intro b rest h
    by_cases hb : b = percentSign
    · subst hb
      exact unescape_percentSign fun hpair => h ⟨rfl, hpair⟩
    · exact unescape_cons hb rest

theorem Resolves.eq_unescape (h : Resolves resolve) : resolve = unescape := by
  funext bytes
  -- on the length, since an escape is read three bytes at a time
  induction hlength : bytes.length using Nat.strongRecOn generalizing bytes with
  | ind length ih =>
    cases bytes with
    | nil => rw [h.nil, unescape_nil]
    | cons b rest =>
      by_cases hescape : b = percentSign ∧ HexPairAt rest 0
      · obtain ⟨rfl, hpair⟩ := hescape
        obtain ⟨high, low, after, hdrop, hhigh, hlow⟩ := hexPairAt_iff.mp hpair
        obtain rfl : rest = high :: low :: after := hdrop
        obtain ⟨h', hh⟩ := exists_hexValue? hhigh
        obtain ⟨l, hl⟩ := exists_hexValue? hlow
        have hless : after.length < length := by
          rw [← hlength, List.length_cons, List.length_cons, List.length_cons]
          omega
        rw [h.escape hh hl, unescape_escape hh hl, ih after.length hless after rfl]
      · have hless : rest.length < length := by
          rw [← hlength, List.length_cons]
          omega
        rw [h.other hescape, resolves_unescape.other hescape, ih rest.length hless rest rfl]

/-- What is known of the third pass leaves no choice. -/
theorem resolves_iff : Resolves resolve ↔ resolve = unescape := by
  constructor
  · exact Resolves.eq_unescape
  · rintro rfl
    exact resolves_unescape

end Resolving

section Decoding
variable {s : String} {place : Nat}

theorem fault?_ne_notUtf8 (bytes : List UInt8) : fault? bytes ≠ some .notUtf8 := by
  intro hfault
  obtain ⟨place, -, hat⟩ := fault?_eq_some_iff.mp hfault
  cases hat

theorem decode_eq_fault_iff {fault : Fault} (hne : fault ≠ .notUtf8) :
    decode s = .error fault ↔ fault? (utf8 s.toList) = some fault := by
  rw [decode]
  cases fault? (utf8 s.toList) with
  | some other => simp
  | none =>
    cases ofUtf8? (unescape (spaced (utf8 s.toList))) with
    | some text => simp
    | none => simpa using hne.symm

theorem decode_eq_badEscape_iff : decode s = .error (.badEscape place) ↔
    IsTokens ((utf8 s.toList).take place) ∧ (utf8 s.toList)[place]? = some percentSign ∧
      ¬HexPairAt (utf8 s.toList) (place + 1) := by
  rw [decode_eq_fault_iff (by simp), fault?_eq_some_iff]
  constructor
  · rintro ⟨found, hbefore, hat⟩
    cases hat with
    | badEscape hb hdigits => exact ⟨hbefore, hb, hdigits⟩
  · rintro ⟨hbefore, hb, hdigits⟩
    exact ⟨place, hbefore, .badEscape hb hdigits⟩

theorem decode_eq_strayByte_iff {b : UInt8} : decode s = .error (.strayByte b place) ↔
    IsTokens ((utf8 s.toList).take place) ∧ (utf8 s.toList)[place]? = some b ∧
      ¬StartsToken b := by
  rw [decode_eq_fault_iff (by simp), fault?_eq_some_iff]
  constructor
  · rintro ⟨found, hbefore, hat⟩
    cases hat with
    | strayByte hb hstart => exact ⟨hbefore, hb, hstart⟩
  · rintro ⟨hbefore, hb, hstart⟩
    exact ⟨place, hbefore, .strayByte hb hstart⟩

theorem decode_eq_notUtf8_iff : decode s = .error .notUtf8 ↔
    ∃ tokens : List Token, Token.spelled tokens = utf8 s.toList ∧
      ∀ t : String, utf8 t.toList ≠ tokens.map Token.octet := by
  have hchain : decode s = .error .notUtf8 ↔ fault? (utf8 s.toList) = none ∧
      ofUtf8? (unescape (spaced (utf8 s.toList))) = none := by
    rw [decode]
    cases hfault : fault? (utf8 s.toList) with
    | some fault =>
      have hne := fault?_ne_notUtf8 (utf8 s.toList)
      rw [hfault] at hne
      simpa using hne
    | none => cases ofUtf8? (unescape (spaced (utf8 s.toList))) <;> simp
  rw [hchain, ofUtf8?_eq_none_iff]
  constructor
  · rintro ⟨hfault, hno⟩
    obtain ⟨tokens, hspelled, hoctets⟩ :=
      spells_iff_exists_tokens.mp (spells_iff.mpr ⟨hfault, rfl⟩)
    exact ⟨tokens, hspelled, hoctets ▸ hno⟩
  · rintro ⟨tokens, hspelled, hno⟩
    obtain ⟨hfault, hoctets⟩ := spells_iff.mp (spells_iff_exists_tokens.mpr ⟨tokens, hspelled, rfl⟩)
    exact ⟨hfault, hoctets ▸ hno⟩

/-- What decoding answers: the text whose bytes the tokens denote, or the first fault. Whether there
is one comes out of a search that ends and reads no byte that is not there, and resolving escapes
means one thing only. -/
theorem decode_language (s : String) :
    (∀ t, decode s = .ok t ↔ ∃ tokens : List Token, Token.spelled tokens = utf8 s.toList ∧
      tokens.map Token.octet = utf8 t.toList) ∧
    (decode s = .error .notUtf8 ↔ ∃ tokens : List Token, Token.spelled tokens = utf8 s.toList ∧
      ∀ t : String, utf8 t.toList ≠ tokens.map Token.octet) ∧
    (∀ place, decode s = .error (.badEscape place) ↔
      IsTokens ((utf8 s.toList).take place) ∧ (utf8 s.toList)[place]? = some percentSign ∧
        ¬HexPairAt (utf8 s.toList) (place + 1)) ∧
    (∀ b place, decode s = .error (.strayByte b place) ↔
      IsTokens ((utf8 s.toList).take place) ∧ (utf8 s.toList)[place]? = some b ∧
        ¬StartsToken b) ∧
    (∀ result, Sweep (utf8 s.toList) 0 result ↔ result = fault? (utf8 s.toList)) ∧
    ∀ resolve, Resolves resolve ↔ resolve = unescape :=
  ⟨fun _ => decode_eq_ok_iff_exists_tokens, decode_eq_notUtf8_iff,
    fun _ => decode_eq_badEscape_iff, fun _ _ => decode_eq_strayByte_iff, fun _ => sweep_iff,
    fun _ => resolves_iff⟩

example : decode "caf%C3%A9+%2b%2" = .error (.badEscape 13) := by cbv

end Decoding

end ContextBaggage.Percent
