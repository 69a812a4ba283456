import ContextBaggage.Proofs.Fitting

/-!
# What is taken and what is left out

`Scan taken tokens final causes` accounts for a reading as a whole. Behind the entries `taken`, the
tokens lead to the entries `final`, and `causes` lists why each of the others was left out. Nothing
is counted along the way: the room and the total are those of the entries taken so far, and every
cause is listed. `Refused` and `Admitted` say what becomes of one token.

Reading agrees with the account, and the report is what is left of it when only the first causes
are kept.
-/

namespace ContextBaggage.Header

/-- The key of a member can be decoded and keeps its rule. -/
structure Member.HasKey (m : Member) (key : String) : Prop where
  decoded : Percent.decode m.key.content = .ok key
  valid : isKey key = true

structure Member.HasTexts (m : Member) (key value : String) : Prop extends m.HasKey key where
  decodedValue : Percent.decode m.value.content = .ok value
  validValue : isPrintable value = true

/-- The first check that a token fails behind the entries taken. The checks are made in the order
of the constructors, and each one presupposes that those before it were passed. -/
inductive Refused (taken : List Entry) : Except Rejection Member → Rejection → Prop
  | noSeparator : Refused taken (.error .noSeparator) .noSeparator
  | undecodableKey {m : Member} {fault : Percent.Fault}
      (hkey : Percent.decode m.key.content = .error fault) :
      Refused taken (.ok m) (.undecodable fault)
  | invalidKey {m : Member} {key : String} (hkey : Percent.decode m.key.content = .ok key)
      (hrule : isKey key = false) : Refused taken (.ok m) .invalidKey
  | undecodableValue {m : Member} {key : String} {fault : Percent.Fault} (hkey : m.HasKey key)
      (hvalue : Percent.decode m.value.content = .error fault) :
      Refused taken (.ok m) (.undecodable fault)
  | invalidValue {m : Member} {key value : String} (hkey : m.HasKey key)
      (hvalue : Percent.decode m.value.content = .ok value) (hrule : isPrintable value = false) :
      Refused taken (.ok m) .invalidValue
  | entryTooLarge {m : Member} {key value : String} (htexts : m.HasTexts key value)
      (hsize : entrySizeBound ≤ m.size) : Refused taken (.ok m) (.entryTooLarge m.size)
  | totalTooLarge {m : Member} {key value : String} (htexts : m.HasTexts key value)
      (hsize : m.size < entrySizeBound) (htotal : totalSizeBound ≤ Baggage.charge taken + m.size) :
      Refused taken (.ok m) (.totalTooLarge (Baggage.charge taken + m.size))
  | duplicateKey {m : Member} {key value : String} (htexts : m.HasTexts key value)
      (hsize : m.size < entrySizeBound) (htotal : Baggage.charge taken + m.size < totalSizeBound)
      (hkey : ∃ t ∈ taken, t.key = key) : Refused taken (.ok m) .duplicateKey

/-- A token passes all checks and gives an entry, charged its size in the header. -/
inductive Admitted (taken : List Entry) : Except Rejection Member → Entry → Prop
  | intro {m : Member} {key value : String} (htexts : m.HasTexts key value)
      (hsize : m.size < entrySizeBound) (htotal : Baggage.charge taken + m.size < totalSizeBound)
      (hkey : ∀ t ∈ taken, t.key ≠ key) :
      Admitted taken (.ok m) ⟨⟨key, value, .ofText m.metadata.content⟩, m.size⟩

inductive Scan : List Entry → List (Except Rejection Member) → List Entry → List Rejection → Prop
  | done (taken : List Entry) : Scan taken [] taken []
  /-- Whatever the token is, it ends the scan when there is no room left. -/
  | full {taken : List Entry} (hfull : taken.length = maxEntries)
      (token : Except Rejection Member) (rest : List (Except Rejection Member)) :
      Scan taken (token :: rest) taken [.full]
  | refused {taken final : List Entry} {token : Except Rejection Member}
      {rest : List (Except Rejection Member)} {cause : Rejection} {causes : List Rejection}
      (hroom : taken.length < maxEntries) (h : Refused taken token cause)
      (hrest : Scan taken rest final causes) : Scan taken (token :: rest) final (cause :: causes)
  | admitted {taken final : List Entry} {token : Except Rejection Member}
      {rest : List (Except Rejection Member)} {e : Entry} {causes : List Rejection}
      (hroom : taken.length < maxEntries) (h : Admitted taken token e)
      (hrest : Scan (taken ++ [e]) rest final causes) : Scan taken (token :: rest) final causes

section Checks
variable {taken : List Entry} {token : Except Rejection Member} {m : Member} {key value : String}

theorem decodeText_of_rule {rule : String → Bool} {broken : Rejection} {encoded text : String}
    (h : Percent.decode encoded = .ok text) : decodeText rule broken encoded =
      if rule text = true then .ok text else .error broken := by
  rw [decodeText, h]

theorem decodeText_of_fault {rule : String → Bool} {broken : Rejection} {encoded : String}
    {fault : Percent.Fault} (h : Percent.decode encoded = .error fault) :
    decodeText rule broken encoded = .error (.undecodable fault) := by
  rw [decodeText, h]

theorem Member.HasKey.decode (h : m.HasKey key) : m.decode =
    (decodeText isPrintable .invalidValue m.value.content).map fun value =>
      ⟨⟨key, value, .ofText m.metadata.content⟩, m.size⟩ := by
  rw [Member.decode, decodeText_of_rule h.decoded, if_pos h.valid]
  cases decodeText isPrintable .invalidValue m.value.content <;> rfl

theorem Member.HasTexts.decode (h : m.HasTexts key value) :
    m.decode = .ok ⟨⟨key, value, .ofText m.metadata.content⟩, m.size⟩ := by
  rw [h.toHasKey.decode, decodeText_of_rule h.decodedValue, if_pos h.validValue]
  rfl

theorem accept_of_decode_error {total : Nat} {cause : Rejection} (h : m.decode = .error cause) :
    accept taken total (.ok m) = .error cause := by
  simp only [accept, bind, Except.bind, h]

theorem accept_of_misfit {total : Nat} {e : Entry} {cause : Rejection} (h : m.decode = .ok e)
    (hmisfit : misfit? taken total e = some cause) :
    accept taken total (.ok m) = .error cause := by
  simp only [accept, bind, Except.bind, h, hmisfit]
  rfl

theorem Refused.accept {cause : Rejection} (h : Refused taken token cause) :
    accept taken (Baggage.charge taken) token = .error cause := by
  cases h with
  | noSeparator => rfl
  | undecodableKey hkey =>
    apply accept_of_decode_error
    rw [Member.decode, decodeText_of_fault hkey]
    rfl
  | invalidKey hkey hrule =>
    apply accept_of_decode_error
    rw [Member.decode, decodeText_of_rule hkey, hrule]
    rfl
  | undecodableValue hkey hvalue =>
    apply accept_of_decode_error
    rw [hkey.decode, decodeText_of_fault hvalue]
    rfl
  | invalidValue hkey hvalue hrule =>
    apply accept_of_decode_error
    rw [hkey.decode, decodeText_of_rule hvalue, hrule]
    rfl
  | entryTooLarge htexts hsize =>
    apply accept_of_misfit htexts.decode
    rw [misfit?, if_pos hsize]
  | totalTooLarge htexts hsize htotal =>
    apply accept_of_misfit htexts.decode
    rw [misfit?, if_neg (Nat.not_le.mpr hsize), if_pos htotal]
  | duplicateKey htexts hsize htotal hkey =>
    apply accept_of_misfit htexts.decode
    obtain ⟨t, ht, rfl⟩ := hkey
    have hany : (taken.any fun d => d.key == t.key) = true :=
      List.any_eq_true.mpr ⟨t, ht, beq_self_eq_true _⟩
    rw [misfit?, if_neg (Nat.not_le.mpr hsize), if_neg (Nat.not_le.mpr htotal), if_pos hany]

theorem Admitted.accept {e : Entry} (h : Admitted taken token e) :
    accept taken (Baggage.charge taken) token = .ok e := by
  cases h with
  | intro htexts hsize htotal hkey =>
    exact accept_eq_ok_iff.mpr ⟨htexts.decode, misfit?_eq_none_iff.mpr ⟨hsize, htotal, hkey⟩⟩

/-- A member with texts can only fail the checks of its size and its key. -/
theorem Member.HasTexts.refused_or_admitted (h : m.HasTexts key value) :
    (∃ cause, Refused taken (.ok m) cause) ∨ ∃ e, Admitted taken (.ok m) e := by
  by_cases hlarge : entrySizeBound ≤ m.size
  · exact .inl ⟨_, .entryTooLarge h hlarge⟩
  have hsize := Nat.lt_of_not_le hlarge
  by_cases hheavy : totalSizeBound ≤ Baggage.charge taken + m.size
  · exact .inl ⟨_, .totalTooLarge h hsize hheavy⟩
  have htotal := Nat.lt_of_not_le hheavy
  by_cases hkey : ∃ t ∈ taken, t.key = key
  · exact .inl ⟨_, .duplicateKey h hsize htotal hkey⟩
  · refine .inr ⟨_, .intro h hsize htotal ?_⟩
    intro t ht heq
    exact hkey ⟨t, ht, heq⟩

theorem refused_or_admitted_ok (taken : List Entry) (m : Member) :
    (∃ cause, Refused taken (.ok m) cause) ∨ ∃ e, Admitted taken (.ok m) e := by
  cases hkey : Percent.decode m.key.content with
  | error fault => exact .inl ⟨_, .undecodableKey hkey⟩
  | ok key =>
    cases hrule : isKey key with
    | false => exact .inl ⟨_, .invalidKey hkey hrule⟩
    | true =>
      cases hvalue : Percent.decode m.value.content with
      | error fault => exact .inl ⟨_, .undecodableValue ⟨hkey, hrule⟩ hvalue⟩
      | ok value =>
        cases hruleValue : isPrintable value with
        | false => exact .inl ⟨_, .invalidValue ⟨hkey, hrule⟩ hvalue hruleValue⟩
        | true => exact Member.HasTexts.refused_or_admitted ⟨⟨hkey, hrule⟩, hvalue, hruleValue⟩

theorem eq_noSeparator_of_mem_tokenize {header : String} {cause : Rejection}
    (h : .error cause ∈ tokenize header) : cause = .noSeparator := by
  obtain ⟨segment, _, hsegment⟩ := List.mem_map.mp h
  unfold Member.ofPiece at hsegment
  split at hsegment
  · exact (Except.error.inj hsegment).symm
  · split at hsegment
    · cases hsegment
    · cases hsegment

theorem refused_or_admitted {header : String} (htoken : token ∈ tokenize header)
    (taken : List Entry) : (∃ cause, Refused taken token cause) ∨ ∃ e, Admitted taken token e := by
  cases token with
  | error cause =>
    obtain rfl := eq_noSeparator_of_mem_tokenize htoken
    exact .inl ⟨_, .noSeparator⟩
  | ok m => exact refused_or_admitted_ok taken m

end Checks

namespace Scan
variable {taken final : List Entry} {tokens : List (Except Rejection Member)}
  {causes : List Rejection}

/-- Whatever is to be remembered of skips, it is remembered of the causes in their order. -/
theorem readFrom {σ : Type} (skip : σ → Rejection → σ) (h : Scan taken tokens final causes)
    (skips : σ) : readFrom skip taken (Baggage.charge taken) skips tokens =
      (.ofEntries final, causes.foldl skip skips) := by
  induction h generalizing skips with
  | done taken => rfl
  | full hfull token rest =>
    rw [Header.readFrom, if_pos (Nat.le_of_eq hfull.symm)]
    rfl
  | refused hroom h hrest ih =>
    rw [Header.readFrom, if_neg (Nat.not_le.mpr hroom), h.accept]
    exact ih (skip skips _)
  | @admitted taken final token rest e causes hroom h hrest ih =>
    have hcharge : Baggage.charge (taken ++ [e]) = Baggage.charge taken + e.size := by simp
    rw [Header.readFrom, if_neg (Nat.not_le.mpr hroom), h.accept]
    simp only [← hcharge]
    exact ih skips

theorem unique {final' : List Entry} {causes' : List Rejection}
    (h : Scan taken tokens final causes) (h' : Scan taken tokens final' causes') :
    final = final' ∧ causes = causes' := by
  have hread := h.readFrom (fun done cause => cause :: done) []
  rw [h'.readFrom, Prod.mk.injEq] at hread
  refine ⟨congrArg Baggage.entries hread.1.symm, ?_⟩
  simpa using hread.2.symm

theorem exists_of_mem_tokenize {header : String} (hroom : taken.length ≤ maxEntries)
    (htokens : ∀ token ∈ tokens, token ∈ tokenize header) :
    ∃ final causes, Scan taken tokens final causes := by
  induction tokens generalizing taken with
  | nil => exact ⟨taken, [], .done taken⟩
  | cons token rest ih =>
    by_cases hfull : taken.length = maxEntries
    · exact ⟨taken, [.full], .full hfull token rest⟩
    have hroom : taken.length < maxEntries := Nat.lt_of_le_of_ne hroom hfull
    have hrest : ∀ t ∈ rest, t ∈ tokenize header := fun t ht => htokens t (.tail token ht)
    rcases refused_or_admitted (htokens token List.mem_cons_self) taken with ⟨cause, h⟩ | ⟨e, h⟩
    · obtain ⟨final, causes, hscan⟩ := ih (Nat.le_of_lt hroom) hrest
      exact ⟨final, cause :: causes, .refused hroom h hscan⟩
    · have hnext : (taken ++ [e]).length ≤ maxEntries := by
        rw [List.length_append, List.length_singleton]
        exact hroom
      obtain ⟨final, causes, hscan⟩ := ih hnext hrest
      exact ⟨final, causes, .admitted hroom h hscan⟩

end Scan

theorem exists_scan_tokenize (header : String) :
    ∃ final causes, Scan [] (tokenize header) final causes :=
  Scan.exists_of_mem_tokenize (Nat.zero_le _) fun _ h => h

theorem foldl_noteSkip (causes kept : List Rejection) (count : Nat) :
    causes.foldl noteSkip (kept, count) =
      (kept ++ causes.take (maxReported - kept.length), count + causes.length) := by
  induction causes generalizing kept count with
  | nil => simp
  | cons cause causes ih =>
    rw [List.foldl_cons, noteSkip]
    by_cases hroom : kept.length < maxReported
    · have hsucc : maxReported - kept.length = maxReported - (kept.length + 1) + 1 := by omega
      rw [if_pos hroom, ih, List.length_append, List.length_singleton, hsucc, List.take_succ_cons,
        List.length_cons]
      simp only [List.append_assoc, List.singleton_append, Prod.mk.injEq, true_and]
      omega
    · have hzero : maxReported - kept.length = 0 := by omega
      rw [if_neg hroom, ih, hzero, List.take_zero, List.take_zero, List.length_cons]
      simp only [Prod.mk.injEq, true_and]
      omega

theorem Scan.report_eq {header : String} {final : List Entry} {causes : List Rejection}
    (h : Scan [] (tokenize header) final causes) :
    report header = ⟨.ofEntries final, causes.take maxReported, causes.length⟩ := by
  have hread : readHeader noteSkip ([], 0) header = _ := h.readFrom noteSkip ([], 0)
  rw [report, hread, foldl_noteSkip]
  simp

theorem Scan.parse_eq {header : String} {final : List Entry} {causes : List Rejection}
    (h : Scan [] (tokenize header) final causes) : parse header = .ofEntries final := by
  have hread : readHeader (fun skips _ => skips) () header = _ := h.readFrom _ ()
  rw [parse, hread]

theorem baggage_report (header : String) : (report header).baggage = parse header := by
  obtain ⟨taken, causes, h⟩ := exists_scan_tokenize header
  rw [h.report_eq, h.parse_eq]

/-- Each header has exactly one account, and reading gives what it says: the entries admitted, in
the order of the header, and the causes of all skips, of which the report keeps the first. -/
theorem report_eq_account (header : String) : ∃ taken causes,
    (∀ final others, Scan [] (tokenize header) final others ↔ final = taken ∧ others = causes) ∧
    report header = ⟨⟨taken, Baggage.charge taken⟩, causes.take 16, causes.length⟩ ∧
    parse header = ⟨taken, Baggage.charge taken⟩ := by
  obtain ⟨taken, causes, h⟩ := exists_scan_tokenize header
  refine ⟨taken, causes, ?_, h.report_eq, h.parse_eq⟩
  intro final others
  constructor
  · exact fun h' => h'.unique h
  · rintro ⟨rfl, rfl⟩
    exact h

end ContextBaggage.Header
