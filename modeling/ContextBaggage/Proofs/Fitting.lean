import ContextBaggage.Proofs.Octets
import ContextBaggage.Proofs.Segments

/-!
# Entries that fit

`Sound` is what holds of an entry by itself, and `Fits` what holds of the entries of one baggage
together. Every entry that can be read from a header is sound, reading keeps entries together only
while they fit, and entries that fit are all taken when they are read in order.
-/

namespace ContextBaggage

open ContextBaggage.Text

structure Entry.Sound (e : Entry) : Prop where
  key : isKey e.key = true
  value : isPrintable e.value = true
  metadata : ',' ∉ e.metadata.text.toList
  charged : e.toPair.size ≤ e.size

structure Fits (es : List Entry) : Prop where
  count : es.length ≤ maxEntries
  sizes : ∀ e ∈ es, e.size < entrySizeBound
  total : Baggage.charge es < totalSizeBound
  keys : (es.map fun e => e.key).Nodup

theorem fits_nil : Fits [] :=
  ⟨Nat.zero_le _, fun _ h => absurd h List.not_mem_nil, by decide, List.nodup_nil⟩

theorem Fits.of_sublist {ds es : List Entry} (h : ds.Sublist es) (hes : Fits es) : Fits ds where
  count := Nat.le_trans h.length_le hes.count
  sizes := fun e he => hes.sizes e (h.mem he)
  total := Nat.lt_of_le_of_lt (Baggage.charge_le_of_sublist h) hes.total
  keys := hes.keys.sublist (h.map _)

namespace Header

theorem decodeText_eq_ok_iff {rule : String → Bool} {broken : Rejection} {encoded text : String} :
    decodeText rule broken encoded = .ok text ↔
      Percent.decode encoded = .ok text ∧ rule text = true := by
  unfold decodeText
  cases Percent.decode encoded with
  | error fault => simp
  | ok decoded =>
    by_cases hrule : rule decoded = true
    · simp only [if_pos hrule, Except.ok.injEq]
      constructor
      · rintro rfl
        exact ⟨rfl, hrule⟩
      · exact And.left
    · simp only [if_neg hrule, reduceCtorEq, Except.ok.injEq, false_iff, not_and]
      rintro rfl
      exact hrule

theorem Member.decode_eq_ok_iff {m : Member} {e : Entry} : m.decode = .ok e ↔
    (Percent.decode m.key.content = .ok e.key ∧ isKey e.key = true) ∧
      (Percent.decode m.value.content = .ok e.value ∧ isPrintable e.value = true) ∧
        .ofText m.metadata.content = e.metadata ∧ m.size = e.size := by
  have hkey : decodeText isKey .invalidKey m.key.content = .ok e.key ↔ _ := decodeText_eq_ok_iff
  have hvalue : decodeText isPrintable .invalidValue m.value.content = .ok e.value ↔ _ :=
    decodeText_eq_ok_iff
  rw [← hkey, ← hvalue, decode]
  cases decodeText isKey .invalidKey m.key.content with
  | error rejection => simp [bind, Except.bind]
  | ok key =>
    cases decodeText isPrintable .invalidValue m.value.content with
    | error rejection => simp [bind, Except.bind]
    | ok value =>
      obtain ⟨⟨k, v, metadata⟩, size⟩ := e
      simp only [bind, Except.bind, pure, Except.pure, Except.ok.injEq, Entry.mk.injEq,
        Pair.mk.injEq, and_assoc]

theorem Member.metadata_sublist {m : Member} {e : Entry} (h : m.decode = .ok e) :
    e.metadata.text.toList.Sublist m.metadata.text := by
  rw [← (Member.decode_eq_ok_iff.mp h).2.2.1, Metadata.ofText, toList_trimmed, Piece.content,
    String.toList_ofList]
  exact trim_sublist

theorem exists_member_of_readSegment {text : List Char} {e : Entry}
    (h : readSegment text = .ok e) :
    ∃ m, Member.ofPiece (Piece.trim ⟨0, text⟩) = .ok m ∧ m.decode = .ok e := by
  unfold readSegment at h
  cases hm : Member.ofPiece (Piece.trim ⟨0, text⟩) with
  | error rejection =>
    rw [hm] at h
    cases h
  | ok m =>
    rw [hm] at h
    exact ⟨m, rfl, h⟩

/-- Metadata says nothing that is not in the segment. -/
theorem mem_of_mem_metadata {text : List Char} {e : Entry} (h : readSegment text = .ok e) {c : Char}
    (hc : c ∈ e.metadata.text.toList) : c ∈ text := by
  obtain ⟨m, hm, hdecode⟩ := exists_member_of_readSegment h
  have hmem := Member.mem_of_mem_metadata hm ((Member.metadata_sublist hdecode).mem hc)
  exact trim_sublist.mem hmem

/-- Whatever a segment without commas says, the entry it gives is sound: it takes up at least as
much room in the header as it would when written again. -/
theorem sound_of_readSegment {text : List Char} {e : Entry} (h : readSegment text = .ok e)
    (hcomma : ',' ∉ text) : e.Sound := by
  obtain ⟨m, _, hdecode⟩ := exists_member_of_readSegment h
  obtain ⟨⟨hkeyText, hkey⟩, ⟨hvalueText, hvalue⟩, _, hsize⟩ := Member.decode_eq_ok_iff.mp hdecode
  refine ⟨hkey, hvalue, fun hmem => hcomma (mem_of_mem_metadata h hmem), ?_⟩
  have hkeySize := Percent.encodedSize_le_of_decode hkeyText
  have hvalueSize := Percent.encodedSize_le_of_decode hvalueText
  have hmetadataSize := byteLength_le_of_sublist (Member.metadata_sublist hdecode)
  simp only [Piece.content, String.toList_ofList] at hkeySize hvalueSize
  rw [← hsize]
  unfold Pair.size Metadata.size Member.size Piece.size
  omega

theorem exists_segment_of_mem_tokenize {header : String} {token : Except Rejection Member}
    {e : Entry} (ht : token ∈ tokenize header) (h : token.bind Member.decode = .ok e) :
    ∃ segment ∈ header.toList.splitOn ',', readSegment segment = .ok e := by
  have hmem : .ok e ∈ (tokenize header).map (·.bind Member.decode) :=
    List.mem_map.mpr ⟨token, ht, h⟩
  rw [map_decode_tokenize] at hmem
  obtain ⟨segment, hsegment, hread⟩ := List.mem_map.mp hmem
  exact ⟨segment, (List.mem_filter.mp hsegment).1, hread⟩

theorem misfit?_eq_none_iff {taken : List Entry} {total : Nat} {e : Entry} :
    misfit? taken total e = none ↔ e.size < entrySizeBound ∧ total + e.size < totalSizeBound ∧
      ∀ t ∈ taken, t.key ≠ e.key := by
  unfold misfit?
  split
  · next h =>
    simp only [reduceCtorEq, false_iff, not_and]
    intro hsize
    omega
  next hsize =>
    split
    · next h =>
      simp only [reduceCtorEq, false_iff, not_and]
      intro _ htotal
      omega
    next htotal =>
      split
      · next h =>
        simp only [reduceCtorEq, false_iff, not_and]
        intro _ _ hnew
        obtain ⟨t, ht, hkey⟩ := List.any_eq_true.mp h
        exact hnew t ht (by simpa using hkey)
      · next h =>
        refine ⟨fun _ => ⟨by omega, by omega, ?_⟩, fun _ => rfl⟩
        intro t ht hkey
        exact h (List.any_eq_true.mpr ⟨t, ht, by simpa using hkey⟩)

theorem accept_eq_ok_iff {taken : List Entry} {total : Nat} {token : Except Rejection Member}
    {e : Entry} : accept taken total token = .ok e ↔
      token.bind Member.decode = .ok e ∧ misfit? taken total e = none := by
  cases token with
  | error rejection => simp [accept, bind, Except.bind]
  | ok m =>
    simp only [accept, bind, Except.bind]
    cases m.decode with
    | error rejection => simp
    | ok d =>
      simp only [Except.ok.injEq]
      cases hd : misfit? taken total d with
      | some rejection =>
        simp only [throw, throwThe, MonadExceptOf.throw, reduceCtorEq, false_iff, not_and]
        rintro rfl
        simp [hd]
      | none =>
        simp only [pure, Except.pure, Except.ok.injEq]
        constructor
        · rintro rfl
          exact ⟨rfl, hd⟩
        · exact And.left

end Header

theorem fits_append_singleton {es : List Entry} {e : Entry} : Fits (es ++ [e]) ↔
    Fits es ∧ es.length < maxEntries ∧ Header.misfit? es (Baggage.charge es) e = none := by
  rw [Header.misfit?_eq_none_iff]
  constructor
  · intro h
    have hcount := h.count
    have htotal := h.total
    have hkeys := h.keys
    simp only [List.length_append, List.length_singleton] at hcount
    simp only [Baggage.charge_append, Baggage.charge_cons, Baggage.charge_nil] at htotal
    simp only [List.map_append, List.map_cons, List.map_nil, List.nodup_append] at hkeys
    refine ⟨h.of_sublist (List.sublist_append_left es [e]), by omega, ?_, by omega, ?_⟩
    · exact h.sizes e (by simp)
    · intro t ht
      exact hkeys.2.2 t.key (List.mem_map_of_mem ht) e.key (by simp)
  · rintro ⟨h, hcount, hsize, htotal, hnew⟩
    refine ⟨?_, ?_, ?_, ?_⟩
    · simp only [List.length_append, List.length_singleton]
      omega
    · intro d hd
      rcases List.mem_append.mp hd with hd | hd
      · exact h.sizes d hd
      · obtain rfl := List.mem_singleton.mp hd
        exact hsize
    · simp only [Baggage.charge_append, Baggage.charge_cons, Baggage.charge_nil]
      omega
    · simp only [List.map_append, List.map_cons, List.map_nil, List.nodup_append]
      refine ⟨h.keys, by simp, ?_⟩
      intro key hkey _ hlast
      obtain ⟨t, ht, rfl⟩ := List.mem_map.mp hkey
      obtain rfl := List.mem_singleton.mp hlast
      exact hnew t ht

namespace Header
variable {σ : Type} (skip : σ → Rejection → σ)

/-- Reading takes an entry only if it fits behind those taken. -/
theorem fits_readFrom {taken : List Entry} (skips : σ) (tokens : List (Except Rejection Member))
    (htaken : Fits taken) :
    ∃ es, (readFrom skip taken (Baggage.charge taken) skips tokens).1 = .ofEntries es ∧
      Fits es ∧ ∀ e ∈ es, e ∈ taken ∨ ∃ token ∈ tokens, token.bind Member.decode = .ok e := by
  induction tokens generalizing taken skips with
  | nil => exact ⟨taken, rfl, htaken, fun e he => .inl he⟩
  | cons token rest ih =>
    unfold readFrom
    split
    · exact ⟨taken, rfl, htaken, fun e he => .inl he⟩
    next hroom =>
      split
      · next e haccept =>
        obtain ⟨hdecode, hfit⟩ := accept_eq_ok_iff.mp haccept
        have hnext := fits_append_singleton.mpr ⟨htaken, by omega, hfit⟩
        have hcharge : Baggage.charge (taken ++ [e]) = Baggage.charge taken + e.size := by simp
        rw [← hcharge]
        obtain ⟨es, hread, hes, horigin⟩ := ih skips hnext
        refine ⟨es, hread, hes, ?_⟩
        intro d hd
        rcases horigin d hd with hd | ⟨t, ht, hdecode'⟩
        · rcases List.mem_append.mp hd with hd | hd
          · exact .inl hd
          · obtain rfl := List.mem_singleton.mp hd
            exact .inr ⟨token, List.mem_cons_self, hdecode⟩
        · exact .inr ⟨t, List.mem_cons_of_mem _ ht, hdecode'⟩
      · next rejection haccept =>
        obtain ⟨es, hread, hes, horigin⟩ := ih (skip skips rejection) htaken
        refine ⟨es, hread, hes, ?_⟩
        intro d hd
        rcases horigin d hd with hd | ⟨t, ht, hdecode⟩
        · exact .inl hd
        · exact .inr ⟨t, List.mem_cons_of_mem _ ht, hdecode⟩

/-- Entries that fit together are all taken, whatever comes after them. -/
theorem readFrom_append_of_fits {taken es : List Entry} (skips : σ)
    {tokens : List (Except Rejection Member)} (rest : List (Except Rejection Member))
    (hfits : Fits (taken ++ es)) (htokens : tokens.map (·.bind Member.decode) = es.map .ok) :
    readFrom skip taken (Baggage.charge taken) skips (tokens ++ rest) =
      readFrom skip (taken ++ es) (Baggage.charge (taken ++ es)) skips rest := by
  induction es generalizing taken tokens with
  | nil =>
    obtain rfl := List.map_eq_nil_iff.mp htokens
    rw [List.append_nil, List.nil_append]
  | cons e es ih =>
    obtain ⟨token, others, rfl, htoken, hothers⟩ := List.map_eq_cons_iff.mp htokens
    have hsplit : taken ++ e :: es = taken ++ [e] ++ es := by simp
    rw [hsplit] at hfits ⊢
    have hprefix : Fits (taken ++ [e]) := hfits.of_sublist (List.sublist_append_left _ es)
    obtain ⟨_, hroom, hfit⟩ := fits_append_singleton.mp hprefix
    have haccept := accept_eq_ok_iff.mpr ⟨htoken, hfit⟩
    have hcharge : Baggage.charge (taken ++ [e]) = Baggage.charge taken + e.size := by simp
    rw [List.cons_append, readFrom, if_neg (by omega), haccept]
    simp only [← hcharge]
    exact ih hfits hothers

theorem readFrom_of_fits {taken es : List Entry} (skips : σ)
    {tokens : List (Except Rejection Member)} (hfits : Fits (taken ++ es))
    (htokens : tokens.map (·.bind Member.decode) = es.map .ok) :
    readFrom skip taken (Baggage.charge taken) skips tokens =
      (.ofEntries (taken ++ es), skips) := by
  have hread := readFrom_append_of_fits skip skips [] hfits htokens
  rwa [List.append_nil] at hread

end Header

end ContextBaggage
