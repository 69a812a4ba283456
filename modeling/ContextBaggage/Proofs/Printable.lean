import ContextBaggage.Proofs.Hops

/-!
# Bytes that are not printable

Keys, values and the separators are always written in printable ASCII, and metadata that is set has
to be printable. Metadata that is read is taken as it is. So the bytes of a header that are not
printable are those of the metadata, and an entry with such metadata was read from a header and has
been left alone since.
-/

namespace ContextBaggage

open ContextBaggage.Text

section Bytes
variable {cs ds : List Char}

def isPrintableByte (b : UInt8) : Bool := 0x20 ≤ b && b ≤ 0x7E

/-- The bytes of a text that are not printable ASCII, in their order. -/
def unprintable (cs : List Char) : List UInt8 := (utf8 cs).filter fun b => !isPrintableByte b

@[simp] theorem unprintable_nil : unprintable [] = [] := rfl

@[simp] theorem unprintable_append : unprintable (cs ++ ds) = unprintable cs ++ unprintable ds := by
  rw [unprintable, utf8_append, List.filter_append]
  rfl

theorem unprintable_cons (c : Char) :
    unprintable (c :: cs) = unprintable [c] ++ unprintable cs := by
  rw [← unprintable_append, List.singleton_append]

theorem unprintable_eq_nil_of_subset (h : ∀ c ∈ cs, c ∈ ds) (hds : unprintable ds = []) :
    unprintable cs = [] := by
  simp only [unprintable, List.filter_eq_nil_iff] at hds ⊢
  intro b hb
  obtain ⟨c, hc, hbyte⟩ := List.mem_flatMap.mp hb
  exact hds b (List.mem_flatMap.mpr ⟨c, h c hc, hbyte⟩)

theorem unprintable_of_isPrintable {s : String} (h : isPrintable s = true) :
    unprintable s.toList = [] := by
  rw [unprintable, List.filter_eq_nil_iff]
  intro b hb
  obtain ⟨c, hc, hbyte⟩ := List.mem_flatMap.mp hb
  have hrange := isPrintable_iff.mp h c hc
  rw [utf8EncodeChar_of_lt (by omega), List.mem_singleton] at hbyte
  subst hbyte
  simp only [isPrintableByte, Bool.not_eq_true', Bool.not_eq_false, Bool.and_eq_true,
    decide_eq_true_eq, UInt8.le_iff_toNat_le, UInt8.toNat_ofNat', UInt8.reduceToNat]
  omega

theorem unprintable_intercalate (texts : List (List Char)) :
    unprintable ([','].intercalate texts) = texts.flatMap unprintable := by
  induction texts with
  | nil => rfl
  | cons first rest ih =>
    cases rest with
    | nil => simp
    | cons second others =>
      have hcomma : unprintable [','] = [] := by decide
      rw [List.intercalate_cons_cons, unprintable_append, unprintable_append, hcomma, ih]
      simp

end Bytes

section Writing

theorem isPrintableByte_of_isTokenByte {b : UInt8} (h : Percent.isTokenByte b = true) :
    isPrintableByte b = true := by
  simp only [Percent.isTokenByte, Percent.isUnreserved, Percent.isAlphanumeric, Percent.plusSign,
    Percent.percentSign, isPrintableByte, Bool.or_eq_true, Bool.and_eq_true, decide_eq_true_eq,
    beq_iff_eq, UInt8.le_iff_toNat_le, ← UInt8.toNat_inj, UInt8.reduceToNat] at h ⊢
  omega

theorem unprintable_encode (s : String) : unprintable (Percent.encode s).toList = [] := by
  rw [unprintable, List.filter_eq_nil_iff]
  intro b hb
  simp [isPrintableByte_of_isTokenByte ((Percent.spells_encode s).isTokenByte b hb)]

theorem unprintable_member (p : Pair) :
    unprintable p.member.toList = unprintable p.metadata.text.toList := by
  have hequals : unprintable ['='] = [] := by decide
  have hsemicolon : unprintable [';'] = [] := by decide
  by_cases hempty : p.metadata.isEmpty = true
  · have hmetadata : p.metadata.text.toList = [] := by simpa [Metadata.isEmpty] using hempty
    rw [Header.toList_member_bare hempty, unprintable_append, unprintable_cons, hmetadata]
    simp [unprintable_encode, hequals]
  · rw [Header.toList_member_full hempty, unprintable_append, unprintable_cons, unprintable_append,
      unprintable_cons ';']
    simp [unprintable_encode, hequals, hsemicolon]

theorem Baggage.unprintable_header (b : Baggage) : unprintable b.header.toList =
    b.pairs.flatMap fun p => unprintable p.metadata.text.toList := by
  rw [Header.toList_header, unprintable_intercalate, List.flatMap_map, Baggage.pairs,
    List.flatMap_map]
  simp only [unprintable_member]

end Writing

section Travelling
variable {b : Baggage} {p : Pair}

theorem isPrintable_of_fault? (h : p.fault? = none) : isPrintable p.metadata.text = true := by
  have hmetadata := (Pair.fault?_eq_none_iff.mp h).2.2
  rw [isMetadata, Bool.and_eq_true] at hmetadata
  exact hmetadata.2

/-- A leg brings in printable metadata only. -/
theorem Leg.pair_go (hb : b.WellFormed) (leg : Leg) (hp : p ∈ (leg.go b).value.pairs) :
    isPrintable p.metadata.text = true ∨ p ∈ b.pairs := by
  cases leg with
  | set q =>
    obtain ⟨e, he, rfl⟩ := List.mem_map.mp hp
    simp only [go, Baggage.set] at he
    cases h : b.trySet q with
    | ok updated =>
      rw [h] at he
      rcases Baggage.eq_entry_or_mem_of_trySet h he with rfl | ⟨he, _⟩
      · exact .inl (isPrintable_of_fault? (Baggage.trySet_eq_ok_iff.mp h).1)
      · exact .inr (List.mem_map_of_mem he)
    | error rejection =>
      rw [h] at he
      exact .inr (List.mem_map_of_mem (Baggage.mem_of_mem_afterRejection he))
  | remove key =>
    obtain ⟨e, he, rfl⟩ := List.mem_map.mp hp
    exact .inr (List.mem_map_of_mem ((b.others_sublist key).mem he))
  | hop =>
    rw [go, Logged.value_pure, Header.parse_header hb, Baggage.pairs_recharge] at hp
    exact .inr hp

theorem pair_travel (hb : b.WellFormed) (legs : List Leg) (hp : p ∈ (travel b legs).value.pairs) :
    isPrintable p.metadata.text = true ∨ p ∈ b.pairs := by
  induction legs generalizing b with
  | nil => exact .inr hp
  | cons leg legs ih =>
    rw [travel_cons, Logged.value_bind] at hp
    rcases ih (leg.wellFormed_go hb) hp with h | hnext
    · exact .inl h
    · exact leg.pair_go hb hnext

theorem mem_header_of_mem_metadata {header : String} (hp : p ∈ (Header.parse header).pairs)
    {c : Char} (hc : c ∈ p.metadata.text.toList) : c ∈ header.toList := by
  obtain ⟨es, hread, _, horigin⟩ :=
    Baggage.exists_readHeader (fun skips _ => skips) () header
  rw [Header.parse, hread] at hp
  obtain ⟨e, he, rfl⟩ := List.mem_map.mp hp
  obtain ⟨segment, hsegment, hsegmentRead⟩ := horigin e he
  exact Header.mem_of_mem_splitOn hsegment (Header.mem_of_mem_metadata hsegmentRead hc)

/-- Whatever is set and removed after a header was read, and wherever the baggage hops, the bytes
of its header that are not printable are those of its metadata. They stand in pairs that the first
header had, and there are none if that header had none. -/
theorem unprintable_travel (header : String) (legs : List Leg) :
    unprintable (travel (Header.parse header) legs).value.header.toList =
      ((travel (Header.parse header) legs).value.pairs.flatMap fun p =>
        unprintable p.metadata.text.toList) ∧
    (∀ p ∈ (travel (Header.parse header) legs).value.pairs,
      unprintable p.metadata.text.toList ≠ [] → p ∈ (Header.parse header).pairs) ∧
    (unprintable header.toList = [] →
      unprintable (travel (Header.parse header) legs).value.header.toList = []) := by
  have horigin : ∀ p ∈ (travel (Header.parse header) legs).value.pairs,
      unprintable p.metadata.text.toList ≠ [] → p ∈ (Header.parse header).pairs := by
    intro p hp hne
    rcases pair_travel (Baggage.wellFormed_parse header) legs hp with h | h
    · exact absurd (unprintable_of_isPrintable h) hne
    · exact h
  refine ⟨Baggage.unprintable_header _, horigin, ?_⟩
  intro hheader
  rw [Baggage.unprintable_header, List.flatMap_eq_nil_iff]
  intro p hp
  by_contra hne
  exact hne (unprintable_eq_nil_of_subset
    (fun _ hc => mem_header_of_mem_metadata (horigin p hp hne) hc) hheader)

theorem unprintable_travel_of_control_byte :
    (⟨"k", "v", .ofText "a\x01b"⟩ ∈
        (travel (Header.parse "k=v;a\x01b") [.set ⟨"n", "1", .empty⟩, .hop]).value.pairs ∧
      unprintable (Metadata.ofText "a\x01b").text.toList ≠ [] ∧
      ⟨"k", "v", .ofText "a\x01b"⟩ ∈ (Header.parse "k=v;a\x01b").pairs) ∧
    (unprintable "k=v;ttl=30".toList = [] ∧
      unprintable (travel (Header.parse "k=v;ttl=30") [.remove "n"]).value.header.toList = []) := by
  have hmem : ⟨"k", "v", .ofText "a\x01b"⟩ ∈
      (travel (Header.parse "k=v;a\x01b") [.set ⟨"n", "1", .empty⟩, .hop]).value.pairs := by
    decide +kernel
  have hne : unprintable (Metadata.ofText "a\x01b").text.toList ≠ [] := by decide +kernel
  have hplain : unprintable "k=v;ttl=30".toList = [] := by decide +kernel
  exact ⟨⟨hmem, hne, (unprintable_travel "k=v;a\x01b" _).2.1 _ hmem hne⟩, hplain,
    (unprintable_travel "k=v;ttl=30" _).2.2 hplain⟩

/-- A line break that is received in metadata is sent on as it came. -/
theorem line_break_sent_on : ¬ ∀ (header : String) (legs : List Leg),
    ∀ byte ∈ utf8 (stay (Header.parse header) legs).value.header.toList,
      0x20 ≤ byte ∧ byte ≤ 0x7E := by
  intro h
  have hmem : 0x0D ∈ utf8 (stay (Header.parse "k=v;a\r\nb") []).value.header.toList := by
    decide +kernel
  exact absurd (h "k=v;a\r\nb" [] 0x0D hmem) (by decide)

end Travelling

end ContextBaggage
