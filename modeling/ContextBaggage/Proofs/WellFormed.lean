import ContextBaggage.Baggage.Update
import ContextBaggage.Proofs.Fitting

/-!
# Well-formed baggage

A history says how baggage came about: from nothing, from a header or from pairs, and by updates
after that. All baggage with a history is well-formed. The two ways in, reading and setting, charge
entries differently and keep the total differently, and both arrive at the same invariant.
-/

namespace ContextBaggage

open ContextBaggage.Text

structure Baggage.WellFormed (b : Baggage) : Prop where
  fits : Fits b.entries
  sound : ∀ e ∈ b.entries, e.Sound
  total : b.size = Baggage.charge b.entries

theorem Pair.fault?_eq_none_iff {p : Pair} : p.fault? = none ↔
    isKey p.key = true ∧ isPrintable p.value = true ∧ isMetadata p.metadata.text = true := by
  unfold fault?
  cases isKey p.key <;> cases isPrintable p.value <;> cases isMetadata p.metadata.text <;> simp

theorem Pair.sound_entry {p : Pair} (h : p.fault? = none) : p.entry.Sound := by
  obtain ⟨hkey, hvalue, hmetadata⟩ := fault?_eq_none_iff.mp h
  refine ⟨hkey, hvalue, ?_, Nat.le_refl _⟩
  intro hcomma
  simp only [isMetadata, Bool.and_eq_true, Bool.not_eq_true'] at hmetadata
  have hcontains : p.metadata.text.toList.contains ',' = true := List.contains_iff_mem.mpr hcomma
  rw [hmetadata.1] at hcontains
  cases hcontains

namespace Baggage
variable {b updated : Baggage} {p : Pair}

theorem trySet_eq_ok_iff : b.trySet p = .ok updated ↔
    p.fault? = none ∧ p.size < entrySizeBound ∧ (b.others p.key).length < maxEntries ∧
      charge (b.others p.key) + p.size < totalSizeBound ∧
        updated = ⟨p.entry :: b.others p.key, charge (b.others p.key) + p.size⟩ := by
  unfold trySet
  cases p.fault? with
  | some rejection => simp
  | none =>
    simp only [true_and]
    split
    · simp only [reduceCtorEq, false_iff, not_and]
      omega
    split
    · simp only [reduceCtorEq, false_iff, not_and]
      omega
    split
    · simp only [reduceCtorEq, false_iff, not_and]
      omega
    next hsize hroom htotal =>
      simp only [Except.ok.injEq, eq_comm (a := updated)]
      constructor
      · intro h
        exact ⟨by omega, by omega, by omega, h⟩
      · exact fun h => h.2.2.2

theorem others_sublist (b : Baggage) (key : String) : (b.others key).Sublist b.entries :=
  List.filter_sublist

theorem ne_of_mem_others {key : String} {e : Entry} (he : e ∈ b.others key) : e.key ≠ key := by
  simpa using (List.mem_filter.mp he).2

theorem wellFormed_ofEntries {es : List Entry} (hfits : Fits es) (hsound : ∀ e ∈ es, e.Sound) :
    (ofEntries es).WellFormed :=
  ⟨hfits, hsound, rfl⟩

theorem wellFormed_empty : empty.WellFormed :=
  wellFormed_ofEntries fits_nil fun _ h => absurd h List.not_mem_nil

theorem WellFormed.remove (hb : b.WellFormed) (key : String) : (b.remove key).WellFormed :=
  wellFormed_ofEntries (hb.fits.of_sublist (b.others_sublist key))
    fun e he => hb.sound e ((b.others_sublist key).mem he)

theorem WellFormed.trySet (hb : b.WellFormed) (h : b.trySet p = .ok updated) :
    updated.WellFormed := by
  obtain ⟨hfault, hsize, hroom, htotal, rfl⟩ := trySet_eq_ok_iff.mp h
  have hothers := hb.fits.of_sublist (b.others_sublist p.key)
  refine ⟨⟨?_, ?_, ?_, ?_⟩, ?_, ?_⟩
  · simp only [List.length_cons]
    omega
  · intro e he
    rcases List.mem_cons.mp he with rfl | he
    · exact hsize
    · exact hothers.sizes e he
  · have hentry : p.entry.size = p.size := rfl
    simp only [charge_cons, hentry]
    omega
  · rw [List.map_cons, List.nodup_cons]
    refine ⟨?_, hothers.keys⟩
    intro hmem
    obtain ⟨e, he, hkey⟩ := List.mem_map.mp hmem
    exact ne_of_mem_others he hkey
  · intro e he
    rcases List.mem_cons.mp he with rfl | he
    · exact Pair.sound_entry hfault
    · exact hb.sound e ((b.others_sublist p.key).mem he)
  · exact Nat.add_comm _ _

theorem mem_of_mem_afterRejection {rejection : Rejection} {e : Entry}
    (he : e ∈ (b.afterRejection rejection).entries) : e ∈ b.entries := by
  cases rejection
  case invalidKey => exact absurd he List.not_mem_nil
  case invalidValue => exact absurd he List.not_mem_nil
  all_goals exact he

section Kept
-- a property of empty baggage that no update takes away
variable {P : Baggage → Prop} (hempty : P empty)
  (htrySet : ∀ {b p updated}, P b → b.trySet p = .ok updated → P updated)
include htrySet

theorem setOrKeep_of (hb : P b) (p : Pair) : P (b.setOrKeep p) := by
  unfold setOrKeep
  split
  · next h => exact htrySet hb h
  · exact hb

include hempty

theorem set_of (hb : P b) (p : Pair) : P (b.set p).value := by
  unfold set
  split
  · next h => exact htrySet hb h
  · next rejection h =>
    cases rejection
    case invalidKey => exact hempty
    case invalidValue => exact hempty
    all_goals exact hb

theorem ofPairs_of (ps : List Pair) : P (ofPairs ps) := by
  have hfold : ∀ {b}, P b → P (ps.foldl setOrKeep b) := by
    induction ps with
    | nil => exact fun hb => hb
    | cons p ps ih => exact fun hb => ih (setOrKeep_of htrySet hb p)
  exact hfold hempty

end Kept

theorem wellFormed_ofPairs (ps : List Pair) : (ofPairs ps).WellFormed :=
  ofPairs_of wellFormed_empty WellFormed.trySet ps

/-- The entries read from a header fit together, and each one is said by a segment of its own. -/
theorem exists_readHeader {σ : Type} (skip : σ → Rejection → σ) (skips : σ) (header : String) :
    ∃ es, (Header.readHeader skip skips header).1 = ofEntries es ∧ Fits es ∧
      ∀ e ∈ es, ∃ segment ∈ header.toList.splitOn ',', Header.readSegment segment = .ok e := by
  obtain ⟨es, hread, hfits, horigin⟩ :=
    Header.fits_readFrom skip skips (Header.tokenize header) fits_nil
  refine ⟨es, hread, hfits, ?_⟩
  intro e he
  rcases horigin e he with he | ⟨token, ht, hdecode⟩
  · exact absurd he List.not_mem_nil
  · exact Header.exists_segment_of_mem_tokenize ht hdecode

theorem wellFormed_readHeader {σ : Type} (skip : σ → Rejection → σ) (skips : σ) (header : String) :
    (Header.readHeader skip skips header).1.WellFormed := by
  obtain ⟨es, hread, hfits, horigin⟩ := exists_readHeader skip skips header
  rw [hread]
  apply wellFormed_ofEntries hfits
  intro e he
  obtain ⟨segment, hsegment, hsegmentRead⟩ := horigin e he
  exact Header.sound_of_readSegment hsegmentRead (Header.not_mem_of_mem_splitOn hsegment)

theorem wellFormed_parse (header : String) : (Header.parse header).WellFormed :=
  wellFormed_readHeader _ _ header

end Baggage

/-- How baggage came about. Setting with `trySet` gives new baggage only when it succeeds. -/
inductive History
  | new
  | parse (header : String)
  | ofPairs (ps : List Pair)
  | set (past : History) (p : Pair)
  | trySet (past : History) (p : Pair)
  | remove (past : History) (key : String)
  | rebuild (past : History)

namespace History

def baggage : History → Baggage
  | new => .empty
  | parse header => Header.parse header
  | ofPairs ps => .ofPairs ps
  | set past p => (past.baggage.set p).value
  | trySet past p => past.baggage.setOrKeep p
  | remove past key => past.baggage.remove key
  | rebuild past => past.baggage.rebuild

theorem wellFormed (past : History) : past.baggage.WellFormed := by
  induction past with
  | new => exact Baggage.wellFormed_empty
  | parse header => exact Baggage.wellFormed_parse header
  | ofPairs ps => exact Baggage.wellFormed_ofPairs ps
  | set past p ih =>
    exact Baggage.set_of Baggage.wellFormed_empty Baggage.WellFormed.trySet ih p
  | trySet past p ih => exact Baggage.setOrKeep_of Baggage.WellFormed.trySet ih p
  | remove past key ih => exact ih.remove key
  | rebuild past _ => exact Baggage.wellFormed_ofPairs past.baggage.pairs

/-- What holds of all baggage that can come about, whichever way its entries came in. -/
theorem baggage_invariant (past : History) :
    past.baggage.length ≤ 180 ∧
    past.baggage.size = Baggage.charge past.baggage.entries ∧ past.baggage.size < 8192 ∧
    (past.baggage.entries.map fun e => e.key).Nodup ∧
    ∀ e ∈ past.baggage.entries,
      e.size < 4096 ∧
      (Percent.encode e.key).utf8ByteSize + (Percent.encode e.value).utf8ByteSize +
        e.metadata.text.utf8ByteSize ≤ e.size ∧
      e.key ≠ "" ∧ (∀ c ∈ e.key.toList, 0x20 ≤ c.toNat ∧ c.toNat ≤ 0x7E) ∧
      (∀ c ∈ e.value.toList, 0x20 ≤ c.toNat ∧ c.toNat ≤ 0x7E) ∧
      ',' ∉ e.metadata.text.toList ∧
      (∀ c, e.metadata.text.toList.head? = some c → isWhiteSpace c = false) ∧
      (∀ c, e.metadata.text.toList.getLast? = some c → isWhiteSpace c = false) := by
  have hb := past.wellFormed
  refine ⟨hb.fits.count, hb.total, ?_, hb.fits.keys, ?_⟩
  · rw [hb.total]
    exact hb.fits.total
  intro e he
  have hsound := hb.sound e he
  obtain ⟨hnonempty, hprintable⟩ := isKey_iff.mp hsound.key
  refine ⟨hb.fits.sizes e he, ?_, hnonempty, hprintable, isPrintable_iff.mp hsound.value,
    hsound.metadata, e.metadata.not_isWhiteSpace_head, e.metadata.not_isWhiteSpace_getLast⟩
  rw [← byteLength_toList, ← byteLength_toList, ← byteLength_toList, Percent.byteLength_encode,
    Percent.byteLength_encode]
  exact hsound.charged

end History

end ContextBaggage
