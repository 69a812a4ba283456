import ContextBaggage.Header.Format
import ContextBaggage.Proofs.Lighter

/-!
# Reading back what was written

The header of well-formed baggage is read without a skip, and gives the same contents. Only the
charges may change: an entry that was read from a longer spelling is charged less the next time.
`Baggage.recharge` is the baggage that comes back.
-/

namespace ContextBaggage

open ContextBaggage.Text

namespace Header

theorem isWhiteSpace_of_isBlank {c : Char} (h : isBlank c = true) : isWhiteSpace c = true := by
  obtain rfl := isBlank_iff.mp h
  decide

theorem isBlank_eq_false_of_mem {text : List Char} (h : ' ' ∉ text) {c : Char} (hc : c ∈ text) :
    isBlank c = false := by
  apply isBlank_eq_false_iff.mpr
  rintro rfl
  exact h hc

theorem isBlank_eq_false_of_isWhiteSpace {c : Char} (h : isWhiteSpace c = false) :
    isBlank c = false := by
  cases hc : isBlank c with
  | false => rfl
  | true =>
    rw [isWhiteSpace_of_isBlank hc] at h
    cases h

theorem trim_of_not_mem {text : List Char} (h : ' ' ∉ text) : Text.trim isBlank text = text :=
  trim_of_ends (fun _ hc => isBlank_eq_false_of_mem h (List.mem_of_head? hc))
    fun _ hc => isBlank_eq_false_of_mem h (List.mem_of_getLast? hc)

theorem trim_metadata (m : Metadata) : Text.trim isBlank m.text.toList = m.text.toList :=
  trim_of_ends (fun c hc => isBlank_eq_false_of_isWhiteSpace (m.not_isWhiteSpace_head c hc))
    fun c hc => isBlank_eq_false_of_isWhiteSpace (m.not_isWhiteSpace_getLast c hc)

theorem readParts_encode {e : Entry} (he : e.Sound) :
    readParts (Percent.encode e.key).toList (Percent.encode e.value).toList
      e.metadata.text.toList = .ok e.toPair.entry := by
  apply Member.decode_eq_ok_iff.mpr
  simp only [Piece.content, String.ofList_toList]
  refine ⟨⟨Percent.decode_encode e.key, he.key⟩, ⟨Percent.decode_encode e.value, he.value⟩,
    Metadata.ofText_text e.metadata, ?_⟩
  simp only [Member.size, Piece.size, Percent.byteLength_encode]
  rfl

theorem toList_member_bare {p : Pair} (h : p.metadata.isEmpty = true) : p.member.toList =
    (Percent.encode p.key).toList ++ '=' :: (Percent.encode p.value).toList := by
  simp [Pair.member, h]

theorem toList_member_full {p : Pair} (h : ¬p.metadata.isEmpty = true) : p.member.toList =
    (Percent.encode p.key).toList ++
      '=' :: ((Percent.encode p.value).toList ++ ';' :: p.metadata.text.toList) := by
  simp [Pair.member, h]

theorem space_not_mem_encode (s : String) : ' ' ∉ (Percent.encode s).toList :=
  Percent.not_mem_encode s (by decide) (by decide)

/-- No separator is in an encoded text, and the metadata is all that is left for a separator to
stand in. There it comes too late. -/
theorem readSegment_member {e : Entry} (he : e.Sound) :
    readSegment e.toPair.member.toList = .ok e.toPair.entry := by
  have hkeyEquals : '=' ∉ (Percent.encode e.key).toList :=
    Percent.not_mem_encode _ (by decide) (by decide)
  have hvalueSemicolon : ';' ∉ (Percent.encode e.value).toList :=
    Percent.not_mem_encode _ (by decide) (by decide)
  have hkeyTrim := trim_of_not_mem (space_not_mem_encode e.key)
  have hvalueTrim := trim_of_not_mem (space_not_mem_encode e.value)
  by_cases hempty : e.metadata.isEmpty = true
  · have hmetadata : e.metadata.text.toList = [] := by simpa [Metadata.isEmpty] using hempty
    rw [toList_member_bare hempty, readSegment_of_bare hkeyEquals hvalueSemicolon, hkeyTrim,
      hvalueTrim, ← hmetadata]
    exact readParts_encode he
  · rw [toList_member_full hempty, readSegment_of_full hkeyEquals hvalueSemicolon, hkeyTrim,
      hvalueTrim, trim_metadata]
    exact readParts_encode he

theorem comma_not_mem_member {e : Entry} (he : e.Sound) : ',' ∉ e.toPair.member.toList := by
  have hkey : ',' ∉ (Percent.encode e.key).toList :=
    Percent.not_mem_encode _ (by decide) (by decide)
  have hvalue : ',' ∉ (Percent.encode e.value).toList :=
    Percent.not_mem_encode _ (by decide) (by decide)
  unfold Pair.member
  split
  · simp [hkey, hvalue]
  · simp [hkey, hvalue, he.metadata]

theorem notBlank_member (p : Pair) : notBlank p.member.toList = true := by
  apply notBlank_of_equals
  by_cases hempty : p.metadata.isEmpty = true
  · rw [toList_member_bare hempty]
    simp
  · rw [toList_member_full hempty]
    simp

theorem toList_header (b : Baggage) :
    b.header.toList = [','].intercalate (b.entries.map fun e => e.toPair.member.toList) := by
  simp only [Baggage.header, Baggage.pairs, String.toList_intercalate, List.map_map]
  rfl

theorem segments_header {b : Baggage} (hb : ∀ e ∈ b.entries, e.Sound) :
    (b.header.toList.splitOn ',').filter notBlank =
      b.entries.map fun e => e.toPair.member.toList := by
  rw [toList_header]
  cases hentries : b.entries with
  | nil => rfl
  | cons e es =>
    rw [← hentries, List.splitOn_intercalate]
    · apply List.filter_eq_self.mpr
      intro segment hsegment
      obtain ⟨d, hd, rfl⟩ := List.mem_map.mp hsegment
      exact notBlank_member d.toPair
    · intro segment hsegment
      obtain ⟨d, hd, rfl⟩ := List.mem_map.mp hsegment
      exact comma_not_mem_member (hb d hd)
    · simp [hentries]

theorem map_decode_tokenize_header {b : Baggage} (hb : ∀ e ∈ b.entries, e.Sound) :
    (tokenize b.header).map (·.bind Member.decode) =
      (b.entries.map fun e => e.toPair.entry).map .ok := by
  rw [map_decode_tokenize, segments_header hb, List.map_map, List.map_map]
  apply List.map_congr_left
  intro e he
  exact readSegment_member (hb e he)

/-- Whatever is to be remembered of skips, there is none. -/
theorem readHeader_header {σ : Type} (skip : σ → Rejection → σ) (skips : σ) {b : Baggage}
    (hb : b.WellFormed) : readHeader skip skips b.header = (b.recharge, skips) := by
  have htokens := map_decode_tokenize_header hb.sound
  rw [← Baggage.entries_recharge] at htokens
  have hfits : Fits ([] ++ b.recharge.entries) := (Baggage.lighter_recharge hb.sound).fits hb.fits
  exact readFrom_of_fits skip skips hfits htokens

theorem parse_header {b : Baggage} (hb : b.WellFormed) : parse b.header = b.recharge := by
  rw [parse, readHeader_header _ _ hb]

example : (parse "%61=1").size = 4 ∧ (parse (parse "%61=1").header).size = 2 := by decide +kernel

end Header

namespace History

/-- Whether the last write to a key was a set. Nothing is read from a header after the start, so a
key stays one that was set. -/
def isSet : History → String → Bool
  | new, _ => false
  | parse _, _ => false
  | ofPairs _, _ => true
  | set past p, key => (past.baggage.trySet p).isOk && key == p.key || past.isSet key
  | trySet past p, key => (past.baggage.trySet p).isOk && key == p.key || past.isSet key
  | remove past _, key => past.isSet key
  | rebuild _, _ => true

theorem size_eq_of_trySet {b updated : Baggage} {p : Pair} {isSet : String → Bool}
    (hb : ∀ e ∈ b.entries, isSet e.key = true → e.size = e.toPair.size)
    (h : b.trySet p = .ok updated) : ∀ e ∈ updated.entries,
      (e.key == p.key || isSet e.key) = true → e.size = e.toPair.size := by
  intro e he hset
  rcases Baggage.eq_entry_or_mem_of_trySet h he with rfl | ⟨he, hkey⟩
  · rfl
  · have hother : (e.key == p.key) = false := by rwa [beq_eq_false_iff_ne]
    rw [hother, Bool.false_or] at hset
    exact hb e he hset

theorem size_eq_of_isSet (past : History) :
    ∀ e ∈ past.baggage.entries, past.isSet e.key = true → e.size = e.toPair.size := by
  induction past with
  | new => exact fun e he => absurd he List.not_mem_nil
  | parse header => exact fun e _ hset => absurd hset Bool.false_ne_true
  | ofPairs ps => exact fun e he _ => Baggage.isLight_ofPairs ps e he
  | set past p ih =>
    unfold baggage isSet Baggage.set
    cases h : past.baggage.trySet p with
    | ok updated => exact size_eq_of_trySet ih h
    | error rejection =>
      intro e he
      exact ih e (Baggage.mem_of_mem_afterRejection he)
  | trySet past p ih =>
    unfold baggage isSet Baggage.setOrKeep
    cases h : past.baggage.trySet p with
    | ok updated => exact size_eq_of_trySet ih h
    | error rejection => exact ih
  | remove past key ih =>
    exact fun e he => ih e ((past.baggage.others_sublist key).mem he)
  | rebuild past _ => exact fun e he _ => Baggage.isLight_ofPairs past.baggage.pairs e he

/-- What is written is read back as it was, and charged no more than it was. -/
theorem report_header (past : History) :
    (Header.report past.baggage.header).skipped = [] ∧
    (Header.report past.baggage.header).skippedCount = 0 ∧
    List.Forall₂
      (fun again e => again.toPair = e.toPair ∧ again.size ≤ e.size ∧
        (past.isSet e.key = true → again.size = e.size))
      (Header.report past.baggage.header).baggage.entries past.baggage.entries := by
  have hb := past.wellFormed
  have hreport : Header.report past.baggage.header = ⟨past.baggage.recharge, [], 0⟩ := by
    rw [Header.report, Header.readHeader_header _ _ hb]
  rw [hreport, Baggage.entries_recharge, List.forall₂_map_left_iff, List.forall₂_same]
  refine ⟨rfl, rfl, ?_⟩
  intro e he
  refine ⟨rfl, (hb.sound e he).charged, ?_⟩
  intro hset
  exact (past.size_eq_of_isSet e he hset).symm

end History

end ContextBaggage
