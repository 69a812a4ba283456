import ContextBaggage.Proofs.Outcome
import ContextBaggage.Proofs.RoundTrip

/-!
# What pairs take up together

The limits on baggage count keys, values and metadata, and count for an entry that was read what it
took up in the header it was read from. `Pair.writtenAll` is what the pairs take up when they are
written, which is never more. The signs between the parts of a header are counted by no limit. They
are few enough for a bound on the header of any baggage whatsoever.
-/

namespace ContextBaggage

open ContextBaggage.Text

namespace Pair

/-- The bytes that some pairs take up together, separators not counted. -/
def writtenAll (ps : List Pair) : Nat := ps.foldr (fun p n => p.written + n) 0

@[simp] theorem writtenAll_nil : writtenAll [] = 0 := rfl

@[simp] theorem writtenAll_cons (p : Pair) (ps : List Pair) :
    writtenAll (p :: ps) = p.written + writtenAll ps := rfl

theorem charge_map_entry (ps : List Pair) : Baggage.charge (ps.map entry) = writtenAll ps := by
  induction ps with
  | nil => rfl
  | cons p ps ih =>
    rw [List.map_cons, Baggage.charge_cons, ih, writtenAll_cons, written_eq_size]
    rfl

theorem writtenAll_le_of_sublist {ps qs : List Pair} (h : ps.Sublist qs) :
    writtenAll ps ≤ writtenAll qs := by
  have hle := Baggage.charge_le_of_sublist (h.map entry)
  rwa [charge_map_entry, charge_map_entry] at hle

theorem writtenAll_append (ps qs : List Pair) :
    writtenAll (ps ++ qs) = writtenAll ps + writtenAll qs := by
  rw [← charge_map_entry, List.map_append, Baggage.charge_append, charge_map_entry,
    charge_map_entry]

theorem writtenAll_reverse (ps : List Pair) : writtenAll ps.reverse = writtenAll ps := by
  induction ps with
  | nil => rfl
  | cons p ps ih =>
    rw [List.reverse_cons, writtenAll_append, ih, writtenAll_cons, writtenAll_cons, writtenAll_nil]
    omega

theorem member_eq (p : Pair) : p.member = Percent.encode p.key ++ "=" ++ Percent.encode p.value ++
    if p.metadata.text = "" then "" else ";" ++ p.metadata.text := by
  rw [member, Metadata.isEmpty]
  by_cases htext : p.metadata.text = ""
  · rw [if_pos (String.isEmpty_iff.mpr htext), if_pos htext, String.append_empty]
  · rw [if_neg (mt String.isEmpty_iff.mp htext), if_neg htext, String.append_assoc]

theorem byteLength_member (p : Pair) : byteLength p.member.toList =
    p.written + 1 + if p.metadata.text ≠ "" then 1 else 0 := by
  have hequals : '='.utf8Size = 1 := rfl
  have hsemicolon : ';'.utf8Size = 1 := rfl
  rw [written_eq_size, size, Metadata.size, ← Percent.byteLength_encode,
    ← Percent.byteLength_encode]
  by_cases hempty : p.metadata.isEmpty = true
  · have htext : p.metadata.text = "" := String.isEmpty_iff.mp hempty
    rw [Header.toList_member_bare hempty, byteLength_append, byteLength_cons, htext]
    simp
    omega
  · have htext : p.metadata.text ≠ "" := fun h => hempty (String.isEmpty_iff.mpr h)
    rw [Header.toList_member_full hempty, byteLength_append, byteLength_cons, byteLength_append,
      byteLength_cons, if_pos htext]
    omega

/-- There is an equals sign in every member, a comma between any two, and a semicolon in those with
metadata. -/
theorem byteLength_members (p : Pair) (ps : List Pair) :
    byteLength ([','].intercalate ((p :: ps).map fun q => q.member.toList)) =
      writtenAll (p :: ps) + (ps.length + 1) + ps.length +
        (p :: ps).countP fun q => q.metadata.text ≠ "" := by
  have hcomma : byteLength [','] = 1 := rfl
  induction ps generalizing p with
  | nil =>
    rw [List.map_cons, List.map_nil, List.intercalate_singleton, byteLength_member,
      List.countP_cons, List.countP_nil]
    simp
  | cons q ps ih =>
    -- the member in front brings its own signs and the comma behind it
    have hrest := ih q
    rw [List.map_cons] at hrest
    rw [List.map_cons, List.map_cons, List.intercalate_cons_cons, byteLength_append,
      byteLength_append, hcomma, hrest, byteLength_member, List.countP_cons (a := p)]
    simp only [writtenAll_cons, List.length_cons, decide_eq_true_eq]
    omega

end Pair

namespace Baggage
variable {b : Baggage}

theorem writtenAll_pairs_le (hb : ∀ e ∈ b.entries, e.Sound) :
    Pair.writtenAll b.pairs ≤ charge b.entries := by
  have hle := (lighter_recharge hb).charge_le
  rwa [recharge, ofEntries, Pair.charge_map_entry] at hle

theorem length_pairs (b : Baggage) : b.pairs.length = b.length := List.length_map Entry.toPair

theorem header_of_length_eq_zero (h : b.length = 0) : b.header = "" := by
  have hpairs : b.pairs = [] := List.eq_nil_of_length_eq_zero (b.length_pairs.trans h)
  rw [header, hpairs]
  rfl

theorem byteLength_header (h : b.length ≠ 0) : byteLength b.header.toList =
    Pair.writtenAll b.pairs + b.length + (b.length - 1) +
      b.pairs.countP fun p => p.metadata.text ≠ "" := by
  have hmembers : b.header.toList =
      [','].intercalate (b.pairs.map fun p => p.member.toList) := by
    rw [Header.toList_header, pairs, List.map_map]
    rfl
  rw [← length_pairs] at h ⊢
  obtain ⟨p, ps, hpairs⟩ := List.exists_cons_of_length_pos (Nat.pos_of_ne_zero h)
  rw [hmembers, hpairs, Pair.byteLength_members, List.length_cons, Nat.add_sub_cancel]

end Baggage

section Charging

/-- What is counted for a text without encoding it is the size of the encoded text. So a pair that
is set is charged for its key and its value just what they take up in the header. -/
theorem Baggage.charged_as_written :
    (∀ s : String, Percent.encodedSize s = (Percent.encode s).utf8ByteSize) ∧
    ∀ (b updated : Baggage) (p : Pair), b.trySet p = .ok updated →
      ∃ e others, updated.entries = e :: others ∧ e.toPair = p ∧
        e.size = (Percent.encode p.key).utf8ByteSize + (Percent.encode p.value).utf8ByteSize +
          p.metadata.text.utf8ByteSize ∧
        updated.header = ",".intercalate (p.member :: others.map fun other => other.member) ∧
        p.member = Percent.encode p.key ++ "=" ++ Percent.encode p.value ++
          if p.metadata.text = "" then "" else ";" ++ p.metadata.text := by
  constructor
  · intro s
    rw [← byteLength_toList, Percent.byteLength_encode]
  · intro b updated p h
    obtain ⟨_, _, _, _, rfl⟩ := Baggage.trySet_eq_ok_iff.mp h
    refine ⟨p.entry, b.others p.key, rfl, rfl, p.written_eq_size.symm, ?_, p.member_eq⟩
    rw [Baggage.header, Baggage.pairs, List.map_cons, List.map_cons, List.map_map]
    rfl

theorem Baggage.charged_as_written_with_signs :
    (Header.parse "a=1").trySet ⟨"user id", "x=1", .ofText "m"⟩ =
      .ok ⟨[⟨⟨"user id", "x=1", .ofText "m"⟩, 13⟩, ⟨⟨"a", "1", .empty⟩, 2⟩], 15⟩ ∧
    13 = "user+id".utf8ByteSize + "x%3D1".utf8ByteSize + "m".utf8ByteSize ∧
    (⟨"user id", "x=1", .ofText "m"⟩ : Pair).member = "user+id" ++ "=" ++ "x%3D1" ++ ";m" := by
  have hset : (Header.parse "a=1").trySet ⟨"user id", "x=1", .ofText "m"⟩ =
      .ok ⟨[⟨⟨"user id", "x=1", .ofText "m"⟩, 13⟩, ⟨⟨"a", "1", .empty⟩, 2⟩], 15⟩ := by
    decide +kernel
  have hkey : Percent.encode "user id" = "user+id" := by decide +kernel
  have hvalue : Percent.encode "x=1" = "x%3D1" := by decide +kernel
  have htext : (Metadata.ofText "m").text = "m" := by decide +kernel
  obtain ⟨e, others, hentries, _, hsize, _, hmember⟩ := Baggage.charged_as_written.2 _ _ _ hset
  obtain ⟨rfl, _⟩ := List.cons.inj hentries
  rw [hkey, hvalue, htext] at hsize hmember
  exact ⟨hset, hsize, hmember⟩

end Charging

/-- The header is as long as all that is written for the entries with the signs in between,
whichever way they came in, and what the entries are charged bounds it. -/
theorem History.utf8ByteSize_header (past : History) :
    let b := past.baggage
    let n := b.length
    let j := b.pairs.countP fun p => p.metadata.text ≠ ""
    if n = 0 then b.header = ""
    else
      b.header.utf8ByteSize = Pair.writtenAll b.pairs + n + (n - 1) + j ∧
      b.header.utf8ByteSize ≤ b.size + 3 * n - 1 ∧ b.size + 3 * n - 1 ≤ 8730 := by
  intro b n j
  have hb : b.WellFormed := past.wellFormed
  split
  · next hempty => exact Baggage.header_of_length_eq_zero hempty
  · next hfilled =>
    have hcount : n ≤ 180 := hb.fits.count
    have htotal : b.size < 8192 := hb.total ▸ hb.fits.total
    have hwritten : Pair.writtenAll b.pairs ≤ b.size :=
      hb.total ▸ Baggage.writtenAll_pairs_le hb.sound
    have hj : j ≤ n := Nat.le_trans List.countP_le_length (Nat.le_of_eq b.length_pairs)
    have hlength : b.header.utf8ByteSize = Pair.writtenAll b.pairs + n + (n - 1) + j := by
      rw [← byteLength_toList]
      exact Baggage.byteLength_header hfilled
    exact ⟨hlength, by omega, by omega⟩

example : (Header.parse "%61=1;x, b=").header.utf8ByteSize = 8 := by decide +kernel

end ContextBaggage
