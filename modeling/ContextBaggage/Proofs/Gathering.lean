import ContextBaggage.Proofs.Commuting
import ContextBaggage.Proofs.Extent
import Mathlib.Data.List.Dedup
import Mathlib.Data.List.Induction
import Mathlib.Data.List.Perm.Subperm

/-!
# Baggage gathered from pairs

Pairs are gathered by setting one after the other. A pair that is refused is skipped, whatever is
wrong with it, and what was gathered before is left alone. Where nothing is wrong with any of them
and they fit together, all are taken: every key ends up with the last pair that has it, and the
pairs that come last stand first.

Baggage is rebuilt by gathering its own pairs. They fit together because the baggage was charged no
less for them, so what is skipped is only metadata that could be read but not set.
-/

namespace ContextBaggage

namespace Pair
variable {p : Pair} {ps : List Pair}

/-- The key and the value are texts that baggage can carry. -/
def Carriable (p : Pair) : Prop := p.key ≠ "" ∧ ¬Unprintable p.key ∧ ¬Unprintable p.value

/-- None of the texts breaks a rule. -/
def Proper (p : Pair) : Prop :=
  p.Carriable ∧ ',' ∉ p.metadata.text.toList ∧ ¬Unprintable p.metadata.text

instance (p : Pair) : Decidable p.Carriable :=
  inferInstanceAs (Decidable (p.key ≠ "" ∧ ¬Unprintable p.key ∧ ¬Unprintable p.value))

instance (p : Pair) : Decidable p.Proper :=
  inferInstanceAs
    (Decidable (p.Carriable ∧ ',' ∉ p.metadata.text.toList ∧ ¬Unprintable p.metadata.text))

theorem carriable_iff : p.Carriable ↔ isKey p.key = true ∧ isPrintable p.value = true := by
  simp [Carriable, unprintable_iff, isKey, and_assoc]

theorem proper_iff : p.Proper ↔ p.fault? = none := by
  rw [Proper, carriable_iff, fault?_eq_none_iff, and_assoc]
  simp [unprintable_iff, isMetadata]

/-- The pairs whose key does not come again, in their order. -/
def lasting (ps : List Pair) : List Pair := ps.pwFilter fun p q => p.key ≠ q.key

theorem map_key_lasting (ps : List Pair) :
    ((lasting ps).map fun p => p.key) = (ps.map fun p => p.key).dedup :=
  (List.pwFilter_map (R := (· ≠ ·)) (fun p : Pair => p.key) ps).symm

theorem lasting_of_nodup (h : (ps.map fun p => p.key).Nodup) : lasting ps = ps :=
  List.pwFilter_eq_self.mpr (List.pairwise_map.mp h)

theorem lasting_sublist (ps : List Pair) : (lasting ps).Sublist ps := List.pwFilter_sublist ps

theorem lasting_cons (p : Pair) (ps : List Pair) : lasting (p :: ps) =
    if p.key ∈ ps.map fun q => q.key then lasting ps else p :: lasting ps := by
  have hkeys : p.key ∈ (ps.map fun q => q.key) ↔ ¬∀ q ∈ lasting ps, p.key ≠ q.key := by
    rw [← List.mem_dedup, ← map_key_lasting]
    simp [eq_comm]
  split
  · next h => exact List.pwFilter_cons_of_neg (hkeys.mp h)
  · next h => exact List.pwFilter_cons_of_pos (not_not.mp (mt hkeys.mpr h))

theorem lasting_append_singleton (ps : List Pair) (p : Pair) :
    lasting (ps ++ [p]) = ((lasting ps).filter fun q => q.key ≠ p.key) ++ [p] := by
  induction ps with
  | nil => rfl
  | cons q ps ih =>
    rw [List.cons_append, lasting_cons, lasting_cons, ih]
    -- `q` goes because its key comes again before `p`, or else because `p` has it, or it stays
    by_cases hagain : q.key ∈ ps.map fun q => q.key
    · rw [if_pos hagain, if_pos (by simp [hagain])]
    · by_cases hlast : q.key = p.key
      · rw [if_neg hagain, if_pos (by simp [hlast]), List.filter_cons_of_neg (by simpa using hlast)]
      · rw [if_neg hagain, if_neg (by simpa [hlast] using hagain),
          List.filter_cons_of_pos (by simpa using hlast), List.cons_append]

/-- A pair that lasts is the last one of its key. -/
theorem exists_of_mem_lasting (h : p ∈ lasting ps) :
    ∃ before after, ps = before ++ p :: after ∧ ∀ q ∈ after, q.key ≠ p.key := by
  induction ps with
  | nil => exact absurd h List.not_mem_nil
  | cons q ps ih =>
    rw [lasting_cons] at h
    split at h
    · obtain ⟨before, after, rfl, hafter⟩ := ih h
      exact ⟨q :: before, after, rfl, hafter⟩
    next hagain =>
      rcases List.mem_cons.mp h with rfl | h
      · refine ⟨[], ps, rfl, ?_⟩
        intro q hq hkey
        exact hagain (hkey ▸ List.mem_map_of_mem hq)
      · obtain ⟨before, after, rfl, hafter⟩ := ih h
        exact ⟨q :: before, after, rfl, hafter⟩

/-- Nothing is wrong with any of the pairs, and they fit together even if a key comes again. -/
structure Gatherable (ps : List Pair) : Prop where
  proper : ∀ p ∈ ps, p.Proper
  sizes : ∀ p ∈ ps, p.written < entrySizeBound
  keys : (ps.map fun p => p.key).dedup.length ≤ maxEntries
  total : writtenAll ps < totalSizeBound

theorem Gatherable.of_sublist {qs : List Pair} (h : Gatherable ps) (hqs : qs.Sublist ps) :
    Gatherable qs where
  proper := fun q hq => h.proper q (hqs.mem hq)
  sizes := fun q hq => h.sizes q (hqs.mem hq)
  keys := by
    have hkeys : (qs.map fun q => q.key).dedup ⊆ (ps.map fun p => p.key).dedup := by
      intro key hkey
      exact List.mem_dedup.mpr ((hqs.map _).mem (List.mem_dedup.mp hkey))
    exact Nat.le_trans ((List.nodup_dedup _).subperm hkeys).length_le h.keys
  total := Nat.lt_of_le_of_lt (writtenAll_le_of_sublist hqs) h.total

/-- The entries of the pairs that last, the last one first. -/
def gathered (ps : List Pair) : List Entry := (lasting ps).reverse.map entry

theorem gathered_append_singleton (ps : List Pair) (p : Pair) :
    gathered (ps ++ [p]) = p.entry :: (gathered ps).filter fun e => e.key != p.key := by
  rw [gathered, lasting_append_singleton, List.reverse_append, List.reverse_singleton,
    List.singleton_append, List.map_cons, gathered, ← List.filter_reverse, List.filter_map]
  congr 2
  apply List.filter_congr
  intro q _
  rw [Bool.eq_iff_iff, decide_eq_true_iff, Function.comp_apply, bne_iff_ne]
  rfl

theorem map_key_gathered (ps : List Pair) :
    ((gathered ps).map fun e => e.key) = (ps.map fun p => p.key).dedup.reverse := by
  rw [← map_key_lasting, ← List.map_reverse, gathered, List.map_map]
  rfl

theorem length_gathered (ps : List Pair) :
    (gathered ps).length = (ps.map fun p => p.key).dedup.length := by
  have hkeys := congrArg List.length (map_key_gathered ps)
  rwa [List.length_map, List.length_reverse] at hkeys

theorem charge_gathered_le (ps : List Pair) : Baggage.charge (gathered ps) ≤ writtenAll ps := by
  rw [gathered, charge_map_entry, writtenAll_reverse]
  exact writtenAll_le_of_sublist (lasting_sublist ps)

theorem gathered_of_nodup (h : (ps.map fun p => p.key).Nodup) :
    gathered ps = ps.reverse.map entry := by
  rw [gathered, lasting_of_nodup h]

end Pair

namespace Baggage
variable {b : Baggage} {p : Pair} {ps : List Pair}

/-- None of the pairs is refused on the way. -/
theorem trySetAll_of_gatherable (h : Pair.Gatherable ps) :
    empty.trySetAll ps = .ok (ofEntries (Pair.gathered ps)) := by
  induction ps using List.reverseRecOn with
  | nil => rfl
  | append_singleton ps p ih =>
    have hp : p ∈ ps ++ [p] := by simp
    have hnext : Pair.gathered (ps ++ [p]) =
        p.entry :: (ofEntries (Pair.gathered ps)).others p.key :=
      Pair.gathered_append_singleton ps p
    -- what stands beside the pair is within the limits, since all of it will be with the pair
    have hlength := Pair.length_gathered (ps ++ [p]) ▸ h.keys
    have hcharge := Nat.lt_of_le_of_lt (Pair.charge_gathered_le (ps ++ [p])) h.total
    rw [hnext, List.length_cons] at hlength
    rw [hnext, charge_cons] at hcharge
    have hsize : p.entry.size = p.size := rfl
    rw [trySetAll_append_singleton, ih (h.of_sublist (List.sublist_append_left ps [p])), hnext]
    apply trySet_eq_ok_iff.mpr
    refine ⟨Pair.proper_iff.mp (h.proper p hp), ?_, by omega, by omega, ?_⟩
    · rw [← Pair.written_eq_size]
      exact h.sizes p hp
    · rw [ofEntries, charge_cons, Nat.add_comm]
      rfl

theorem foldl_setOrKeep_of_trySetAll {updated : Baggage} (h : b.trySetAll ps = .ok updated) :
    ps.foldl setOrKeep b = updated := by
  induction ps generalizing b with
  | nil => exact Except.ok.inj h
  | cons p ps ih =>
    obtain ⟨first, hp, hps⟩ := trySetAll_cons_eq_ok_iff.mp h
    rw [List.foldl_cons, setOrKeep, hp]
    exact ih hps

theorem ofPairs_of_gatherable (h : Pair.Gatherable ps) :
    ofPairs ps = ofEntries (Pair.gathered ps) :=
  foldl_setOrKeep_of_trySetAll (trySetAll_of_gatherable h)

section Skipping

theorem setOrKeep_of_not_proper (h : ¬p.Proper) (b : Baggage) : b.setOrKeep p = b := by
  obtain ⟨cause, hfault⟩ := Option.ne_none_iff_exists'.mp (mt Pair.proper_iff.mpr h)
  rw [setOrKeep, trySet_of_fault? hfault]

/-- A refusal loses everything only for a key or a value that cannot be carried. -/
theorem setOrKeep_of_carriable (h : p.Carriable) (b : Baggage) :
    b.setOrKeep p = (b.set p).value := by
  obtain ⟨hfilled, hkey, hvalue⟩ := h
  rw [setOrKeep]
  cases hset : b.trySet p with
  | ok updated => rw [set_of_trySet_eq_ok hset]
  | error cause =>
    have hbreach := breaks_of_trySet_eq_error hset
    have hkept : ¬(cause = .invalidKey ∨ cause = .invalidValue) := by
      rintro (rfl | rfl)
      · exact hbreach.elim hfilled hkey
      · exact hvalue hbreach
    rw [set_of_trySet_eq_error hset, if_neg hkept]

theorem foldl_setOrKeep_eq (b : Baggage) (ps : List Pair) : ps.foldl setOrKeep b =
    ((ps.filter fun p => p.Carriable).foldlM set b).value := by
  induction ps generalizing b with
  | nil => rfl
  | cons p ps ih =>
    by_cases hp : p.Carriable
    · rw [List.foldl_cons, setOrKeep_of_carriable hp, List.filter_cons_of_pos (by simpa using hp),
        List.foldlM_cons, Logged.value_bind, ih]
    · have hproper : ¬p.Proper := fun h => hp h.1
      rw [List.foldl_cons, setOrKeep_of_not_proper hproper,
        List.filter_cons_of_neg (by simpa using hp), ih]

theorem ofPairs_filter_proper (ps : List Pair) :
    ofPairs (ps.filter fun p => p.Proper) = ofPairs ps := by
  rw [ofPairs, ofPairs, List.foldl_filter]
  congr 1
  funext b p
  split
  · rfl
  · next h => exact (setOrKeep_of_not_proper (by simpa using h) b).symm

end Skipping

/-- Gathering is setting in turn the pairs that can be carried. Of pairs that fit together none is
refused: there is one entry for each key, in the order in which the keys came last, and it is the
one of the pair with which the key came last. -/
theorem ofPairs_gathered (ps : List Pair) :
    ofPairs ps = ((ps.filter fun p => p.Carriable).foldlM set empty).value ∧
    (Pair.Gatherable ps →
      empty.trySetAll ps = .ok (ofPairs ps) ∧
      ((ofPairs ps).entries.map fun e => e.key) = (ps.map fun p => p.key).dedup.reverse ∧
      ∀ e ∈ (ofPairs ps).entries, e = e.toPair.entry ∧
        ∃ before after, ps = before ++ e.toPair :: after ∧ ∀ p ∈ after, p.key ≠ e.key) := by
  refine ⟨foldl_setOrKeep_eq empty ps, ?_⟩
  intro h
  rw [ofPairs_of_gatherable h]
  refine ⟨trySetAll_of_gatherable h, Pair.map_key_gathered ps, ?_⟩
  intro e he
  obtain ⟨p, hp, rfl⟩ := List.mem_map.mp he
  exact ⟨rfl, Pair.exists_of_mem_lasting (List.mem_reverse.mp hp)⟩

theorem ofPairs_gathered_of_repeated :
    let ps : List Pair :=
      [⟨"a", "1", .empty⟩, ⟨"b", "x y", .ofText " m "⟩, ⟨"a", "=", .ofText "n"⟩]
    Pair.Gatherable ps ∧ empty.trySetAll ps = .ok (ofPairs ps) ∧
      ((ofPairs ps).entries.map fun e => e.key) = ["a", "b"] ∧
      ∀ e ∈ (ofPairs ps).entries, e = e.toPair.entry ∧
        ∃ before after, ps = before ++ e.toPair :: after ∧ ∀ p ∈ after, p.key ≠ e.key := by
  intro ps
  have h : Pair.Gatherable ps :=
    ⟨by decide +kernel, by decide +kernel, by decide +kernel, by decide +kernel⟩
  exact ⟨h, (ofPairs_gathered ps).2 h⟩

section Rebuilding

theorem proper_iff_of_sound {e : Entry} (he : e.Sound) :
    e.toPair.Proper ↔ ¬Unprintable e.metadata.text := by
  have hcarriable : e.toPair.Carriable := Pair.carriable_iff.mpr ⟨he.key, he.value⟩
  exact ⟨fun h => h.2.2, fun h => ⟨hcarriable, he.metadata, h⟩⟩

theorem fault?_of_sound {e : Entry} (he : e.Sound) (h : Unprintable e.metadata.text) :
    e.toPair.fault? = some .invalidMetadata := by
  have hmetadata : isMetadata e.metadata.text = false := by
    rw [isMetadata, unprintable_iff.mp h, Bool.and_false]
  simp [Pair.fault?, he.key, he.value, hmetadata]

theorem WellFormed.nodup_keys (hb : b.WellFormed) (keep : Pair → Bool) :
    ((b.pairs.filter keep).map fun p => p.key).Nodup := by
  have hkeys := hb.fits.keys
  have hpairs : (b.entries.map fun e => e.key) = b.pairs.map fun p => p.key := by
    rw [pairs, List.map_map]
    rfl
  rw [hpairs] at hkeys
  exact hkeys.sublist (List.filter_sublist.map _)

/-- What the entries were charged leaves room to set their pairs. -/
theorem WellFormed.gatherable (hb : b.WellFormed) :
    Pair.Gatherable (b.pairs.filter fun p => p.Proper) where
  proper := by
    intro p hp
    simpa using (List.mem_filter.mp hp).2
  sizes := by
    intro p hp
    obtain ⟨e, he, rfl⟩ := List.mem_map.mp (List.mem_filter.mp hp).1
    rw [Pair.written_eq_size]
    exact Nat.lt_of_le_of_lt (hb.sound e he).charged (hb.fits.sizes e he)
  keys := by
    rw [(hb.nodup_keys _).dedup, List.length_map]
    exact Nat.le_trans (List.length_filter_le _ _) (b.length_pairs ▸ hb.fits.count)
  total := by
    have hkept : Pair.writtenAll (b.pairs.filter fun p => p.Proper) ≤ Pair.writtenAll b.pairs :=
      Pair.writtenAll_le_of_sublist List.filter_sublist
    exact Nat.lt_of_le_of_lt (Nat.le_trans hkept (writtenAll_pairs_le hb.sound)) hb.fits.total

theorem WellFormed.rebuild_eq (hb : b.WellFormed) : b.rebuild =
    ofEntries ((b.pairs.filter fun p => p.Proper).reverse.map Pair.entry) := by
  rw [rebuild, ← ofPairs_filter_proper, ofPairs_of_gatherable hb.gatherable,
    Pair.gathered_of_nodup (hb.nodup_keys _)]

/-- The second time nothing is skipped. -/
theorem WellFormed.rebuild_rebuild_eq (hb : b.WellFormed) : b.rebuild.rebuild =
    ofEntries ((b.pairs.filter fun p => p.Proper).map Pair.entry) := by
  have hpairs : b.rebuild.pairs = (b.pairs.filter fun p => p.Proper).reverse := by
    rw [hb.rebuild_eq, pairs_ofEntries]
  have hagain : b.rebuild.WellFormed := wellFormed_ofPairs b.pairs
  rw [hagain.rebuild_eq, hpairs, List.filter_reverse, List.filter_filter, List.reverse_reverse]
  simp only [Bool.and_self]

theorem map_entry_filter_proper (hb : ∀ e ∈ b.entries, e.Sound) :
    (b.pairs.filter fun p => p.Proper).map Pair.entry =
      (b.entries.filter fun e => ¬Unprintable e.metadata.text).map fun e =>
        ⟨e.toPair, e.toPair.written⟩ := by
  rw [pairs, List.filter_map, List.map_map]
  have hkept : b.entries.filter ((fun p : Pair => decide p.Proper) ∘ Entry.toPair) =
      b.entries.filter fun e => ¬Unprintable e.metadata.text := by
    apply List.filter_congr
    intro e he
    rw [Function.comp_apply, decide_eq_decide]
    exact proper_iff_of_sound (hb e he)
  rw [hkept]
  apply List.map_congr_left
  intro e _
  rw [Pair.written_eq_size]
  rfl

end Rebuilding

end Baggage

/-- Rebuilding skips the entries with metadata that is not printable, for just that reason, and
reverses the others, each charged what is written for it. Done twice it keeps their order, so the
contents are the same unless an entry was skipped. -/
theorem History.rebuild_kept (past : History) :
    let b := past.baggage
    let kept : List Entry := (b.entries.filter fun e => ¬Unprintable e.metadata.text).map fun e =>
      ⟨e.toPair, e.toPair.written⟩
    b.rebuild = .ofEntries kept.reverse ∧
    (∀ e ∈ b.entries, Unprintable e.metadata.text →
      ∀ other : Baggage, other.trySet e.toPair = .error .invalidMetadata) ∧
    b.rebuild.rebuild = .ofEntries kept ∧
    (b.rebuild.rebuild.sameContents b = true ↔
      ∀ e ∈ b.entries, ¬Unprintable e.metadata.text) := by
  intro b kept
  have hb : b.WellFormed := past.wellFormed
  have hkept : (b.pairs.filter fun p => p.Proper).map Pair.entry = kept :=
    Baggage.map_entry_filter_proper hb.sound
  refine ⟨?_, ?_, ?_, ?_⟩
  · rw [hb.rebuild_eq, List.map_reverse, hkept]
  · intro e he hmetadata other
    exact Baggage.trySet_of_fault? (Baggage.fault?_of_sound (hb.sound e he) hmetadata) other
  · rw [hb.rebuild_rebuild_eq, hkept]
  · rw [hb.rebuild_rebuild_eq, Baggage.sameContents, Baggage.pairs_ofEntries, beq_iff_eq,
      List.filter_eq_self, Baggage.pairs, List.forall_mem_map]
    apply forall₂_congr
    intro e he
    rw [decide_eq_true_iff]
    exact Baggage.proper_iff_of_sound (hb.sound e he)

theorem History.rebuild_kept_of_control_byte :
    let b := (History.parse "a=%31;x\x01y,b=2; m,c=3").baggage
    (⟨⟨"a", "1", .ofText "x\x01y"⟩, 7⟩ : Entry) ∈ b.entries ∧ Unprintable "x\x01y" ∧
      b.rebuild = .ofEntries [⟨⟨"c", "3", .empty⟩, 2⟩, ⟨⟨"b", "2", .ofText "m"⟩, 3⟩] ∧
      Baggage.empty.trySet ⟨"a", "1", .ofText "x\x01y"⟩ = .error .invalidMetadata ∧
      b.rebuild.rebuild.sameContents b = false := by
  intro b
  obtain ⟨hrebuild, hskipped, -, hsame⟩ := rebuild_kept (.parse "a=%31;x\x01y,b=2; m,c=3")
  have he : (⟨⟨"a", "1", .ofText "x\x01y"⟩, 7⟩ : Entry) ∈ b.entries := by decide +kernel
  have hmetadata : Unprintable "x\x01y" := by decide +kernel
  have hkept : ((b.entries.filter fun e => ¬Unprintable e.metadata.text).map fun e =>
      (⟨e.toPair, e.toPair.written⟩ : Entry)).reverse =
        [⟨⟨"c", "3", .empty⟩, 2⟩, ⟨⟨"b", "2", .ofText "m"⟩, 3⟩] := by
    decide +kernel
  refine ⟨he, hmetadata, ?_, hskipped _ he hmetadata .empty, ?_⟩
  · rw [← hkept]
    exact hrebuild
  · rw [← Bool.not_eq_true]
    exact fun h => hsame.mp h _ he hmetadata

end ContextBaggage
