import ContextBaggage.Proofs.WellFormed
import Mathlib.Data.List.Forall2

/-!
# The same contents for a smaller charge

`Lighter ds es` compares two lists of entries with the same pairs, where the first is charged at
most as much for each of them. What fits still fits when it becomes lighter. The lightest baggage
with given contents is the one in which every pair is charged its encoded size.
-/

namespace ContextBaggage

def Lighter (ds es : List Entry) : Prop :=
  List.Forall₂ (fun d e => d.toPair = e.toPair ∧ d.size ≤ e.size) ds es

namespace Lighter
variable {ds es : List Entry}

theorem refl (es : List Entry) : Lighter es es :=
  List.forall₂_same.mpr fun _ _ => ⟨rfl, Nat.le_refl _⟩

theorem trans {cs : List Entry} (h : Lighter cs ds) (h' : Lighter ds es) : Lighter cs es := by
  induction h generalizing es with
  | nil =>
    cases h'
    exact .nil
  | cons hhead _ ih =>
    cases h' with
    | cons hhead' htail' =>
      exact .cons ⟨hhead.1.trans hhead'.1, Nat.le_trans hhead.2 hhead'.2⟩ (ih htail')

theorem map_toPair (h : Lighter ds es) : ds.map Entry.toPair = es.map Entry.toPair := by
  induction h with
  | nil => rfl
  | cons hhead _ ih => rw [List.map_cons, List.map_cons, hhead.1, ih]

theorem map_key (h : Lighter ds es) : (ds.map fun d => d.key) = es.map fun e => e.key := by
  have hkeys := congrArg (List.map Pair.key) h.map_toPair
  rw [List.map_map, List.map_map] at hkeys
  exact hkeys

theorem charge_le (h : Lighter ds es) : Baggage.charge ds ≤ Baggage.charge es := by
  induction h with
  | nil => exact Nat.le_refl _
  | cons hhead _ ih =>
    have hsize := hhead.2
    rw [Baggage.charge_cons, Baggage.charge_cons]
    omega

theorem filter (h : Lighter ds es) (keep : Pair → Bool) :
    Lighter (ds.filter fun d => keep d.toPair) (es.filter fun e => keep e.toPair) := by
  induction h with
  | nil => exact .nil
  | @cons d e ds es hhead _ ih =>
    rw [List.filter_cons, List.filter_cons, hhead.1]
    by_cases hkeep : keep e.toPair = true
    · rw [if_pos hkeep, if_pos hkeep]
      exact .cons hhead ih
    · rw [if_neg hkeep, if_neg hkeep]
      exact ih

theorem length_eq (h : Lighter ds es) : ds.length = es.length := List.Forall₂.length_eq h

theorem fits (h : Lighter ds es) (hes : Fits es) : Fits ds where
  count := by
    have hlength := h.length_eq
    have hcount := hes.count
    omega
  sizes := by
    intro d hd
    obtain ⟨i, hi, rfl⟩ := List.getElem_of_mem hd
    have hlength := h.length_eq
    have hi' : i < es.length := by omega
    have hsize := (List.Forall₂.get h hi hi').2
    exact Nat.lt_of_le_of_lt hsize (hes.sizes _ (List.getElem_mem hi'))
  total := Nat.lt_of_le_of_lt h.charge_le hes.total
  keys := by
    have hkeys := h.map_key
    rw [hkeys]
    exact hes.keys

theorem others {a b : Baggage} (h : Lighter a.entries b.entries) (key : String) :
    Lighter (a.others key) (b.others key) :=
  h.filter fun p => p.key != key

end Lighter

namespace Baggage
variable {b updated : Baggage} {p : Pair}

/-- The same contents, charged as if they had been set. -/
def recharge (b : Baggage) : Baggage := ofEntries (b.pairs.map Pair.entry)

def IsLight (b : Baggage) : Prop := ∀ e ∈ b.entries, e.size = e.toPair.size

theorem entries_recharge (b : Baggage) :
    b.recharge.entries = b.entries.map fun e => e.toPair.entry := by
  rw [recharge, ofEntries, pairs, List.map_map]
  rfl

theorem pairs_ofEntries (ps : List Pair) : (ofEntries (ps.map Pair.entry)).pairs = ps := by
  rw [pairs, ofEntries, List.map_map]
  exact List.map_id ps

theorem pairs_recharge (b : Baggage) : b.recharge.pairs = b.pairs := pairs_ofEntries b.pairs

theorem lighter_recharge (hb : ∀ e ∈ b.entries, e.Sound) :
    Lighter b.recharge.entries b.entries := by
  rw [entries_recharge, Lighter, List.forall₂_map_left_iff, List.forall₂_same]
  intro e he
  exact ⟨rfl, (hb e he).charged⟩

theorem IsLight.recharge_eq (hb : b.IsLight) (htotal : b.size = charge b.entries) :
    b.recharge = b := by
  have hentries : b.pairs.map Pair.entry = b.entries := by
    rw [pairs, List.map_map]
    refine (List.map_congr_left ?_).trans (List.map_id b.entries)
    intro e he
    have hsize := hb e he
    show e.toPair.entry = e
    rw [Pair.entry, ← hsize]
  rw [recharge, hentries, ofEntries, ← htotal]

theorem eq_entry_or_mem_of_trySet (h : b.trySet p = .ok updated) {e : Entry}
    (he : e ∈ updated.entries) : e = p.entry ∨ e ∈ b.entries ∧ e.key ≠ p.key := by
  obtain ⟨_, _, _, _, rfl⟩ := trySet_eq_ok_iff.mp h
  rcases List.mem_cons.mp he with he | he
  · exact .inl he
  · exact .inr ⟨(b.others_sublist p.key).mem he, ne_of_mem_others he⟩

theorem isLight_empty : empty.IsLight := fun _ h => absurd h List.not_mem_nil

theorem IsLight.trySet (hb : b.IsLight) (h : b.trySet p = .ok updated) : updated.IsLight := by
  intro e he
  rcases eq_entry_or_mem_of_trySet h he with rfl | ⟨he, _⟩
  · rfl
  · exact hb e he

theorem IsLight.remove (hb : b.IsLight) (key : String) : (b.remove key).IsLight :=
  fun e he => hb e ((b.others_sublist key).mem he)

theorem isLight_ofPairs (ps : List Pair) : (ofPairs ps).IsLight :=
  ofPairs_of isLight_empty IsLight.trySet ps

end Baggage

end ContextBaggage
