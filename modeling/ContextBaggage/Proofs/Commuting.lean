import ContextBaggage.Proofs.WellFormed

/-!
# What one update leaves to the next

A pair that is set finds only the entries of other keys. Whether its own key had an entry, and what
that was charged, makes no difference to the outcome, so a set can be repeated with another value
as if it were the first one.

Pairs of different keys compete for room and leave each other alone otherwise. In which order they
are set decides which of them stands first; it can also decide whether both fit, but only as long
as the first of them still has to stand beside an entry that the second is going to replace.
-/

namespace ContextBaggage.Baggage

/-- Sets pairs in turn, up to the first that is refused. -/
def trySetAll (b : Baggage) (ps : List Pair) : Except Rejection Baggage := ps.foldlM trySet b

/-- No pair is refused when they are set in turn. -/
def Accepts (b : Baggage) (ps : List Pair) : Prop := ∃ updated, b.trySetAll ps = .ok updated

instance (b : Baggage) (ps : List Pair) : Decidable (b.Accepts ps) :=
  match h : b.trySetAll ps with
  | .ok updated => .isTrue ⟨updated, h⟩
  | .error _ => .isFalse fun ⟨_, hupdated⟩ => by
    rw [h] at hupdated
    cases hupdated

/-- The entries that have neither key. -/
def beside (b : Baggage) (key other : String) : List Entry :=
  b.entries.filter fun e => e.key ≠ key ∧ e.key ≠ other

section Replacing
variable {a b updated : Baggage} {p : Pair} {key : String}

theorem trySet_congr (h : a.others p.key = b.others p.key) : a.trySet p = b.trySet p := by
  unfold trySet
  rw [h]

theorem remove_congr (h : a.others key = b.others key) : a.remove key = b.remove key := by
  rw [remove, h, remove]

theorem others_remove (b : Baggage) (key : String) : (b.remove key).others key = b.others key := by
  unfold remove ofEntries others
  rw [List.filter_filter]
  simp

theorem entries_of_trySet (h : b.trySet p = .ok updated) :
    updated.entries = p.entry :: b.others p.key := by
  obtain ⟨_, _, _, _, rfl⟩ := trySet_eq_ok_iff.mp h
  rfl

theorem others_of_trySet (h : b.trySet p = .ok updated) :
    updated.others p.key = b.others p.key := by
  rw [others, entries_of_trySet h, List.filter_cons_of_neg (by simp [Pair.entry])]
  exact others_remove b p.key

/-- It makes no difference to a pair that is set whether its key is removed before or was set
before. Nor does it make any to the removal of a key whether the key was set. -/
theorem trySet_of_replaced (b : Baggage) (p : Pair) :
    (b.remove p.key).trySet p = b.trySet p ∧
    ∀ updated, b.trySet p = .ok updated →
      (∀ value metadata, updated.trySet ⟨p.key, value, metadata⟩ =
        b.trySet ⟨p.key, value, metadata⟩) ∧
      updated.remove p.key = b.remove p.key := by
  refine ⟨trySet_congr (others_remove b p.key), ?_⟩
  intro updated h
  have hothers := others_of_trySet h
  exact ⟨fun value metadata => trySet_congr hothers, remove_congr hothers⟩

theorem trySet_of_replaced_twice :
    (Header.parse "a=1,k=2;m").trySet ⟨"k", "3", .empty⟩ =
      .ok ⟨[⟨⟨"k", "3", .empty⟩, 2⟩, ⟨⟨"a", "1", .empty⟩, 2⟩], 4⟩ ∧
    (⟨[⟨⟨"k", "3", .empty⟩, 2⟩, ⟨⟨"a", "1", .empty⟩, 2⟩], 4⟩ : Baggage).trySet
        ⟨"k", "4,", .ofText "n"⟩ =
      (Header.parse "a=1,k=2;m").trySet ⟨"k", "4,", .ofText "n"⟩ := by
  have hset : (Header.parse "a=1,k=2;m").trySet ⟨"k", "3", .empty⟩ =
      .ok ⟨[⟨⟨"k", "3", .empty⟩, 2⟩, ⟨⟨"a", "1", .empty⟩, 2⟩], 4⟩ := by
    decide +kernel
  exact ⟨hset, ((trySet_of_replaced _ _).2 _ hset).1 "4," (.ofText "n")⟩

end Replacing

section Commuting
variable {b first both : Baggage} {p q : Pair}

theorem trySetAll_cons_eq_ok_iff {ps : List Pair} : b.trySetAll (p :: ps) = .ok both ↔
    ∃ first, b.trySet p = .ok first ∧ first.trySetAll ps = .ok both := by
  rw [trySetAll, List.foldlM_cons]
  cases b.trySet p with
  | error cause => simp [bind, Except.bind]
  | ok first => simp [bind, Except.bind, trySetAll]

theorem trySetAll_singleton (b : Baggage) (p : Pair) : b.trySetAll [p] = b.trySet p := by
  simp only [trySetAll, List.foldlM_cons, List.foldlM_nil, bind_pure]

theorem trySetAll_append_singleton (b : Baggage) (ps : List Pair) (p : Pair) :
    b.trySetAll (ps ++ [p]) = b.trySetAll ps >>= fun updated => updated.trySet p := by
  simp only [trySetAll, List.foldlM_append, List.foldlM_cons, List.foldlM_nil, bind_pure]

theorem trySetAll_pair : b.trySetAll [p, q] = .ok both ↔
    ∃ first, b.trySet p = .ok first ∧ first.trySet q = .ok both := by
  simp only [trySetAll_cons_eq_ok_iff (p := p), trySetAll_singleton]

theorem accepts_singleton_iff : b.Accepts [p] ↔
    p.fault? = none ∧ p.size < entrySizeBound ∧ (b.others p.key).length < maxEntries ∧
      charge (b.others p.key) + p.size < totalSizeBound := by
  simp only [Accepts, trySetAll_singleton, trySet_eq_ok_iff, exists_and_left, exists_eq, and_true]

theorem beside_comm (b : Baggage) (key other : String) :
    b.beside key other = b.beside other key := by
  apply List.filter_congr
  intro e _
  rw [decide_eq_decide]
  exact and_comm

theorem others_of_trySet_of_ne (hkeys : p.key ≠ q.key) (h : b.trySet p = .ok first) :
    first.others q.key = p.entry :: b.beside p.key q.key := by
  rw [others, entries_of_trySet h, List.filter_cons_of_pos (by simpa [Pair.entry] using hkeys),
    others, List.filter_filter]
  congr 1
  apply List.filter_congr
  intro e _
  rw [Bool.eq_iff_iff, Bool.and_eq_true, bne_iff_ne, bne_iff_ne, decide_eq_true_iff]
  exact and_comm

/-- What the second of two pairs finds is the first one and the entries of other keys. -/
theorem trySet_after_iff (hkeys : p.key ≠ q.key) (h : b.trySet p = .ok first) :
    first.trySet q = .ok both ↔
      q.fault? = none ∧ q.size < entrySizeBound ∧
      (b.beside p.key q.key).length + 1 < maxEntries ∧
      p.size + charge (b.beside p.key q.key) + q.size < totalSizeBound ∧
        both = ⟨q.entry :: p.entry :: b.beside p.key q.key,
          p.size + charge (b.beside p.key q.key) + q.size⟩ := by
  rw [trySet_eq_ok_iff, others_of_trySet_of_ne hkeys h, List.length_cons, charge_cons]
  rfl

theorem accepts_pair_iff (hkeys : p.key ≠ q.key) : b.Accepts [p, q] ↔
    b.Accepts [p] ∧ q.fault? = none ∧ q.size < entrySizeBound ∧
      (b.beside p.key q.key).length + 1 < maxEntries ∧
      p.size + charge (b.beside p.key q.key) + q.size < totalSizeBound := by
  constructor
  · intro h
    obtain ⟨both, hboth⟩ := h
    obtain ⟨first, hp, hq⟩ := trySetAll_pair.mp hboth
    obtain ⟨hfault, hsize, hroom, htotal, -⟩ := (trySet_after_iff hkeys hp).mp hq
    rw [← trySetAll_singleton] at hp
    exact ⟨⟨first, hp⟩, hfault, hsize, hroom, htotal⟩
  · intro h
    obtain ⟨⟨first, hp⟩, hfault, hsize, hroom, htotal⟩ := h
    rw [trySetAll_singleton] at hp
    have hq := (trySet_after_iff hkeys hp).mpr ⟨hfault, hsize, hroom, htotal, rfl⟩
    exact ⟨_, trySetAll_pair.mpr ⟨first, hp, hq⟩⟩

/-- All that the second pair of one order may lack in the other is the room to go first. -/
theorem Accepts.swap (hkeys : p.key ≠ q.key) (h : b.Accepts [p, q]) (hfirst : b.Accepts [q]) :
    b.Accepts [q, p] := by
  obtain ⟨hp, -, -, hroom, htotal⟩ := (accepts_pair_iff hkeys).mp h
  obtain ⟨hfault, hsize, -, -⟩ := accepts_singleton_iff.mp hp
  rw [beside_comm] at hroom htotal
  exact (accepts_pair_iff hkeys.symm).mpr ⟨hfirst, hfault, hsize, hroom, by omega⟩

/-- A pair that replaces nothing fits all the better before another one is set. -/
theorem Accepts.swap_of_absent (hkeys : p.key ≠ q.key)
    (habsent : ∀ e ∈ b.entries, e.key ≠ p.key ∧ e.key ≠ q.key) (h : b.Accepts [p, q]) :
    b.Accepts [q, p] := by
  apply h.swap hkeys
  obtain ⟨-, hfault, hsize, hroom, htotal⟩ := (accepts_pair_iff hkeys).mp h
  have hothers : b.others q.key = b.beside p.key q.key := by
    apply List.filter_congr
    intro e he
    obtain ⟨hp, hq⟩ := habsent e he
    rw [Bool.eq_iff_iff, bne_iff_ne, decide_eq_true_iff]
    exact ⟨fun _ => ⟨hp, hq⟩, fun _ => hq⟩
  apply accepts_singleton_iff.mpr
  rw [hothers]
  exact ⟨hfault, hsize, by omega, by omega⟩

theorem trySetAll_swap (hkeys : p.key ≠ q.key) {swapped : Baggage}
    (h : b.trySetAll [p, q] = .ok both) (hswapped : b.trySetAll [q, p] = .ok swapped) :
    both.size = swapped.size ∧
      both.entries = q.entry :: p.entry :: b.beside p.key q.key ∧
      swapped.entries = p.entry :: q.entry :: b.beside p.key q.key := by
  obtain ⟨first, hp, hq⟩ := trySetAll_pair.mp h
  obtain ⟨second, hq', hp'⟩ := trySetAll_pair.mp hswapped
  obtain ⟨-, -, -, -, rfl⟩ := (trySet_after_iff hkeys hp).mp hq
  obtain ⟨-, -, -, -, rfl⟩ := (trySet_after_iff hkeys.symm hq').mp hp'
  rw [beside_comm b q.key]
  refine ⟨?_, rfl, rfl⟩
  show p.size + _ + q.size = q.size + _ + p.size
  omega

/-- Pairs of different keys that are set in either order leave the same baggage, but for the two of
them, of which the last one stands first. When each of them can be set by itself, both orders
succeed or neither; and when neither key is there yet, they do so in any case. -/
theorem trySetAll_swapped (b : Baggage) (p q : Pair) (hkeys : p.key ≠ q.key) :
    (∀ both swapped, b.trySetAll [p, q] = .ok both → b.trySetAll [q, p] = .ok swapped →
      both.size = swapped.size ∧
        both.entries = q.entry :: p.entry :: b.beside p.key q.key ∧
        swapped.entries = p.entry :: q.entry :: b.beside p.key q.key) ∧
    (b.Accepts [p] → b.Accepts [q] → (b.Accepts [p, q] ↔ b.Accepts [q, p])) ∧
    ((∀ e ∈ b.entries, e.key ≠ p.key ∧ e.key ≠ q.key) →
      (b.Accepts [p, q] ↔ b.Accepts [q, p])) := by
  refine ⟨fun both swapped => trySetAll_swap hkeys, ?_, ?_⟩
  · intro hp hq
    exact ⟨fun h => h.swap hkeys hq, fun h => h.swap hkeys.symm hp⟩
  · intro habsent
    refine ⟨fun h => h.swap_of_absent hkeys habsent, ?_⟩
    intro h
    exact h.swap_of_absent hkeys.symm fun e he => (habsent e he).symm

theorem trySetAll_swapped_of_fresh :
    (∀ e ∈ (Header.parse "a=1").entries, e.key ≠ "c" ∧ e.key ≠ "d") ∧
    (Header.parse "a=1").trySetAll [⟨"c", "2", .empty⟩, ⟨"d", "", .ofText "m"⟩] =
      .ok ⟨[⟨⟨"d", "", .ofText "m"⟩, 2⟩, ⟨⟨"c", "2", .empty⟩, 2⟩, ⟨⟨"a", "1", .empty⟩, 2⟩], 6⟩ ∧
    ∃ swapped, (Header.parse "a=1").trySetAll [⟨"d", "", .ofText "m"⟩, ⟨"c", "2", .empty⟩] =
        .ok swapped ∧
      swapped.size = 6 ∧
      swapped.entries =
        ⟨⟨"c", "2", .empty⟩, 2⟩ :: ⟨⟨"d", "", .ofText "m"⟩, 2⟩ :: (Header.parse "a=1").entries := by
  have hkeys : "c" ≠ "d" := by decide
  have habsent : ∀ e ∈ (Header.parse "a=1").entries, e.key ≠ "c" ∧ e.key ≠ "d" := by
    decide +kernel
  have hboth : (Header.parse "a=1").trySetAll [⟨"c", "2", .empty⟩, ⟨"d", "", .ofText "m"⟩] =
      .ok ⟨[⟨⟨"d", "", .ofText "m"⟩, 2⟩, ⟨⟨"c", "2", .empty⟩, 2⟩, ⟨⟨"a", "1", .empty⟩, 2⟩],
        6⟩ := by
    decide +kernel
  have hcommute := trySetAll_swapped (Header.parse "a=1") ⟨"c", "2", .empty⟩
    ⟨"d", "", .ofText "m"⟩ hkeys
  obtain ⟨swapped, hswapped⟩ := (hcommute.2.2 habsent).mp ⟨_, hboth⟩
  obtain ⟨hsize, -, hentries⟩ := hcommute.1 _ _ hboth hswapped
  have hbeside : (Header.parse "a=1").beside "c" "d" = (Header.parse "a=1").entries := by
    apply List.filter_eq_self.mpr
    intro e he
    exact decide_eq_true (habsent e he)
  rw [hbeside] at hentries
  exact ⟨habsent, hboth, swapped, hswapped, hsize.symm, hentries⟩

/-- Only the first order makes room before it needs it. -/
example :
    let b : Baggage := .ofEntries [⟨⟨"a", "1", .empty⟩, 4095⟩, ⟨⟨"b", "2", .empty⟩, 4095⟩]
    b.Accepts [⟨"a", "3", .empty⟩, ⟨"c", "4", .empty⟩] ∧
      ¬b.Accepts [⟨"c", "4", .empty⟩, ⟨"a", "3", .empty⟩] := by
  decide +kernel

end Commuting

end ContextBaggage.Baggage
