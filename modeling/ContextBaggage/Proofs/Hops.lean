import ContextBaggage.Proofs.RoundTrip

/-!
# Hops between updates

Baggage travels: it is updated here and there, and in between it is written to a header and read
again. A traveller that hops always holds the same pairs as one that stays, and is charged at most
as much for each. So it takes up every pair that the other takes up, and refuses a pair that the
other refuses, unless the total was what stood in the way.
-/

namespace ContextBaggage

inductive Leg
  | set (p : Pair)
  | remove (key : String)
  | hop
deriving DecidableEq

namespace Leg

def go (b : Baggage) : Leg → Logged Baggage
  | set p => b.set p
  | remove key => pure (b.remove key)
  | hop => pure (Header.parse b.header)

end Leg

def travel (b : Baggage) (legs : List Leg) : Logged Baggage := legs.foldlM Leg.go b

def stay (b : Baggage) (legs : List Leg) : Logged Baggage :=
  travel b (legs.filter fun leg => leg ≠ .hop)

theorem travel_cons (b : Baggage) (leg : Leg) (legs : List Leg) :
    travel b (leg :: legs) = leg.go b >>= fun next => travel next legs := rfl

theorem stay_hop (b : Baggage) (legs : List Leg) : stay b (.hop :: legs) = stay b legs := rfl

theorem stay_cons (b : Baggage) {leg : Leg} (h : leg ≠ .hop) (legs : List Leg) :
    stay b (leg :: legs) = leg.go b >>= fun next => stay next legs := by
  cases leg with
  | set p => rfl
  | remove key => rfl
  | hop => exact absurd rfl h

namespace Baggage
variable {b : Baggage}

theorem wellFormed_recharge (hb : b.WellFormed) : b.recharge.WellFormed := by
  rw [← Header.parse_header hb]
  exact wellFormed_parse b.header

theorem IsLight.parse_header (hlight : b.IsLight) (hb : b.WellFormed) :
    Header.parse b.header = b := by
  rw [Header.parse_header hb, hlight.recharge_eq hb.total]

end Baggage

namespace Leg
variable {b : Baggage}

theorem wellFormed_go (hb : b.WellFormed) (leg : Leg) : (leg.go b).value.WellFormed := by
  cases leg with
  | set p => exact Baggage.set_of Baggage.wellFormed_empty Baggage.WellFormed.trySet hb p
  | remove key => exact hb.remove key
  | hop => exact Baggage.wellFormed_parse b.header

theorem isLight_go (hlight : b.IsLight) {leg : Leg} (h : leg ≠ .hop) :
    (leg.go b).value.IsLight := by
  cases leg with
  | set p => exact Baggage.set_of Baggage.isLight_empty Baggage.IsLight.trySet hlight p
  | remove key => exact hlight.remove key
  | hop => exact absurd rfl h

end Leg

/-- Where nothing is charged more than its encoded size, a hop does nothing at all. -/
theorem travel_of_isLight {b : Baggage} (hlight : b.IsLight) (hb : b.WellFormed)
    (legs : List Leg) : travel b legs = stay b legs := by
  induction legs generalizing b with
  | nil => rfl
  | cons leg legs ih =>
    rcases eq_or_ne leg .hop with rfl | hleg
    · rw [travel_cons, stay_hop, Leg.go, hlight.parse_header hb, pure_bind]
      exact ih hlight hb
    · rw [travel_cons, stay_cons b hleg]
      apply Logged.bind_congr_value
      exact ih (Leg.isLight_go hlight hleg) (leg.wellFormed_go hb)

/-- Pairs that the heavier baggage takes up are taken up by the lighter one as well. -/
theorem Lighter.trySet {a b updated : Baggage} {p : Pair} (h : Lighter a.entries b.entries)
    (hb : b.trySet p = .ok updated) :
    ∃ lighter, a.trySet p = .ok lighter ∧ Lighter lighter.entries updated.entries := by
  obtain ⟨hfault, hsize, hroom, htotal, rfl⟩ := Baggage.trySet_eq_ok_iff.mp hb
  have hothers := h.others p.key
  have hlength := hothers.length_eq
  have hcharge := hothers.charge_le
  refine ⟨⟨p.entry :: a.others p.key, Baggage.charge (a.others p.key) + p.size⟩, ?_, ?_⟩
  · exact Baggage.trySet_eq_ok_iff.mpr ⟨hfault, hsize, by omega, by omega, rfl⟩
  · exact .cons ⟨rfl, Nat.le_refl _⟩ hothers

/-- Only the total of the heavier baggage can refuse what the lighter one takes up. -/
theorem Lighter.trySet_error {a b : Baggage} {p : Pair} {rejection : Rejection}
    (h : Lighter a.entries b.entries) (hb : b.trySet p = .error rejection)
    (hcause : ∀ n, rejection ≠ .totalTooLarge n) : a.trySet p = .error rejection := by
  have hlength := (h.others p.key).length_eq
  unfold Baggage.trySet at hb ⊢
  cases hfault : p.fault? with
  | some fault =>
    rw [hfault] at hb
    exact hb
  | none =>
    rw [hfault] at hb
    simp only at hb ⊢
    split at hb
    · rw [if_pos ‹_›]
      exact hb
    split at hb
    · rw [if_neg ‹_›, if_pos (by omega)]
      exact hb
    split at hb
    · cases hb
      exact absurd rfl (hcause _)
    · cases hb

theorem Lighter.set {a b : Baggage} (h : Lighter a.entries b.entries) (p : Pair)
    (htotal : ∀ n, .setRejected (.totalTooLarge n) ∉ (b.set p).events) :
    Lighter (a.set p).value.entries (b.set p).value.entries ∧
      (a.set p).events = (b.set p).events := by
  unfold Baggage.set at htotal ⊢
  cases hb : b.trySet p with
  | ok updated =>
    obtain ⟨lighter, ha, hlighter⟩ := h.trySet hb
    rw [ha]
    exact ⟨hlighter, rfl⟩
  | error rejection =>
    rw [hb] at htotal
    have hcause : ∀ n, rejection ≠ .totalTooLarge n := by
      rintro n rfl
      exact htotal n List.mem_cons_self
    rw [h.trySet_error hb hcause]
    refine ⟨?_, rfl⟩
    cases rejection
    case invalidKey => exact .refl []
    case invalidValue => exact .refl []
    all_goals exact h

theorem Lighter.go {a b : Baggage} (h : Lighter a.entries b.entries) {leg : Leg}
    (hleg : leg ≠ .hop) (htotal : ∀ n, .setRejected (.totalTooLarge n) ∉ (leg.go b).events) :
    Lighter (leg.go a).value.entries (leg.go b).value.entries ∧
      (leg.go a).events = (leg.go b).events := by
  cases leg with
  | set p => exact h.set p htotal
  | remove key => exact ⟨h.others key, rfl⟩
  | hop => exact absurd rfl hleg

/-- The traveller stays the lighter one, and both note the same events. -/
theorem lighter_travel {a b : Baggage} (ha : a.WellFormed) (h : Lighter a.entries b.entries)
    {legs : List Leg} (htotal : ∀ n, .setRejected (.totalTooLarge n) ∉ (stay b legs).events) :
    Lighter (travel a legs).value.entries (stay b legs).value.entries ∧
      (travel a legs).events = (stay b legs).events := by
  induction legs generalizing a b with
  | nil => exact ⟨h, rfl⟩
  | cons leg legs ih =>
    rcases eq_or_ne leg .hop with rfl | hleg
    · rw [stay_hop] at htotal ⊢
      rw [travel_cons, Leg.go, Header.parse_header ha, pure_bind]
      exact ih (Baggage.wellFormed_recharge ha) ((Baggage.lighter_recharge ha.sound).trans h) htotal
    · rw [stay_cons b hleg] at htotal ⊢
      rw [travel_cons]
      simp only [Logged.events_bind, Logged.value_bind, List.mem_append, not_or] at htotal ⊢
      obtain ⟨hnext, hevents⟩ := h.go hleg fun n => (htotal n).1
      obtain ⟨hlast, hrest⟩ := ih (leg.wellFormed_go ha) hnext fun n => (htotal n).2
      exact ⟨hlast, by rw [hevents, hrest]⟩

/-- Baggage that was made by updates alone comes out of a journey exactly as if it had stayed.
Baggage that was read from a header comes out with the same pairs, as long as nothing was refused
because of a total that a hop might have made smaller. -/
theorem travel_eq_stay (legs : List Leg) :
    travel .empty legs = stay .empty legs ∧
    ∀ header, (∀ n, .setRejected (.totalTooLarge n) ∉ (stay (Header.parse header) legs).events) →
      (travel (Header.parse header) legs).value.pairs =
        (stay (Header.parse header) legs).value.pairs := by
  constructor
  · exact travel_of_isLight Baggage.isLight_empty Baggage.wellFormed_empty legs
  · intro header htotal
    obtain ⟨hlighter, _⟩ :=
      lighter_travel (Baggage.wellFormed_parse header) (.refl _) htotal
    exact hlighter.map_toPair

theorem travel_of_longer_spelling :
    (∀ n, .setRejected (.totalTooLarge n) ∉
      (stay (Header.parse "%61=1") [.hop, .set ⟨"b", "2", .empty⟩, .hop]).events) ∧
    (travel (Header.parse "%61=1") [.hop, .set ⟨"b", "2", .empty⟩, .hop]).value.pairs =
      (stay (Header.parse "%61=1") [.hop, .set ⟨"b", "2", .empty⟩, .hop]).value.pairs := by
  have hquiet :
      (stay (Header.parse "%61=1") [.hop, .set ⟨"b", "2", .empty⟩, .hop]).events = [] := by
    decide +kernel
  have htotal : ∀ n, .setRejected (.totalTooLarge n) ∉
      (stay (Header.parse "%61=1") [.hop, .set ⟨"b", "2", .empty⟩, .hop]).events := by
    intro n
    rw [hquiet]
    exact List.not_mem_nil
  exact ⟨htotal, (travel_eq_stay _).2 "%61=1" htotal⟩

end ContextBaggage
