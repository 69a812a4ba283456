import ContextBaggage.Proofs.Slots
import Mathlib.Data.List.Nodup

/-!
# The ledger of attachments

A ledger lists the attachments that have not been released, and no saved contexts and no cleared
slots. Each attachment is listed with the number of its guard until that is gone. The current
context is the one listed with the highest position, and the next attachment stands one above that.

`Scope.Follows` relates a scope to a ledger. Every request preserves it, so after any requests
whatsoever the scope can be told from its ledger.
-/

namespace ContextBaggage

variable {α : Type}

namespace Attachment
variable {live : List (Attachment α)}

def released (guard : Nat) (live : List (Attachment α)) : List (Attachment α) :=
  live.filter fun a => a.guard? != some guard

/-- The guard still guards an attachment, which stands at the position. -/
def Guarded (live : List (Attachment α)) (guard position : Nat) : Prop :=
  ∃ a ∈ live, a.guard? = some guard ∧ a.position = position

theorem guard?_forget {guard other : Nat} {a : Attachment α} :
    (a.forget guard).guard? = some other ↔ other ≠ guard ∧ a.guard? = some other := by
  unfold forget
  split
  · next h =>
    rw [h]
    simp [eq_comm]
  · next h =>
    constructor
    · intro hother
      refine ⟨?_, hother⟩
      rintro rfl
      exact h hother
    · exact And.right

theorem guarded_map_forget {guard other position : Nat} :
    Guarded (live.map (forget guard)) other position ↔
      other ≠ guard ∧ Guarded live other position := by
  constructor
  · rintro ⟨b, hb, hguard, hposition⟩
    obtain ⟨a, ha, rfl⟩ := List.mem_map.mp hb
    rw [guard?_forget] at hguard
    rw [position_forget] at hposition
    exact ⟨hguard.1, a, ha, hguard.2, hposition⟩
  · rintro ⟨hne, a, ha, hguard, hposition⟩
    refine ⟨a.forget guard, List.mem_map_of_mem ha, guard?_forget.mpr ⟨hne, hguard⟩, ?_⟩
    rw [position_forget]
    exact hposition

theorem guarded_released {guard other position : Nat} :
    Guarded (released guard live) other position ↔ other ≠ guard ∧ Guarded live other position := by
  constructor
  · rintro ⟨a, ha, hguard, hposition⟩
    obtain ⟨hmem, hkept⟩ := List.mem_filter.mp ha
    refine ⟨?_, a, hmem, hguard, hposition⟩
    rintro rfl
    simp [hguard] at hkept
  · rintro ⟨hne, a, ha, hguard, hposition⟩
    refine ⟨a, List.mem_filter.mpr ⟨ha, ?_⟩, hguard, hposition⟩
    simpa [hguard] using hne

theorem guarded_cons {a : Attachment α} {guard position : Nat} :
    Guarded (a :: live) guard position ↔
      a.guard? = some guard ∧ a.position = position ∨ Guarded live guard position := by
  simp [Guarded]

theorem released_eq_without (hlive : Placed live) {guard position : Nat}
    (h : Guarded live guard position)
    (hunique : ∀ other, Guarded live guard other → other = position) :
    released guard live = Attachment.without position live := by
  apply List.filter_congr
  intro a ha
  rw [Bool.eq_iff_iff, bne_iff_ne, bne_iff_ne, not_iff_not]
  constructor
  · intro hguard
    exact hunique a.position ⟨a, ha, hguard, rfl⟩
  · intro hposition
    obtain ⟨b, hb, hguard, hposition'⟩ := h
    have hab : a = b :=
      List.inj_on_of_nodup_map hlive.distinct ha hb (hposition.trans hposition'.symm)
    rw [hab]
    exact hguard

theorem released_eq_self {guard : Nat} (h : ∀ position, ¬Guarded live guard position) :
    released guard live = live := by
  apply List.filter_eq_self.mpr
  intro a ha
  rw [bne_iff_ne]
  intro hguard
  exact h a.position ⟨a, ha, hguard, rfl⟩

end Attachment

structure Ledger (α : Type) where
  /-- The number of guards given so far. -/
  issued : Nat
  live : List (Attachment α)

namespace Ledger

def empty : Ledger α := ⟨0, []⟩

def attach (l : Ledger α) (cx : α) : Logged (Ledger α) :=
  if Attachment.highest l.live = 65534 then ⟨⟨l.issued + 1, l.live⟩, [.attachFailed]⟩
  else pure ⟨l.issued + 1, ⟨some l.issued, Attachment.highest l.live + 1, cx⟩ :: l.live⟩

def drop (l : Ledger α) (guard : Nat) : Ledger α :=
  ⟨l.issued, Attachment.released guard l.live⟩

def forget (l : Ledger α) (guard : Nat) : Ledger α :=
  ⟨l.issued, l.live.map (Attachment.forget guard)⟩

def answer (l : Ledger α) : Scope.Request α → Logged (Ledger α)
  | .attach cx => l.attach cx
  | .drop guard => pure (l.drop guard)
  | .forget guard => pure (l.forget guard)

def run (l : Ledger α) (requests : List (Scope.Request α)) : Logged (Ledger α) :=
  requests.foldlM answer l

theorem run_cons (l : Ledger α) (request : Scope.Request α) (requests : List (Scope.Request α)) :
    l.run (request :: requests) = l.answer request >>= fun next => next.run requests := rfl

end Ledger

namespace Scope

theorem run_cons (s : Scope α) (request : Request α) (requests : List (Request α)) :
    s.run (request :: requests) = s.answer request >>= fun next => next.run requests := rfl

theorem run_append (s : Scope α) (requests more : List (Request α)) :
    s.run (requests ++ more) = s.run requests >>= fun next => next.run more :=
  List.foldlM_append

/-- The guards that are held are those of the attachments listed with a guard. -/
structure Follows (base : α) (s : Scope α) (l : Ledger α) : Prop where
  issued : s.guards.size = l.issued
  placed : Attachment.Placed l.live
  holds : s.attachments.Holds base l.live
  guards : ∀ guard position, s.guard? guard = some (.attached position) ↔
    Attachment.Guarded l.live guard position.toNat

theorem guard?_push (attachments : Attachments α) (guards : Array (Option Guard)) (x : Guard)
    (guard : Nat) : guard? ⟨attachments, guards.push (some x)⟩ guard =
      if guard = guards.size then some x else guard? ⟨attachments, guards⟩ guard := by
  rw [guard?, guard?, Array.getElem?_push]
  split <;> rfl

theorem guard?_setIfInBounds (attachments : Attachments α) (guards : Array (Option Guard))
    (gone guard : Nat) : guard? ⟨attachments, guards.setIfInBounds gone none⟩ guard =
      if guard = gone then none else guard? ⟨attachments, guards⟩ guard := by
  rw [guard?, guard?, Array.getElem?_setIfInBounds]
  by_cases h : gone = guard
  · rw [if_pos h, if_pos h.symm]
    split <;> rfl
  · rw [if_neg h, if_neg (Ne.symm h)]

namespace Follows
variable {base : α} {s : Scope α} {l : Ledger α}

theorem start (base : α) : Follows base (.start base) .empty where
  issued := rfl
  placed := Attachment.placed_nil
  holds := .start base
  guards := by
    intro guard position
    constructor
    · intro h
      cases h
    · rintro ⟨a, ha, _⟩
      exact absurd ha List.not_mem_nil

theorem attached_of_guarded (h : Follows base s l) {guard position : Nat}
    (hguarded : Attachment.Guarded l.live guard position) :
    ∃ p : UInt16, p.toNat = position ∧ s.guard? guard = some (.attached p) := by
  obtain ⟨a, ha, hguard, hposition⟩ := hguarded
  have hbound : a.position < 65535 := h.placed.bounded a ha
  have hofNat : (UInt16.ofNat a.position).toNat = a.position := by
    rw [UInt16.toNat_ofNat', Nat.mod_eq_of_lt (by omega)]
  refine ⟨.ofNat a.position, hofNat.trans hposition, ?_⟩
  exact (h.guards guard _).mpr ⟨a, ha, hguard, hofNat.symm⟩

theorem guard_lt (h : Follows base s l) {guard position : Nat}
    (hguarded : Attachment.Guarded l.live guard position) : guard < s.guards.size := by
  obtain ⟨p, _, hguard⟩ := h.attached_of_guarded hguarded
  by_contra hlt
  rw [guard?, Array.getElem?_eq_none (by omega)] at hguard
  cases hguard

theorem guards_without (h : Follows base s l) {gone guard : Nat} {position : UInt16}
    {attachments : Attachments α} :
    guard? ⟨attachments, s.guards.setIfInBounds gone none⟩ guard = some (.attached position) ↔
      guard ≠ gone ∧ Attachment.Guarded l.live guard position.toNat := by
  rw [guard?_setIfInBounds, ← h.guards]
  split
  · next hgone => simp [hgone]
  · next hother => simp [hother, guard?]

theorem forget (h : Follows base s l) (guard : Nat) :
    Follows base (s.forget guard) (l.forget guard) where
  issued := (Array.size_setIfInBounds ..).trans h.issued
  placed := h.placed.map_forget guard
  holds := h.holds.map_forget guard
  guards := fun _ _ => h.guards_without.trans Attachment.guarded_map_forget.symm

theorem drop (h : Follows base s l) (guard : Nat) :
    (s.drop guard).events = [] ∧ Follows base (s.drop guard).value (l.drop guard) := by
  have hgone : ∀ {attachments}, Attachment.Placed (Attachment.released guard l.live) →
      attachments.Holds base (Attachment.released guard l.live) →
      Follows base ⟨attachments, s.guards.setIfInBounds guard none⟩ (l.drop guard) := by
    intro attachments hplaced hholds
    refine ⟨(Array.size_setIfInBounds ..).trans h.issued, hplaced, hholds, ?_⟩
    exact fun _ _ => h.guards_without.trans Attachment.guarded_released.symm
  unfold Scope.drop
  split
  · next position hguard =>
    have hguarded := (h.guards guard position).mp hguard
    have hreleased : Attachment.released guard l.live =
        Attachment.without position.toNat l.live := by
      apply Attachment.released_eq_without h.placed hguarded
      intro other hother
      obtain ⟨p, hp, hguard'⟩ := h.attached_of_guarded hother
      rw [hguard, Option.some.injEq, Guard.attached.injEq] at hguard'
      rw [← hp, hguard']
    obtain ⟨a, ha, _, hposition⟩ := hguarded
    obtain ⟨next, hrelease, hholds⟩ := h.holds.release h.placed ⟨a, ha, hposition⟩
    rw [hrelease, pure_bind]
    rw [← hreleased] at hholds
    have hplaced := h.placed.without position.toNat
    rw [← hreleased] at hplaced
    exact ⟨rfl, hgone hplaced hholds⟩
  · next hnone =>
    have hreleased : Attachment.released guard l.live = l.live := by
      apply Attachment.released_eq_self
      intro position hguarded
      obtain ⟨p, _, hguard⟩ := h.attached_of_guarded hguarded
      exact hnone p hguard
    refine ⟨rfl, hgone ?_ ?_⟩
    · rw [hreleased]
      exact h.placed
    · rw [hreleased]
      exact h.holds

theorem isFull_iff (h : Follows base s l) :
    s.attachments.isFull = true ↔ Attachment.highest l.live = 65534 := by
  have hbound : positionBound = 65535 := rfl
  have hlt := h.placed.highest_lt
  rw [Attachments.isFull, decide_eq_true_iff, h.holds.height]
  omega

theorem toNat_nextPosition (h : Follows base s l) :
    s.attachments.nextPosition.toNat = Attachment.highest l.live + 1 := by
  have hlt : Attachment.highest l.live < 65535 := h.placed.highest_lt
  rw [Attachments.nextPosition, h.holds.height, UInt16.toNat_ofNat', Nat.mod_eq_of_lt (by omega)]

theorem attach_full (h : Follows base s l) (hfull : Attachment.highest l.live = 65534) (cx : α) :
    s.attach cx = ⟨⟨s.attachments, s.guards.push (some .refused)⟩, [.attachFailed]⟩ := by
  rw [Scope.attach, if_pos (h.isFull_iff.mpr hfull)]

theorem attach_room (h : Follows base s l) (hroom : Attachment.highest l.live ≠ 65534) (cx : α) :
    s.attach cx = pure ⟨s.attachments.attach cx,
      s.guards.push (some (.attached s.attachments.nextPosition))⟩ := by
  rw [Scope.attach, if_neg (mt h.isFull_iff.mp hroom)]

theorem not_guarded_size (h : Follows base s l) (position : Nat) :
    ¬Attachment.Guarded l.live s.guards.size position :=
  fun hguarded => Nat.lt_irrefl _ (h.guard_lt hguarded)

theorem attach (h : Follows base s l) (cx : α) :
    (s.attach cx).events = (l.attach cx).events ∧
      Follows base (s.attach cx).value (l.attach cx).value := by
  have hissued : ∀ x, (s.guards.push x).size = l.issued + 1 := by
    intro x
    rw [Array.size_push, h.issued]
  unfold Ledger.attach
  split
  · next hfull =>
    rw [h.attach_full hfull]
    refine ⟨rfl, hissued _, h.placed, h.holds, ?_⟩
    intro guard position
    rw [guard?_push]
    split
    · next hnew =>
      rw [hnew]
      simp [h.not_guarded_size]
    · exact h.guards guard position
  · next hroom =>
    have hbelow : Attachment.highest l.live < positionBound := h.placed.highest_lt
    have hbound : Attachment.highest l.live + 1 < positionBound := by
      have hmax : positionBound = 65535 := rfl
      omega
    have hposition : Attachment.highest l.live + 1 = s.attachments.height + 1 := by
      rw [h.holds.height]
    rw [h.attach_room hroom]
    refine ⟨rfl, hissued _, h.placed.cons rfl hbound, h.holds.attach h.placed hposition hbound, ?_⟩
    intro guard position
    rw [Logged.value_pure, Logged.value_pure, guard?_push, Attachment.guarded_cons]
    split
    · next hnew =>
      have hnext := h.toNat_nextPosition
      rw [hnew, h.issued, ← hnext]
      simp [← h.issued, h.not_guarded_size, UInt16.toNat_inj]
    · next hold =>
      have hother : some l.issued ≠ some guard := by
        rw [← h.issued]
        simpa using Ne.symm hold
      simp only [hother, false_and, false_or]
      exact h.guards guard position

theorem answer (h : Follows base s l) (request : Request α) :
    (s.answer request).events = (l.answer request).events ∧
      Follows base (s.answer request).value (l.answer request).value := by
  cases request with
  | attach cx => exact h.attach cx
  | drop guard => exact h.drop guard
  | forget guard => exact ⟨rfl, h.forget guard⟩

theorem run (h : Follows base s l) (requests : List (Request α)) :
    (s.run requests).events = (l.run requests).events ∧
      Follows base (s.run requests).value (l.run requests).value := by
  induction requests generalizing s l with
  | nil => exact ⟨rfl, h⟩
  | cons request requests ih =>
    obtain ⟨hevents, hnext⟩ := h.answer request
    obtain ⟨hrest, hlast⟩ := ih hnext
    refine ⟨?_, hlast⟩
    rw [run_cons, Ledger.run_cons, Logged.events_bind, Logged.events_bind, hevents, hrest]

end Follows

/-- The guard has been given, and has no attachment to release. -/
def GuardsNothing (s : Scope α) (guard : Nat) : Prop :=
  guard < s.guards.size ∧ ∀ position, s.guard? guard ≠ some (.attached position)

theorem guards_attach (s : Scope α) (cx : α) :
    ∃ x, (s.attach cx).value.guards = s.guards.push (some x) := by
  unfold attach
  split
  · exact ⟨_, rfl⟩
  · exact ⟨_, rfl⟩

theorem guards_drop (s : Scope α) (guard : Nat) :
    (s.drop guard).value.guards = s.guards.setIfInBounds guard none := by
  unfold drop
  split <;> rfl

namespace GuardsNothing
variable {s : Scope α} {guard : Nat}

theorem drop_eq (h : s.GuardsNothing guard) : s.drop guard = pure (s.forget guard) := by
  unfold drop
  split
  · next position hguard => exact absurd hguard (h.2 position)
  · rfl

theorem setIfInBounds (h : s.GuardsNothing guard) (attachments : Attachments α) (gone : Nat) :
    GuardsNothing ⟨attachments, s.guards.setIfInBounds gone none⟩ guard := by
  refine ⟨?_, ?_⟩
  · rw [Array.size_setIfInBounds]
    exact h.1
  · intro position
    rw [guard?_setIfInBounds]
    split
    · exact nofun
    · exact h.2 position

theorem push (h : s.GuardsNothing guard) (attachments : Attachments α) (x : Guard) :
    GuardsNothing ⟨attachments, s.guards.push (some x)⟩ guard := by
  have hlt := h.1
  refine ⟨?_, ?_⟩
  · rw [Array.size_push]
    omega
  · intro position
    rw [guard?_push, if_neg (by omega)]
    exact h.2 position

theorem answer (h : s.GuardsNothing guard) (request : Request α) :
    (s.answer request).value.GuardsNothing guard := by
  cases request with
  | attach cx =>
    obtain ⟨x, hguards⟩ := s.guards_attach cx
    have hnext := h.push (s.attach cx).value.attachments x
    rw [← hguards] at hnext
    exact hnext
  | drop gone =>
    have hnext := h.setIfInBounds (s.drop gone).value.attachments gone
    rw [← guards_drop] at hnext
    exact hnext
  | forget gone => exact h.setIfInBounds s.attachments gone

theorem run (h : s.GuardsNothing guard) (requests : List (Request α)) :
    (s.run requests).value.GuardsNothing guard := by
  induction requests generalizing s with
  | nil => exact h
  | cons request requests ih => exact ih (h.answer request)

end GuardsNothing

theorem Follows.guardsNothing {base : α} {s : Scope α} {l : Ledger α} (h : Follows base s l)
    (hfull : Attachment.highest l.live = 65534) (cx : α) :
    (s.attach cx).value.GuardsNothing s.guards.size := by
  rw [h.attach_full hfull]
  refine ⟨?_, ?_⟩
  · rw [Array.size_push]
    omega
  · intro position
    rw [guard?_push, if_pos rfl]
    exact nofun

/-- After any requests the current context is the one with the highest position in the ledger, and
an attachment is refused exactly when the last position is taken. Its guard then never releases
anything, however late it is dropped. -/
theorem run_eq_ledger (base : α) (requests : List (Request α)) :
    let s := ((start base).run requests).value
    let live := (Ledger.empty.run requests).value.live
    ((start base).run requests).events = (Ledger.empty.run requests).events ∧
    s.current = Attachment.current base live ∧
    (live.map fun a => a.position).Nodup ∧ Attachment.highest live ≤ 65534 ∧
    ∀ cx,
      if Attachment.highest live = 65534 then
        (s.attach cx).events = [.attachFailed] ∧
        (s.attach cx).value.attachments = s.attachments ∧
        ∀ more,
          let later := ((s.attach cx).value.run more).value
          (later.drop s.guards.size).events = [] ∧
          (later.drop s.guards.size).value.attachments = later.attachments
      else
        (s.attach cx).events = [] ∧
        (s.attach cx).value.current = cx ∧
        ∃ position, (s.attach cx).value.guard? s.guards.size = some (.attached position) ∧
          position.toNat = Attachment.highest live + 1 := by
  intro s live
  obtain ⟨hevents, h⟩ := (Follows.start base).run requests
  have hlt : Attachment.highest live < 65535 := h.placed.highest_lt
  refine ⟨hevents, h.holds.current, h.placed.distinct, by omega, ?_⟩
  intro cx
  split
  · next hfull =>
    have hrefused : s.attach cx = _ := h.attach_full hfull cx
    refine ⟨by rw [hrefused], by rw [hrefused], ?_⟩
    intro more later
    have hdrop : later.drop s.guards.size = pure (later.forget s.guards.size) :=
      ((h.guardsNothing hfull cx).run more).drop_eq
    rw [hdrop]
    exact ⟨rfl, rfl⟩
  · next hroom =>
    rw [h.attach_room hroom]
    refine ⟨rfl, rfl, s.attachments.nextPosition, ?_, h.toNat_nextPosition⟩
    rw [Logged.value_pure, guard?_push, if_pos rfl]

example : ((start 0).run [.attach 1, .attach 2, .drop 0]).value.current = 2 ∧
    ((start 0).run [.attach 1, .attach 2, .drop 0, .drop 1]).value.current = 0 := by
  decide +kernel

end Scope

end ContextBaggage
