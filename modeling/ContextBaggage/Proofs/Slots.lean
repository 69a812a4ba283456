import ContextBaggage.Scope
import Mathlib.Data.List.Find

/-!
# Slots and positions

A list of attachments says which positions are taken and with which contexts. `Holds` says that a
stack keeps just these: the slot of a taken position holds its context, all other slots but the
lowest are cleared, and the current context is the one at the highest position. Attaching and
releasing change the stack as they change the list.
-/

namespace ContextBaggage

variable {α : Type}

/-- An attachment that has not been released, with the number of its guard until that is gone. -/
structure Attachment (α : Type) where
  guard? : Option Nat
  position : Nat
  context : α

namespace Attachment
variable {live : List (Attachment α)}

/-- The highest position of some attachments; 0 if there is none. -/
def highest (live : List (Attachment α)) : Nat := live.foldr (fun a n => max a.position n) 0

def contextAt? (live : List (Attachment α)) (position : Nat) : Option α :=
  (live.find? fun a => a.position == position).map fun a => a.context

/-- The context of the highest attachment; `base` if there is none. -/
def current (base : α) (live : List (Attachment α)) : α :=
  (contextAt? live (highest live)).getD base

/-- Attachments stand at different positions, none of them at the lowest or the highest number. -/
structure Placed (live : List (Attachment α)) : Prop where
  positive : ∀ a ∈ live, 0 < a.position
  bounded : ∀ a ∈ live, a.position < positionBound
  distinct : (live.map fun a => a.position).Nodup

/-- What slot `position` of the stack has to hold. -/
def slot (base : α) (live : List (Attachment α)) (position : Nat) : Option α :=
  if position = 0 then some base else contextAt? live position

def without (position : Nat) (live : List (Attachment α)) : List (Attachment α) :=
  live.filter fun a => a.position != position

@[simp] theorem highest_cons (a : Attachment α) (live : List (Attachment α)) :
    highest (a :: live) = max a.position (highest live) := rfl

theorem le_highest {a : Attachment α} (ha : a ∈ live) : a.position ≤ highest live := by
  induction live with
  | nil => exact absurd ha List.not_mem_nil
  | cons b live ih =>
    rw [highest_cons]
    rcases List.mem_cons.mp ha with rfl | ha
    · exact Nat.le_max_left _ _
    · exact Nat.le_trans (ih ha) (Nat.le_max_right _ _)

theorem exists_highest (h : 0 < highest live) : ∃ a ∈ live, a.position = highest live := by
  induction live with
  | nil => exact absurd h (Nat.lt_irrefl 0)
  | cons b live ih =>
    rw [highest_cons] at h ⊢
    by_cases hb : highest live ≤ b.position
    · exact ⟨b, List.mem_cons_self, (Nat.max_eq_left hb).symm⟩
    · obtain ⟨a, ha, hhighest⟩ := ih (by omega)
      exact ⟨a, List.mem_cons_of_mem b ha, by omega⟩

theorem highest_le {n : Nat} (h : ∀ a ∈ live, a.position ≤ n) : highest live ≤ n := by
  by_cases hzero : highest live = 0
  · omega
  · obtain ⟨a, ha, hhighest⟩ := exists_highest (Nat.pos_of_ne_zero hzero)
    have hle := h a ha
    omega

theorem mem_without {position : Nat} {a : Attachment α} :
    a ∈ without position live ↔ a ∈ live ∧ a.position ≠ position := by
  rw [without, List.mem_filter, bne_iff_ne]

theorem contextAt?_eq_none {position : Nat} (h : ∀ a ∈ live, a.position ≠ position) :
    contextAt? live position = none := by
  rw [contextAt?, Option.map_eq_none_iff, List.find?_eq_none]
  intro a ha
  simpa using h a ha

theorem slot_of_highest_lt (base : α) {position : Nat} (h : highest live < position) :
    slot base live position = none := by
  rw [slot, if_neg (by omega)]
  apply contextAt?_eq_none
  intro a ha
  have hle := le_highest ha
  omega

theorem slot_highest (base : α) (hlive : Placed live) :
    slot base live (highest live) = some (current base live) := by
  rw [slot, current]
  split
  · next hzero =>
    have hnone : contextAt? live (highest live) = none := by
      apply contextAt?_eq_none
      intro a ha
      have hpositive := hlive.positive a ha
      omega
    rw [hnone]
    rfl
  · next hzero =>
    obtain ⟨a, ha, hposition⟩ := exists_highest (Nat.pos_of_ne_zero hzero)
    cases hcontext : contextAt? live (highest live) with
    | some cx => rfl
    | none =>
      rw [contextAt?, Option.map_eq_none_iff, List.find?_eq_none] at hcontext
      exact absurd (by simpa using hposition) (hcontext a ha)

theorem eq_current {base cx : α} (hlive : Placed live)
    (h : slot base live (highest live) = some cx) : cx = current base live := by
  rw [slot_highest base hlive, Option.some.injEq] at h
  exact h.symm

theorem slot_cons (base : α) {a : Attachment α} {position : Nat} (h : a.position ≠ position) :
    slot base (a :: live) position = slot base live position := by
  have hcontext : contextAt? (a :: live) position = contextAt? live position := by
    rw [contextAt?, List.find?_cons_of_neg (by simpa using h)]
    rfl
  rw [slot, slot, hcontext]

theorem slot_cons_self (base : α) {a : Attachment α} (h : 0 < a.position) :
    slot base (a :: live) a.position = some a.context := by
  rw [slot, if_neg (by omega), contextAt?, List.find?_cons_of_pos (by simp)]
  rfl

theorem slot_without (base : α) {position other : Nat} (h : other ≠ position) :
    slot base (without position live) other = slot base live other := by
  have hcontext : contextAt? (without position live) other = contextAt? live other := by
    rw [contextAt?, contextAt?, without, List.find?_filter]
    congr 1
    apply List.find?_congr
    intro a _
    by_cases hother : a.position = other
    · simp [hother, h]
    · simp [hother]
  rw [slot, slot, hcontext]

theorem slot_without_self (base : α) {position : Nat} (h : 0 < position) :
    slot base (without position live) position = none := by
  rw [slot, if_neg (by omega)]
  apply contextAt?_eq_none
  intro a ha
  exact (mem_without.mp ha).2

theorem highest_without {position : Nat} (h : position < highest live) :
    highest (without position live) = highest live := by
  apply Nat.le_antisymm
  · apply highest_le
    intro a ha
    exact le_highest (mem_without.mp ha).1
  · have hpositive : 0 < highest live := by omega
    obtain ⟨a, ha, hhighest⟩ := exists_highest hpositive
    have hmem : a ∈ without position live := mem_without.mpr ⟨ha, by omega⟩
    rw [← hhighest]
    exact le_highest hmem

theorem highest_without_highest (h : 0 < highest live) :
    highest (without (highest live) live) < highest live := by
  have hbelow : highest (without (highest live) live) ≤ highest live - 1 := by
    apply highest_le
    intro a ha
    obtain ⟨hmem, hne⟩ := mem_without.mp ha
    have hle := le_highest hmem
    omega
  omega

theorem placed_nil : Placed ([] : List (Attachment α)) :=
  ⟨fun _ h => absurd h List.not_mem_nil, fun _ h => absurd h List.not_mem_nil, List.nodup_nil⟩

theorem Placed.highest_lt (hlive : Placed live) : highest live < positionBound := by
  by_cases hzero : highest live = 0
  · rw [hzero]
    decide
  · obtain ⟨a, ha, hhighest⟩ := exists_highest (Nat.pos_of_ne_zero hzero)
    rw [← hhighest]
    exact hlive.bounded a ha

theorem Placed.cons (hlive : Placed live) {a : Attachment α}
    (ha : a.position = highest live + 1) (hbound : a.position < positionBound) :
    Placed (a :: live) where
  positive := by
    intro b hb
    rcases List.mem_cons.mp hb with rfl | hb
    · omega
    · exact hlive.positive b hb
  bounded := by
    intro b hb
    rcases List.mem_cons.mp hb with rfl | hb
    · exact hbound
    · exact hlive.bounded b hb
  distinct := by
    rw [List.map_cons, List.nodup_cons]
    refine ⟨?_, hlive.distinct⟩
    intro hmem
    obtain ⟨b, hb, hposition⟩ := List.mem_map.mp hmem
    have hle := le_highest hb
    omega

theorem Placed.without (hlive : Placed live) (position : Nat) :
    Placed (without position live) where
  positive := fun a ha => hlive.positive a (mem_without.mp ha).1
  bounded := fun a ha => hlive.bounded a (mem_without.mp ha).1
  distinct := hlive.distinct.sublist (List.filter_sublist.map _)

/-- The attachment without its guard, if that has this number. -/
def forget (guard : Nat) (a : Attachment α) : Attachment α :=
  if a.guard? = some guard then { a with guard? := none } else a

theorem position_forget (guard : Nat) (a : Attachment α) :
    (a.forget guard).position = a.position := by
  unfold forget
  split <;> rfl

theorem context_forget (guard : Nat) (a : Attachment α) :
    (a.forget guard).context = a.context := by
  unfold forget
  split <;> rfl

theorem highest_map_forget (guard : Nat) (live : List (Attachment α)) :
    highest (live.map (forget guard)) = highest live := by
  induction live with
  | nil => rfl
  | cons a live ih => rw [List.map_cons, highest_cons, highest_cons, position_forget, ih]

theorem contextAt?_map_forget (guard : Nat) (live : List (Attachment α)) (position : Nat) :
    contextAt? (live.map (forget guard)) position = contextAt? live position := by
  have hcontext : (fun a => a.context) ∘ forget guard = fun a : Attachment α => a.context :=
    funext (context_forget guard)
  have hposition : (fun a => a.position == position) ∘ forget guard =
      fun a : Attachment α => a.position == position := by
    funext a
    rw [Function.comp_apply, position_forget]
  rw [contextAt?, contextAt?, List.find?_map, Option.map_map, hcontext, hposition]

theorem Placed.map_forget (hlive : Placed live) (guard : Nat) :
    Placed (live.map (forget guard)) where
  positive := by
    intro b hb
    obtain ⟨a, ha, rfl⟩ := List.mem_map.mp hb
    rw [position_forget]
    exact hlive.positive a ha
  bounded := by
    intro b hb
    obtain ⟨a, ha, rfl⟩ := List.mem_map.mp hb
    rw [position_forget]
    exact hlive.bounded a ha
  distinct := by
    have hpositions : (fun a => a.position) ∘ forget guard = fun a : Attachment α => a.position :=
      funext (position_forget guard)
    rw [List.map_map, hpositions]
    exact hlive.distinct

end Attachment

namespace Attachments

/-- The stack holds the contexts of the attachments, each in its slot, and nothing else. -/
structure Holds (base : α) (live : List (Attachment α)) (s : Attachments α) : Prop where
  height : s.height = Attachment.highest live
  saved : ∀ p < s.height, s.saved[p]? = some (Attachment.slot base live p)
  current : s.current = Attachment.current base live

theorem popWhile_isNone {saved : Array (Option α)} {i : Nat} {cx : α}
    (hi : saved[i]? = some (some cx)) (hnone : ∀ j < saved.size, i < j → saved[j]? = some none) :
    saved.popWhile Option.isNone = saved.extract 0 (i + 1) := by
  have hlt : i < saved.size := (Array.getElem?_eq_some_iff.mp hi).1
  fun_induction Array.popWhile with
  | case1 saved hsize hlast ih =>
    have hne : i ≠ saved.size - 1 := by
      rintro rfl
      rw [Array.getElem?_eq_getElem (by omega), Option.some.injEq] at hi
      rw [hi] at hlast
      cases hlast
    have hpop : ∀ j < saved.size - 1, saved.pop[j]? = saved[j]? := by
      intro j hj
      rw [Array.getElem?_pop, if_pos hj]
    have hi' : saved.pop[i]? = some (some cx) := by
      rw [hpop i (by omega)]
      exact hi
    have hnone' : ∀ j < saved.pop.size, i < j → saved.pop[j]? = some none := by
      intro j hj hij
      rw [Array.size_pop] at hj
      rw [hpop j hj]
      exact hnone j (by omega) hij
    rw [ih hi' hnone' (by rw [Array.size_pop]; omega), ← Array.extract_eq_pop rfl,
      Array.extract_extract]
    congr 1
    omega
  | case2 saved hsize hlast =>
    have hlt' : i < saved.size := hlt
    have htop : i + 1 = saved.size := by
      by_contra hbelow
      have hclear := hnone (saved.size - 1) (by omega) (by omega)
      rw [Array.getElem?_eq_getElem (by omega), Option.some.injEq] at hclear
      rw [hclear] at hlast
      exact hlast rfl
    rw [htop, Array.extract_size]
  | case3 saved hsize => omega

/-- Releasing the highest attachment goes down to the highest slot that has not been cleared. -/
theorem uncover_eq {s : Attachments α} {i : Nat} {cx : α} (hi : s.saved[i]? = some (some cx))
    (hnone : ∀ j < s.height, i < j → s.saved[j]? = some none) :
    s.uncover = ⟨cx, s.saved.extract 0 i⟩ := by
  have hlt : i < s.saved.size := (Array.getElem?_eq_some_iff.mp hi).1
  have hkept := popWhile_isNone hi hnone
  have hsize : (s.saved.extract 0 (i + 1)).size = i + 1 := by
    rw [Array.size_extract]
    omega
  have hback : (s.saved.extract 0 (i + 1)).back? = some (some cx) := by
    rw [Array.back?_eq_getElem?, hsize, Array.getElem?_extract]
    simpa [hlt] using hi
  have hpop : (s.saved.extract 0 (i + 1)).pop = s.saved.extract 0 i := by
    have hlast : i = (s.saved.extract 0 (i + 1)).size - 1 := by omega
    rw [← Array.extract_eq_pop hlast, Array.extract_extract]
    congr 1
    omega
  unfold uncover
  simp only [hkept, hback, hpop]

theorem release_eq {s : Attachments α} {position : UInt16} (hpositive : 0 < position.toNat)
    (hle : position.toNat ≤ s.height) (hheight : s.height < positionBound) :
    s.release position =
      pure (if position.toNat = s.height then s.uncover else s.clear position) := by
  have hbound : positionBound = 65535 := rfl
  have hofNat : (UInt16.ofNat s.height).toNat = s.height := by
    rw [UInt16.toNat_ofNat', Nat.mod_eq_of_lt (by omega)]
  have hinside : ¬(position = 0 ∨ position = .ofNat positionBound) := by
    rintro (rfl | rfl)
    · exact absurd hpositive (by decide)
    · have htop : (UInt16.ofNat positionBound).toNat = 65535 := by decide
      omega
  have hnotAbove : ¬UInt16.ofNat s.height < position := by
    rw [UInt16.lt_iff_toNat_lt, hofNat]
    omega
  have htop : position = .ofNat s.height ↔ position.toNat = s.height := by
    rw [← UInt16.toNat_inj, hofNat]
  unfold release
  simp only [if_neg hinside, if_neg hnotAbove, htop]
  split <;> rfl

namespace Holds
variable {base : α} {live : List (Attachment α)} {s : Attachments α}

theorem start (base : α) : Holds base [] (.start base) where
  height := rfl
  saved := fun p hp => absurd hp (Nat.not_lt_zero p)
  current := rfl

theorem attach (h : Holds base live s) (hlive : Attachment.Placed live) {a : Attachment α}
    (ha : a.position = s.height + 1) (hbound : a.position < positionBound) :
    Holds base (a :: live) (s.attach a.context) where
  height := by
    rw [Attachment.highest_cons, ← h.height, height_attach, ha]
    exact (Nat.max_eq_left (Nat.le_succ _)).symm
  saved := by
    intro p hp
    rw [height_attach] at hp
    rw [Attachments.attach, Array.getElem?_push, Attachment.slot_cons base (by omega)]
    split
    · next htop =>
      -- the context that is covered goes to the slot of its own position
      have hcurrent := Attachment.slot_highest base hlive
      rw [← h.height, ← h.current] at hcurrent
      have hp : p = s.height := htop
      rw [hp, hcurrent]
    · next htop =>
      have hbelow : p ≠ s.height := htop
      exact h.saved p (by omega)
  current := by
    have hhighest : Attachment.highest (a :: live) = a.position := by
      rw [Attachment.highest_cons, ← h.height]
      omega
    have hlive' := hlive.cons (h.height ▸ ha) hbound
    apply Attachment.eq_current hlive'
    rw [hhighest]
    exact Attachment.slot_cons_self base (hlive'.positive a List.mem_cons_self)

theorem clear (h : Holds base live s) (hlive : Attachment.Placed live)
    {position : UInt16} (hposition : 0 < position.toNat) (hbelow : position.toNat < s.height) :
    Holds base (Attachment.without position.toNat live) (s.clear position) := by
  have hhighest : Attachment.highest (Attachment.without position.toNat live) = s.height := by
    rw [h.height]
    exact Attachment.highest_without (h.height ▸ hbelow)
  refine ⟨?_, ?_, ?_⟩
  · rw [hhighest, height_clear]
  · intro p hp
    rw [height_clear] at hp
    rw [Attachments.clear]
    by_cases hp' : p = position.toNat
    · rw [hp', Attachment.slot_without_self base hposition]
      exact Array.getElem?_setIfInBounds_self_of_lt hbelow
    · rw [Attachment.slot_without base hp', Array.getElem?_setIfInBounds_ne (Ne.symm hp')]
      exact h.saved p hp
  · apply Attachment.eq_current (hlive.without _)
    rw [hhighest, Attachment.slot_without base (by omega), h.height]
    have hcurrent := Attachment.slot_highest base hlive
    rw [← h.current] at hcurrent
    exact hcurrent

theorem uncover (h : Holds base live s) (hlive : Attachment.Placed live)
    (hheight : 0 < s.height) : Holds base (Attachment.without s.height live) s.uncover := by
  have hlive' := hlive.without s.height
  have hnext : Attachment.highest (Attachment.without s.height live) < s.height := by
    rw [h.height]
    exact Attachment.highest_without_highest (h.height ▸ hheight)
  -- below the released attachment the slots tell of those that are left
  have hslot : ∀ p < s.height,
      s.saved[p]? = some (Attachment.slot base (Attachment.without s.height live) p) := by
    intro p hp
    rw [Attachment.slot_without base (by omega)]
    exact h.saved p hp
  have hsaved := hslot _ hnext
  rw [Attachment.slot_highest base hlive'] at hsaved
  have hcleared : ∀ p < s.height, Attachment.highest (Attachment.without s.height live) < p →
      s.saved[p]? = some none := by
    intro p hp habove
    rw [hslot p hp, Attachment.slot_of_highest_lt base habove]
  rw [uncover_eq hsaved hcleared]
  refine ⟨?_, ?_, rfl⟩
  · rw [Attachments.height, Array.size_extract]
    exact Nat.min_eq_left (Nat.le_of_lt hnext)
  · intro p hp
    rw [Attachments.height, Array.size_extract] at hp
    rw [Array.getElem?_extract, if_pos (by omega), Nat.zero_add]
    exact hslot p (by omega)

theorem map_forget (h : Holds base live s) (guard : Nat) :
    Holds base (live.map (Attachment.forget guard)) s where
  height := by
    rw [Attachment.highest_map_forget]
    exact h.height
  saved := by
    intro p hp
    rw [Attachment.slot, Attachment.contextAt?_map_forget]
    exact h.saved p hp
  current := by
    rw [Attachment.current, Attachment.highest_map_forget, Attachment.contextAt?_map_forget]
    exact h.current

theorem release (h : Holds base live s) (hlive : Attachment.Placed live) {position : UInt16}
    (hposition : ∃ a ∈ live, a.position = position.toNat) :
    ∃ next, s.release position = pure next ∧
      Holds base (Attachment.without position.toNat live) next := by
  obtain ⟨a, ha, hposition⟩ := hposition
  have hpositive := hlive.positive a ha
  have hle := Attachment.le_highest ha
  have hheight := hlive.highest_lt
  rw [← h.height] at hle hheight
  rw [release_eq (by omega) (by omega) hheight]
  refine ⟨_, rfl, ?_⟩
  split
  · next htop =>
    rw [htop]
    exact h.uncover hlive (by omega)
  · next htop => exact h.clear hlive (by omega) (by omega)

end Holds

end Attachments

end ContextBaggage
