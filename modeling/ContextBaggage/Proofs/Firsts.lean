import Mathlib.Data.List.Basic

/-!
# Each member once

The fields of several propagators and the names in a list are kept without repetition, each member
at the place where it first stands. That fixes the list, so it does not matter whether repetitions
are taken out of the parts of a list as well or of the whole alone.
-/

namespace ContextBaggage

variable {α : Type} [BEq α] {xs ys zs : List α}

/-- `ys` lists what `xs` has: every member once, in the order in which they first stand in `xs`. -/
structure Firsts (xs ys : List α) : Prop where
  nodup : ys.Nodup
  mem_iff : ∀ a, a ∈ ys ↔ a ∈ xs
  ordered : ys.Pairwise fun a b => xs.idxOf a < xs.idxOf b

theorem Firsts.unique (hy : Firsts xs ys) (hz : Firsts xs zs) : ys = zs := by
  have hperm : ys.Perm zs := by
    apply (List.perm_ext_iff_of_nodup hy.nodup hz.nodup).mpr
    intro a
    rw [hy.mem_iff, hz.mem_iff]
  apply List.Perm.eq_of_pairwise _ hy.ordered hz.ordered hperm
  intro a b _ _ hab hba
  omega

variable [LawfulBEq α]

theorem filter_eraseDups (p : α → Bool) (xs : List α) :
    xs.eraseDups.filter p = (xs.filter p).eraseDups := by
  -- what is left when `a` is taken out of `rest` is no part of `rest`, so this goes by length
  match xs with
  | [] => rfl
  | a :: rest =>
    rw [List.eraseDups_cons]
    by_cases ha : p a = true
    · rw [List.filter_cons_of_pos ha, List.filter_cons_of_pos ha, List.eraseDups_cons,
        filter_eraseDups p (rest.filter fun b => !b == a), List.filter_filter, List.filter_filter]
      simp only [Bool.and_comm]
    · have hrest : (rest.filter fun b => !b == a).filter p = rest.filter p := by
        rw [List.filter_filter]
        apply List.filter_congr
        intro b _
        by_cases hb : b = a
        · simp [hb, ha]
        · simp [hb]
      rw [List.filter_cons_of_neg ha, List.filter_cons_of_neg ha, filter_eraseDups, hrest]
termination_by xs.length
decreasing_by all_goals exact Nat.lt_succ_of_le (List.length_filter_le _ _)

/-- The first member is taken out of what is kept of the others. -/
theorem eraseDups_cons_eq (a : α) (xs : List α) :
    (a :: xs).eraseDups = a :: xs.eraseDups.filter fun b => !b == a := by
  rw [List.eraseDups_cons, filter_eraseDups]

theorem firsts_eraseDups (xs : List α) : Firsts xs xs.eraseDups := by
  induction xs with
  | nil => exact ⟨.nil, fun _ => .rfl, .nil⟩
  | cons a xs ih =>
    have hrest : ∀ {b}, b ∈ xs.eraseDups.filter (fun b => !b == a) → a ≠ b := by
      rintro b hb rfl
      simpa using (List.mem_filter.mp hb).2
    refine ⟨?_, fun b => List.mem_eraseDups, ?_⟩
    · rw [eraseDups_cons_eq, List.nodup_cons]
      exact ⟨fun ha => hrest ha rfl, ih.nodup.filter _⟩
    · rw [eraseDups_cons_eq, List.pairwise_cons]
      constructor
      · intro b hb
        rw [List.idxOf_cons_self, List.idxOf_cons_ne xs (hrest hb)]
        exact Nat.succ_pos _
      · apply (ih.ordered.filter _).imp_of_mem
        intro b c hb hc hbc
        rw [List.idxOf_cons_ne xs (hrest hb), List.idxOf_cons_ne xs (hrest hc)]
        exact Nat.succ_lt_succ hbc

theorem eraseDups_eraseDups (xs : List α) : xs.eraseDups.eraseDups = xs.eraseDups := by
  induction xs with
  | nil => rfl
  | cons a xs ih =>
    rw [eraseDups_cons_eq, eraseDups_cons_eq, ← filter_eraseDups, ih, List.filter_filter]
    simp only [Bool.and_self]

theorem eraseDups_append_eraseDups (xs ys : List α) :
    (xs ++ ys.eraseDups).eraseDups = (xs ++ ys).eraseDups := by
  rw [List.eraseDups_append, List.eraseDups_append, List.removeAll, List.removeAll,
    ← filter_eraseDups, ← filter_eraseDups, eraseDups_eraseDups]

theorem eraseDups_eraseDups_append (xs ys : List α) :
    (xs.eraseDups ++ ys).eraseDups = (xs ++ ys).eraseDups := by
  have helem : ∀ a, xs.eraseDups.elem a = xs.elem a := by
    intro a
    rw [Bool.eq_iff_iff, List.elem_iff, List.elem_iff, List.mem_eraseDups]
  rw [List.eraseDups_append, List.eraseDups_append, List.removeAll, List.removeAll,
    eraseDups_eraseDups]
  simp only [helem]

end ContextBaggage
