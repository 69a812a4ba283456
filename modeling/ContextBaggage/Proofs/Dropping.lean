import ContextBaggage.Proofs.Ledger

/-!
# Guards dropped in any order

The stack takes different ways down. It may clear slots in the middle and go over them later, or
release one attachment after the other from the top. In the ledger both ways strike out the same
attachments, and there is only one stack that holds those that are left. So the order in which
guards are dropped leaves no trace in the scope.
-/

namespace ContextBaggage

variable {α : Type}

/-- Only one stack holds given attachments. -/
theorem Attachments.Holds.unique {base : α} {live : List (Attachment α)} {s t : Attachments α}
    (hs : Holds base live s) (ht : Holds base live t) : s = t := by
  have hheight : s.height = t.height := hs.height.trans ht.height.symm
  have hsaved : s.saved = t.saved := by
    apply Array.ext_getElem?
    intro p
    by_cases hp : p < s.height
    · rw [hs.saved p hp, ht.saved p (hheight ▸ hp)]
    · have hp' : ¬p < t.height := hheight ▸ hp
      rw [Array.getElem?_eq_none (Nat.not_lt.mp hp), Array.getElem?_eq_none (Nat.not_lt.mp hp')]
  have hcurrent : s.current = t.current := hs.current.trans ht.current.symm
  cases s
  cases t
  congr

/-- The attachments that none of the guards releases. -/
def Attachment.spared (guards : List Nat) (live : List (Attachment α)) : List (Attachment α) :=
  live.filter fun a => ∀ guard ∈ guards, a.guard? ≠ some guard

theorem Attachment.spared_released (guard : Nat) (guards : List Nat) (live : List (Attachment α)) :
    spared guards (released guard live) = spared (guard :: guards) live := by
  rw [spared, spared, released, List.filter_filter]
  apply List.filter_congr
  intro a _
  rw [Bool.eq_iff_iff, Bool.and_eq_true, decide_eq_true_iff, bne_iff_ne, decide_eq_true_iff,
    List.forall_mem_cons]
  exact and_comm

theorem Attachment.spared_perm {first second : List Nat} (hperm : first.Perm second)
    (live : List (Attachment α)) : spared first live = spared second live := by
  apply List.filter_congr
  intro a _
  rw [decide_eq_decide]
  exact forall_congr' fun guard => imp_congr_left hperm.mem_iff

theorem Ledger.run_drops (l : Ledger α) (guards : List Nat) :
    l.run (guards.map .drop) = pure ⟨l.issued, Attachment.spared guards l.live⟩ := by
  induction guards generalizing l with
  | nil =>
    have hall : Attachment.spared [] l.live = l.live := by simp [Attachment.spared]
    rw [hall]
    rfl
  | cons guard guards ih =>
    rw [List.map_cons, run_cons, answer, pure_bind, ih, ← Attachment.spared_released]
    rfl

namespace Scope

theorem guards_run_drops (s : Scope α) (guards : List Nat) :
    (s.run (guards.map .drop)).value.guards =
      guards.foldl (fun held guard => held.setIfInBounds guard none) s.guards := by
  induction guards generalizing s with
  | nil => rfl
  | cons guard guards ih =>
    rw [List.map_cons, run_cons, Logged.value_bind, ih, List.foldl_cons, answer, guards_drop]

theorem guards_run_drops_perm (s : Scope α) {first second : List Nat}
    (hperm : first.Perm second) :
    (s.run (first.map .drop)).value.guards = (s.run (second.map .drop)).value.guards := by
  rw [guards_run_drops, guards_run_drops]
  apply hperm.foldl_eq'
  intro guard _ other _ held
  by_cases h : guard = other
  · rw [h]
  · exact Array.setIfInBounds_comm none none h

namespace Follows
variable {base : α} {s t : Scope α} {l : Ledger α}

/-- A scope is known from its ledger and its guards. -/
theorem unique (hs : Follows base s l) (ht : Follows base t l) (hguards : s.guards = t.guards) :
    s = t := by
  have hattachments : s.attachments = t.attachments := hs.holds.unique ht.holds
  cases s
  cases t
  congr

theorem run_drops (h : Follows base s l) (guards : List Nat) :
    (s.run (guards.map .drop)).events = [] ∧
      Follows base (s.run (guards.map .drop)).value
        ⟨l.issued, Attachment.spared guards l.live⟩ := by
  have hrun := h.run (guards.map .drop)
  rw [Ledger.run_drops] at hrun
  exact hrun

theorem run_drops_perm (h : Follows base s l) {first second : List Nat}
    (hperm : first.Perm second) : s.run (first.map .drop) = s.run (second.map .drop) := by
  obtain ⟨hevents, hfirst⟩ := h.run_drops first
  obtain ⟨hevents', hsecond⟩ := h.run_drops second
  rw [Attachment.spared_perm hperm] at hfirst
  rw [Logged.eq_pure hevents, Logged.eq_pure hevents',
    hfirst.unique hsecond (s.guards_run_drops_perm hperm)]

end Follows

/-- After any requests whatsoever, guards that are dropped in whatever order lead silently to the
same scope, whose current context is the highest one that they spare. So it makes no difference to
any later request either. -/
theorem run_drops_of_perm (base : α) (requests : List (Request α)) {first second : List Nat}
    (hperm : first.Perm second) :
    let s := ((start base).run requests).value
    let spared := Attachment.spared first (Ledger.empty.run requests).value.live
    (s.run (first.map .drop)).events = [] ∧
    (s.run (first.map .drop)).value.current = Attachment.current base spared ∧
    (s.run (first.map .drop)).value.attachments.height = Attachment.highest spared ∧
    s.run (first.map .drop) = s.run (second.map .drop) ∧
    ∀ more, s.run (first.map .drop ++ more) = s.run (second.map .drop ++ more) := by
  intro s spared
  have h : Follows base s (Ledger.empty.run requests).value := ((Follows.start base).run requests).2
  obtain ⟨hevents, hfirst⟩ := h.run_drops first
  have hsame := h.run_drops_perm hperm
  refine ⟨hevents, hfirst.holds.current, hfirst.holds.height, hsame, ?_⟩
  intro more
  rw [run_append, run_append, hsame]

theorem run_drops_of_perm_overlapping :
    let requests : List (Request Nat) :=
      [.attach 1, .attach 2, .attach 3, .attach 4, .attach 5, .drop 1, .forget 2]
    let s := ((start 0).run requests).value
    [0, 3, 4].Perm [4, 0, 3] ∧ [0, 3, 4].all s.isHeld = true ∧
      (s.run [.drop 0, .drop 3, .drop 4]).value.current = 3 ∧
      s.run [.drop 0, .drop 3, .drop 4] = s.run [.drop 4, .drop 0, .drop 3] ∧
      s.run [.drop 0, .drop 3, .drop 4, .attach 6] =
        s.run [.drop 4, .drop 0, .drop 3, .attach 6] := by
  intro requests s
  have hperm : [0, 3, 4].Perm [4, 0, 3] := by decide
  have hheld : [0, 3, 4].all s.isHeld = true := by decide +kernel
  obtain ⟨-, hcurrent, -, hsame, hmore⟩ := run_drops_of_perm 0 requests hperm
  exact ⟨hperm, hheld, hcurrent, hsame, hmore [.attach 6]⟩

end Scope

end ContextBaggage
