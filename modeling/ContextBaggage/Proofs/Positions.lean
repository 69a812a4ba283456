import ContextBaggage.Proofs.Ledger

/-!
# Positions and their guards

A watched scope notes every attachment that is made, with the guard and the position that the scope
gave for it, and strikes it out when its guard is dropped. What is noted are the attachments whose
guards are held or have been forgotten. `Watch.Orderly` says that their positions are those of the
slots in use, so that no position is given to two of them and none points beside the stack.

The ledger keeps positions of its own. A watched scope keeps those that its guards carry, and the
notes turn out to be a ledger of the scope.
-/

namespace ContextBaggage

variable {α : Type}

theorem Attachment.contextAt?_eq_some_iff {live : List (Attachment α)} (hlive : Placed live)
    {position : Nat} {cx : α} : contextAt? live position = some cx ↔
      ∃ a ∈ live, a.position = position ∧ a.context = cx := by
  rw [contextAt?, Option.map_eq_some_iff]
  constructor
  · rintro ⟨a, ha, hcontext⟩
    exact ⟨a, List.mem_of_find?_eq_some ha, by simpa using List.find?_some ha, hcontext⟩
  · rintro ⟨a, ha, hposition, hcontext⟩
    cases hfound : live.find? fun b => b.position == position with
    | none =>
      rw [List.find?_eq_none] at hfound
      exact absurd (by simpa using hposition) (hfound a ha)
    | some b =>
      have hb : b.position = position := by simpa using List.find?_some hfound
      have hab : a = b := List.inj_on_of_nodup_map hlive.distinct ha
        (List.mem_of_find?_eq_some hfound) (hposition.trans hb.symm)
      exact ⟨b, rfl, hab ▸ hcontext⟩

theorem Ledger.eq_attachFailed_of_mem_run (l : Ledger α) {requests : List (Scope.Request α)} :
    ∀ e ∈ (l.run requests).events, e = .attachFailed := by
  induction requests generalizing l with
  | nil => exact fun e he => absurd he List.not_mem_nil
  | cons request requests ih =>
    intro e he
    rw [run_cons, Logged.events_bind] at he
    rcases List.mem_append.mp he with he | he
    · cases request with
      | attach cx =>
        simp only [answer, attach] at he
        split at he
        · exact List.mem_singleton.mp he
        · exact absurd he List.not_mem_nil
      | drop guard => exact absurd he List.not_mem_nil
      | forget guard => exact absurd he List.not_mem_nil
    · exact ih _ e he

/-- An attachment, with the guard and the position that were given for it. -/
structure Grant (α : Type) where
  guard : Nat
  position : UInt16
  context : α

structure Watch (α : Type) where
  scope : Scope α
  /-- The attachments whose guards have not been dropped, the last one first. -/
  grants : List (Grant α)

namespace Watch

def start (base : α) : Watch α := ⟨.start base, []⟩

/-- What is noted after a request. Only a guard that is held can be dropped. -/
def note (w : Watch α) : Scope.Request α → List (Grant α)
  | .attach cx =>
    match (w.scope.attach cx).value.guard? w.scope.guards.size with
    | some (.attached position) => ⟨w.scope.guards.size, position, cx⟩ :: w.grants
    | _ => w.grants
  | .drop guard =>
    if w.scope.isHeld guard then w.grants.filter fun g => g.guard != guard else w.grants
  | .forget _ => w.grants

def answer (w : Watch α) (request : Scope.Request α) : Watch α :=
  ⟨(w.scope.answer request).value, w.note request⟩

def run (w : Watch α) (requests : List (Scope.Request α)) : Watch α := requests.foldl answer w

theorem scope_run (w : Watch α) (requests : List (Scope.Request α)) :
    (w.run requests).scope = (w.scope.run requests).value := by
  induction requests generalizing w with
  | nil => rfl
  | cons request requests ih => exact ih (w.answer request)

end Watch

namespace Scope

/-- A noted attachment as it stands in a ledger. -/
def attachment (s : Scope α) (g : Grant α) : Attachment α :=
  ⟨if s.isHeld g.guard then some g.guard else none, g.position.toNat, g.context⟩

theorem isHeld_setIfInBounds (attachments : Attachments α) (guards : Array (Option Guard))
    (gone guard : Nat) : isHeld ⟨attachments, guards.setIfInBounds gone none⟩ guard =
      (guard != gone && isHeld ⟨attachments, guards⟩ guard) := by
  rw [isHeld, isHeld, guard?_setIfInBounds]
  by_cases h : guard = gone
  · simp [h]
  · simp [h]

theorem guard?_attachment {s : Scope α} {g : Grant α} {guard : Nat} :
    (s.attachment g).guard? = some guard ↔ g.guard = guard ∧ s.isHeld guard = true := by
  rw [attachment]
  split
  · next h =>
    rw [Option.some.injEq, iff_self_and]
    rintro rfl
    exact h
  · next h =>
    simp only [reduceCtorEq, false_iff, not_and]
    rintro rfl
    exact h

/-- Whether a guard was dropped or forgotten, the attachments that are still noted have lost it. -/
theorem attachment_setIfInBounds (s : Scope α) (attachments : Attachments α) (gone : Nat)
    (g : Grant α) : attachment ⟨attachments, s.guards.setIfInBounds gone none⟩ g =
      (s.attachment g).forget gone := by
  rw [attachment, isHeld_setIfInBounds, Attachment.forget]
  by_cases h : g.guard = gone
  · subst h
    by_cases hheld : s.isHeld g.guard = true
    · rw [if_pos (guard?_attachment.mpr ⟨rfl, hheld⟩)]
      simp [attachment]
    · rw [if_neg fun hguard => hheld (guard?_attachment.mp hguard).2]
      simp [attachment, hheld]
  · rw [if_neg fun hguard => h (guard?_attachment.mp hguard).1]
    have hne : (g.guard != gone) = true := bne_iff_ne.mpr h
    rw [hne, Bool.true_and]
    rfl

theorem attachment_drop (s : Scope α) (guard : Nat) (g : Grant α) :
    (s.drop guard).value.attachment g = (s.attachment g).forget guard := by
  have hgone := s.attachment_setIfInBounds (s.drop guard).value.attachments guard g
  rw [← guards_drop] at hgone
  exact hgone

theorem attachment_push (s : Scope α) (attachments : Attachments α) (x : Guard) {g : Grant α}
    (hg : g.guard < s.guards.size) :
    attachment ⟨attachments, s.guards.push (some x)⟩ g = s.attachment g := by
  have hheld : isHeld ⟨attachments, s.guards.push (some x)⟩ g.guard = s.isHeld g.guard := by
    rw [isHeld, guard?_push, if_neg (by omega)]
    rfl
  rw [attachment, hheld, attachment]

end Scope

namespace Watch
variable {base : α} {w : Watch α}

def ledger (w : Watch α) : Ledger α := ⟨w.scope.guards.size, w.grants.map w.scope.attachment⟩

/-- The notes are a ledger that the scope follows. -/
structure Kept (base : α) (w : Watch α) : Prop where
  follows : w.scope.Follows base w.ledger
  issued : ∀ g ∈ w.grants, g.guard < w.scope.guards.size

namespace Kept

theorem start (base : α) : Kept base (.start base) where
  follows := .start base
  issued := fun _ h => absurd h List.not_mem_nil

theorem map_attachment_push (h : Kept base w) (attachments : Attachments α) (x : Guard) :
    w.grants.map (Scope.attachment ⟨attachments, w.scope.guards.push (some x)⟩) =
      w.grants.map w.scope.attachment :=
  List.map_congr_left fun g hg => w.scope.attachment_push attachments x (h.issued g hg)

theorem attach_full (h : Kept base w) (hfull : Attachment.highest w.ledger.live = 65534)
    (cx : α) : Kept base (w.answer (.attach cx)) := by
  obtain ⟨_, hnext⟩ := h.follows.attach cx
  have hattach := h.follows.attach_full hfull cx
  have hsize : (w.scope.guards.push (some Guard.refused)).size = w.scope.guards.size + 1 :=
    Array.size_push (some Guard.refused)
  have hnote : w.note (.attach cx) = w.grants := by
    rw [note, hattach]
    simp [Scope.guard?_push]
  rw [Ledger.attach, if_pos hfull, hattach] at hnext
  rw [answer, hnote, Scope.answer, hattach]
  refine ⟨?_, ?_⟩
  · rw [ledger, h.map_attachment_push, hsize]
    exact hnext
  · intro g hg
    rw [hsize]
    exact Nat.lt_succ_of_lt (h.issued g hg)

theorem attach_room (h : Kept base w) (hroom : ¬Attachment.highest w.ledger.live = 65534)
    (cx : α) : Kept base (w.answer (.attach cx)) := by
  obtain ⟨_, hnext⟩ := h.follows.attach cx
  have hattach := h.follows.attach_room hroom cx
  have hsize : ∀ x : Option Guard, (w.scope.guards.push x).size = w.scope.guards.size + 1 :=
    fun x => Array.size_push x
  have hnote : w.note (.attach cx) =
      ⟨w.scope.guards.size, w.scope.attachments.nextPosition, cx⟩ :: w.grants := by
    rw [note, hattach]
    simp [Scope.guard?_push]
  have hnew : Scope.attachment ⟨w.scope.attachments.attach cx, w.scope.guards.push
        (some (.attached w.scope.attachments.nextPosition))⟩
      ⟨w.scope.guards.size, w.scope.attachments.nextPosition, cx⟩ =
      ⟨some w.scope.guards.size, Attachment.highest w.ledger.live + 1, cx⟩ := by
    rw [Scope.attachment, Scope.isHeld, Scope.guard?_push, h.follows.toNat_nextPosition]
    simp
  rw [Ledger.attach, if_neg hroom, hattach] at hnext
  rw [answer, hnote, Scope.answer, hattach]
  refine ⟨?_, ?_⟩
  · rw [ledger, List.map_cons, Logged.value_pure, hnew, h.map_attachment_push, hsize]
    exact hnext
  · intro g hg
    rw [Logged.value_pure, hsize]
    rcases List.mem_cons.mp hg with rfl | hg
    · exact Nat.lt_succ_self _
    · exact Nat.lt_succ_of_lt (h.issued g hg)

theorem attach (h : Kept base w) (cx : α) : Kept base (w.answer (.attach cx)) := by
  by_cases hfull : Attachment.highest w.ledger.live = 65534
  · exact h.attach_full hfull cx
  · exact h.attach_room hfull cx

theorem forget (h : Kept base w) (guard : Nat) : Kept base (w.answer (.forget guard)) := by
  have hgrants : w.grants.map (w.scope.forget guard).attachment =
      (w.grants.map w.scope.attachment).map (Attachment.forget guard) := by
    rw [List.map_map]
    exact List.map_congr_left fun g _ => w.scope.attachment_setIfInBounds _ guard g
  have hsize : (w.scope.forget guard).guards.size = w.scope.guards.size :=
    Array.size_setIfInBounds
  refine ⟨?_, ?_⟩
  · show (w.scope.forget guard).Follows base
      ⟨(w.scope.forget guard).guards.size, w.grants.map (w.scope.forget guard).attachment⟩
    rw [hgrants, hsize]
    exact h.follows.forget guard
  · intro g hg
    exact hsize ▸ h.issued g hg

theorem drop (h : Kept base w) (guard : Nat) : Kept base (w.answer (.drop guard)) := by
  obtain ⟨_, hnext⟩ := h.follows.drop guard
  have hnote : w.note (.drop guard) =
      w.grants.filter fun g => (w.scope.attachment g).guard? != some guard := by
    rw [note]
    split
    · next hheld =>
      apply List.filter_congr
      intro g _
      rw [Bool.eq_iff_iff, bne_iff_ne, bne_iff_ne, ne_eq, ne_eq, Scope.guard?_attachment, hheld]
      simp
    · next hheld =>
      symm
      apply List.filter_eq_self.mpr
      intro g _
      rw [bne_iff_ne]
      exact fun hguard => hheld (Scope.guard?_attachment.mp hguard).2
  have hgrants : (w.note (.drop guard)).map (w.scope.drop guard).value.attachment =
      Attachment.released guard (w.grants.map w.scope.attachment) := by
    rw [hnote, Attachment.released, List.filter_map]
    apply List.map_congr_left
    intro g hg
    rw [Scope.attachment_drop, Attachment.forget, if_neg]
    simpa using (List.mem_filter.mp hg).2
  have hsize : (w.scope.drop guard).value.guards.size = w.scope.guards.size := by
    rw [Scope.guards_drop, Array.size_setIfInBounds]
  refine ⟨?_, ?_⟩
  · show (w.scope.drop guard).value.Follows base ⟨(w.scope.drop guard).value.guards.size,
      (w.note (.drop guard)).map (w.scope.drop guard).value.attachment⟩
    rw [hgrants, hsize]
    exact hnext
  · intro g hg
    replace hg : g ∈ w.note (.drop guard) := hg
    rw [hnote] at hg
    exact hsize ▸ h.issued g (List.mem_filter.mp hg).1

theorem answer (h : Kept base w) (request : Scope.Request α) : Kept base (w.answer request) := by
  cases request with
  | attach cx => exact h.attach cx
  | drop guard => exact h.drop guard
  | forget guard => exact h.forget guard

theorem run (h : Kept base w) (requests : List (Scope.Request α)) : Kept base (w.run requests) := by
  induction requests generalizing w with
  | nil => exact h
  | cons request requests ih => exact ih (h.answer request)

end Kept

/-- What is noted agrees with the slots of the stack, position by position. -/
structure Orderly (base : α) (w : Watch α) : Prop where
  distinct : (w.grants.map fun g => g.position).Nodup
  within : ∀ g ∈ w.grants,
    1 ≤ g.position.toNat ∧ g.position.toNat ≤ w.scope.attachments.height
  top : 0 < w.scope.attachments.height →
    ∃ g ∈ w.grants, g.position.toNat = w.scope.attachments.height
  bottom : 0 < w.scope.attachments.height →
    w.scope.attachments.saved[0]? = some (some base)
  /-- A slot between them has the context of the attachment at its position, or is cleared. -/
  slots : ∀ p, 1 ≤ p → p < w.scope.attachments.height → ∀ cx,
    w.scope.attachments.saved[p]? = some (some cx) ↔
      ∃ g ∈ w.grants, g.position.toNat = p ∧ g.context = cx
  /-- No number of slots is cut short when it is kept in 16 bits. -/
  height_lt : w.scope.attachments.height < positionBound
  held : ∀ guard position, w.scope.guard? guard = some (.attached position) →
    ∃ g ∈ w.grants, g.guard = guard ∧ g.position = position

theorem Kept.orderly (h : Kept base w) : w.Orderly base where
  distinct := by
    have hdistinct := h.follows.placed.distinct
    rw [ledger, List.map_map] at hdistinct
    have hpositions : (fun a => a.position) ∘ w.scope.attachment =
        UInt16.toNat ∘ fun g : Grant α => g.position := rfl
    rw [hpositions, ← List.map_map] at hdistinct
    exact hdistinct.of_map UInt16.toNat
  within := by
    intro g hg
    have hlive : w.scope.attachment g ∈ w.ledger.live := List.mem_map_of_mem hg
    rw [h.follows.holds.height]
    exact ⟨h.follows.placed.positive _ hlive, Attachment.le_highest hlive⟩
  top := by
    intro hheight
    rw [h.follows.holds.height] at hheight ⊢
    obtain ⟨a, ha, hposition⟩ := Attachment.exists_highest hheight
    obtain ⟨g, hg, rfl⟩ := List.mem_map.mp ha
    exact ⟨g, hg, hposition⟩
  bottom := by
    intro hheight
    exact h.follows.holds.saved 0 hheight
  slots := by
    intro p hpositive hheight cx
    rw [h.follows.holds.saved p hheight, Attachment.slot, if_neg (by omega), Option.some.injEq,
      Attachment.contextAt?_eq_some_iff h.follows.placed]
    constructor
    · rintro ⟨a, ha, hposition, hcontext⟩
      obtain ⟨g, hg, rfl⟩ := List.mem_map.mp ha
      exact ⟨g, hg, hposition, hcontext⟩
    · rintro ⟨g, hg, hposition, hcontext⟩
      exact ⟨w.scope.attachment g, List.mem_map_of_mem hg, hposition, hcontext⟩
  height_lt := by
    rw [h.follows.holds.height]
    exact h.follows.placed.highest_lt
  held := by
    intro guard position hguard
    obtain ⟨a, ha, hnumber, hposition⟩ := (h.follows.guards guard position).mp hguard
    obtain ⟨g, hg, rfl⟩ := List.mem_map.mp ha
    exact ⟨g, hg, (Scope.guard?_attachment.mp hnumber).1, UInt16.toNat_inj.mp hposition⟩

/-- A guard that is held stands at the top or at a slot that has not been cleared. -/
theorem Orderly.top_or_covered (h : w.Orderly base) {guard : Nat} {position : UInt16}
    (hguard : w.scope.guard? guard = some (.attached position)) :
    position.toNat = w.scope.attachments.height ∨
      position.toNat < w.scope.attachments.height ∧
        ∃ cx, w.scope.attachments.saved[position.toNat]? = some (some cx) := by
  obtain ⟨g, hg, _, rfl⟩ := h.held guard position hguard
  obtain ⟨hpositive, hle⟩ := h.within g hg
  rcases Nat.eq_or_lt_of_le hle with htop | hbelow
  · exact .inl htop
  · exact .inr ⟨hbelow, g.context, (h.slots _ hpositive hbelow _).mpr ⟨g, hg, rfl, rfl⟩⟩

/-- After any requests whatsoever the positions noted are those of the slots, and the positions
asked for or given are counted without loss. Nothing but a full stack was ever worth an event, and
a guard that is dropped next finds either the top or a slot that is still filled. -/
theorem run_orderly (base : α) (requests : List (Scope.Request α)) :
    let s := ((Scope.start base).run requests).value
    let w := (start base).run requests
    w.scope = s ∧ w.Orderly base ∧
    (∀ e ∈ ((Scope.start base).run requests).events, e = .attachFailed) ∧
    (UInt16.ofNat s.attachments.height).toNat = s.attachments.height ∧
    s.attachments.nextPosition.toNat = s.attachments.height + 1 ∧
    ∀ guard position, s.guard? guard = some (.attached position) →
      (s.drop guard).events = [] ∧
      (position.toNat = s.attachments.height ∨
        position.toNat < s.attachments.height ∧
          ∃ cx, s.attachments.saved[position.toNat]? = some (some cx)) := by
  intro s w
  have hscope : w.scope = s := scope_run (start base) requests
  have hkept : w.Kept base := (Kept.start base).run requests
  have hfollows := hkept.follows
  have horderly := hkept.orderly
  have hheight : s.attachments.height < 65535 := hscope ▸ horderly.height_lt
  have hevents := ((Scope.Follows.start base).run requests).1
  rw [hscope] at hfollows
  refine ⟨hscope, horderly, ?_, ?_, ?_, ?_⟩
  · rw [hevents]
    exact Ledger.empty.eq_attachFailed_of_mem_run
  · rw [UInt16.toNat_ofNat', Nat.mod_eq_of_lt (by omega)]
  · rw [hfollows.toNat_nextPosition, hfollows.holds.height]
  · intro guard position hguard
    refine ⟨(hfollows.drop guard).1, ?_⟩
    rw [← hscope] at hguard ⊢
    exact horderly.top_or_covered hguard

theorem run_orderly_of_overlap :
    let s := ((Scope.start 0).run [.attach 1, .attach 2, .attach 3, .drop 1, .forget 2]).value
    s.guard? 0 = some (.attached 1) ∧ (s.drop 0).events = [] ∧
      ((1 : UInt16).toNat = s.attachments.height ∨
        (1 : UInt16).toNat < s.attachments.height ∧
          ∃ cx, s.attachments.saved[(1 : UInt16).toNat]? = some (some cx)) := by
  intro s
  have hguard : s.guard? 0 = some (.attached 1) := by decide +kernel
  exact ⟨hguard, (run_orderly 0 _).2.2.2.2.2 0 1 hguard⟩

end Watch

end ContextBaggage
