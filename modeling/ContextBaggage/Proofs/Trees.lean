import ContextBaggage.Proofs.Nesting

/-!
# Trees of propagators

Propagators are put together from those that carry baggage and those that do nothing, in lists that
may have lists in them. How they are nested does not matter: a tree is one list of its baggage
propagators, and writes and reads what they do, one after the other.
-/

namespace ContextBaggage.Propagator

variable {Slot : Type} {Value : Slot → Type}

inductive Tree
  | noop
  | baggage (name : String)
  | composite (parts : List Tree)

namespace Tree

/-- The names of the baggage propagators, in the order in which they come to work. -/
def leaves : Tree → List String
  | noop => []
  | baggage name => [name]
  | composite parts => parts.flatMap leaves

def propagator : Tree → Propagator Value
  | noop => Propagator.noop
  | baggage name => Propagator.baggage name
  | composite parts => Propagator.composite (parts.map propagator)

@[induction_eliminator]
theorem inductionOn {motive : Tree → Prop} (noop : motive noop)
    (baggage : ∀ name, motive (baggage name))
    (composite : ∀ parts, (∀ part ∈ parts, motive part) → motive (composite parts))
    (t : Tree) : motive t :=
  leaves.induct motive noop baggage composite t

theorem composite_singleton_baggage (name : String) :
    Propagator.composite [Propagator.baggage name] =
      (Propagator.baggage name : Propagator Value) := by
  apply (Propagator.mk.injEq ..).mpr
  refine ⟨rfl, ?_, ?_⟩
  · funext cx
    exact List.flatMap_singleton ..
  · funext e cx
    rw [List.foldlM_cons]
    exact bind_pure _

theorem propagator_eq_composite (t : Tree) :
    (t.propagator : Propagator Value) = .composite (t.leaves.map .baggage) := by
  induction t with
  | noop => rw [propagator, leaves, List.map_nil, composite_nil]
  | baggage name =>
    rw [propagator, leaves, List.map_singleton, composite_singleton_baggage]
  | composite parts ih =>
    have hparts : parts.map (propagator : Tree → Propagator Value) =
        (parts.map fun part => part.leaves.map Propagator.baggage).map .composite := by
      rw [List.map_map]
      exact List.map_congr_left ih
    rw [propagator, leaves, hparts, composite_map_composite, List.map_flatMap, List.flatMap_def]

theorem fields_propagator (t : Tree) :
    (t.propagator : Propagator Value).fields = (t.leaves.map fieldFor).eraseDups := by
  rw [propagator_eq_composite]
  show ((t.leaves.map Propagator.baggage).flatMap fields).eraseDups = _
  rw [List.flatMap_map, List.map_eq_flatMap]
  rfl

theorem mem_fields_iff {t : Tree} {field : String} :
    field ∈ (t.propagator : Propagator Value).fields ↔ ∃ name ∈ t.leaves, fieldFor name = field := by
  rw [fields_propagator, List.mem_eraseDups, List.mem_map]

theorem fieldFor_mem_fields {t : Tree} {name : String} (h : name ∈ t.leaves) :
    fieldFor name ∈ (t.propagator : Propagator Value).fields :=
  mem_fields_iff.mpr ⟨name, h, rfl⟩

theorem writes_propagator (t : Tree) (cx : Context Value) : t.propagator.writes cx =
    t.leaves.flatMap fun name => (Propagator.baggage name).writes cx := by
  rw [propagator_eq_composite]
  exact List.flatMap_map ..

end Tree

end ContextBaggage.Propagator
