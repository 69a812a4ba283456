import ContextBaggage.Proofs.Carriers
import ContextBaggage.Proofs.Trees

/-!
# What is written into a carrier

Each baggage propagator of a tree writes the same header under its own field, so that in the end
all fields that the tree names have it, also those that a header map cannot tell apart. No other
header is touched, and empty baggage is not written at all.
-/

namespace ContextBaggage.Propagator.Tree

open ContextBaggage.Text

variable {Slot : Type} {Value : Slot → Type} {t : Tree} {cx : Context Value}

theorem writes_of_isEmpty (hcx : cx.baggage.isEmpty = true) : t.propagator.writes cx = [] := by
  rw [writes_propagator, List.flatMap_eq_nil_iff]
  intro name _
  simp only [Propagator.baggage, hcx, if_true]

theorem writes_of_not_isEmpty (hcx : cx.baggage.isEmpty = false) : t.propagator.writes cx =
    t.leaves.map fun name => (fieldFor name, cx.baggage.header) := by
  rw [writes_propagator, List.map_eq_flatMap]
  simp only [Propagator.baggage, hcx, Bool.false_eq_true, if_false]

theorem fields_writes (hcx : cx.baggage.isEmpty = false) :
    (t.propagator.writes cx).map (·.1) = t.leaves.map fieldFor := by
  simp only [writes_of_not_isEmpty hcx, List.map_map, Function.comp_def]

theorem value_of_mem_writes (hcx : cx.baggage.isEmpty = false) :
    ∀ write ∈ t.propagator.writes cx, write.2 = cx.baggage.header := by
  rw [writes_of_not_isEmpty hcx]
  intro write hwrite
  obtain ⟨name, _, rfl⟩ := List.mem_map.mp hwrite
  rfl

theorem mem_writes (hcx : cx.baggage.isEmpty = false) {name : String} (hname : name ∈ t.leaves) :
    (fieldFor name, cx.baggage.header) ∈ t.propagator.writes cx := by
  rw [writes_of_not_isEmpty hcx]
  exact List.mem_map_of_mem hname

theorem get?_inject_headerMap (hcx : cx.baggage.isEmpty = false) (carrier : HeaderMap)
    {name : String} (hname : name ∈ t.leaves) :
    (t.propagator.inject cx carrier).extractor.get? (fieldFor name) =
      some cx.baggage.header := by
  rw [HeaderMap.get?_extractor, headers_inject]
  exact getElem?_putAll (value_of_mem_writes hcx) (mem_writes hcx hname)

theorem headers_inject_of_ne (hcx : cx.baggage.isEmpty = false) (carrier : HeaderMap)
    {name : String} (h : ∀ leaf ∈ t.leaves, name ≠ lower (fieldFor leaf)) :
    (t.propagator.inject cx carrier).headers[name]? = carrier.headers[name]? := by
  rw [headers_inject]
  apply getElem?_putAll_of_ne
  rw [fields_writes hcx]
  intro field hfield
  obtain ⟨leaf, hleaf, rfl⟩ := List.mem_map.mp hfield
  exact (h leaf hleaf).symm

/-- Headers are written under all fields and nowhere else, and the fields are those of the baggage
propagators, without repetition. -/
theorem inject_fields (t : Tree) (cx : Context Value) (carrier : HeaderMap) :
    (cx.baggage.isEmpty = true → t.propagator.inject cx carrier = carrier) ∧
    (cx.baggage.isEmpty = false →
      (∀ field ∈ (t.propagator : Propagator Value).fields,
        (t.propagator.inject cx carrier).headers[lower field]? = some cx.baggage.header) ∧
      ∀ name, (∀ field ∈ (t.propagator : Propagator Value).fields, name ≠ lower field) →
        (t.propagator.inject cx carrier).headers[name]? = carrier.headers[name]?) ∧
    Firsts (t.leaves.map fieldFor) (t.propagator : Propagator Value).fields := by
  refine ⟨?_, ?_, ?_⟩
  · intro hcx
    rw [inject, writes_of_isEmpty hcx, List.foldl_nil]
  · intro hcx
    constructor
    · intro field hfield
      obtain ⟨name, hname, rfl⟩ := mem_fields_iff.mp hfield
      exact get?_inject_headerMap hcx carrier hname
    · intro name hother
      apply headers_inject_of_ne hcx
      exact fun leaf hleaf => hother (fieldFor leaf) (fieldFor_mem_fields hleaf)
  · rw [fields_propagator]
    exact firsts_eraseDups _

section Spellings

def spellings : Tree := .composite [.baggage "X-Bag", .composite [.noop, .baggage "x-bag"]]

/-- Has one header of the tree, and one whose name is in upper case. -/
def cluttered : HeaderMap := (HeaderMap.empty.insert "x-bag" "stale=1").insert "X-BAG" "k=1"

def laden : Context fun _ : Unit => Nat := Context.empty.withBaggage (Header.parse "k=v")

theorem inject_fields_of_spellings :
    (Context.empty : Context fun _ : Unit => Nat).baggage.isEmpty = true ∧
    spellings.propagator.inject (Context.empty : Context fun _ : Unit => Nat) cluttered =
      cluttered ∧
    laden.baggage.isEmpty = false ∧
    (∀ field ∈ (spellings.propagator : Propagator fun _ : Unit => Nat).fields,
      (spellings.propagator.inject laden cluttered).headers[lower field]? =
        some laden.baggage.header) ∧
    (∀ field ∈ (spellings.propagator : Propagator fun _ : Unit => Nat).fields,
      "X-BAG" ≠ lower field) ∧
    (spellings.propagator.inject laden cluttered).headers["X-BAG"]? =
      cluttered.headers["X-BAG"]? := by
  have hempty : (Context.empty : Context fun _ : Unit => Nat).baggage.isEmpty = true := rfl
  have hladen : laden.baggage.isEmpty = false := by decide +kernel
  have hleaves : spellings.leaves = ["X-Bag", "x-bag"] := by simp [spellings, leaves]
  have hother : ∀ field ∈ (spellings.propagator : Propagator fun _ : Unit => Nat).fields,
      "X-BAG" ≠ lower field := by
    rw [fields_propagator, hleaves]
    decide +kernel
  obtain ⟨hunchanged, -, -⟩ := inject_fields spellings
    (Context.empty : Context fun _ : Unit => Nat) cluttered
  obtain ⟨-, hwritten, -⟩ := inject_fields spellings laden cluttered
  obtain ⟨hfields, hothers⟩ := hwritten hladen
  exact ⟨hempty, hunchanged hempty, hladen, hfields, hother, hothers _ hother⟩

end Spellings

end ContextBaggage.Propagator.Tree
