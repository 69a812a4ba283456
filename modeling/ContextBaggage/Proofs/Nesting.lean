import ContextBaggage.Propagator
import ContextBaggage.Proofs.Firsts

/-!
# Lists in lists of propagators

A composite among other propagators works as its own propagators do in its place. This holds of
propagators of any kind, whatever they write and however they change a context, for nothing is
used but that each goes on from where the one before it stopped. Those that do nothing can be put
in anywhere.
-/

namespace ContextBaggage.Propagator

variable {Slot : Type} {Value : Slot → Type} {xs ys zs ps qs : List (Propagator Value)}

section Composites

/-- Taking repetitions out of the fields of the inner composite first changes nothing. -/
theorem fields_composite_nested (xs ys zs : List (Propagator Value)) :
    (composite (xs ++ composite ys :: zs)).fields = (composite (xs ++ (ys ++ zs))).fields := by
  simp only [composite, List.flatMap_append, List.flatMap_cons]
  rw [← eraseDups_append_eraseDups, eraseDups_eraseDups_append, eraseDups_append_eraseDups]

theorem writes_composite_nested (xs ys zs : List (Propagator Value)) :
    (composite (xs ++ composite ys :: zs)).writes = (composite (xs ++ (ys ++ zs))).writes := by
  simp only [composite, List.flatMap_append, List.flatMap_cons]

theorem extract_composite_nested (xs ys zs : List (Propagator Value)) :
    (composite (xs ++ composite ys :: zs)).extract =
      (composite (xs ++ (ys ++ zs))).extract := by
  simp only [composite, List.foldlM_append, List.foldlM_cons]

theorem composite_nested (xs ys zs : List (Propagator Value)) :
    composite (xs ++ composite ys :: zs) = composite (xs ++ (ys ++ zs)) := by
  apply (Propagator.mk.injEq ..).mpr
  exact ⟨fields_composite_nested xs ys zs, writes_composite_nested xs ys zs,
    extract_composite_nested xs ys zs⟩

theorem composite_composite (xs ys : List (Propagator Value)) :
    composite (xs ++ [composite ys]) = composite (xs ++ ys) := by
  rw [composite_nested, List.append_nil]

theorem composite_cons_composite (ys zs : List (Propagator Value)) :
    composite (composite ys :: zs) = composite (ys ++ zs) :=
  composite_nested [] ys zs

/-- The propagators at the end matter only for what they are together. -/
theorem composite_append_congr (h : composite ps = composite qs) (xs : List (Propagator Value)) :
    composite (xs ++ ps) = composite (xs ++ qs) := by
  rw [← composite_composite, h, composite_composite]

theorem composite_map_composite (lists : List (List (Propagator Value))) :
    composite (lists.map composite) = composite lists.flatten := by
  induction lists with
  | nil => rfl
  | cons ps lists ih =>
    rw [List.map_cons, composite_cons_composite, List.flatten_cons]
    exact composite_append_congr ih ps

theorem composite_nil : (composite [] : Propagator Value) = noop := rfl

theorem composite_noop_cons (ps : List (Propagator Value)) :
    composite (noop :: ps) = composite ps :=
  composite_cons_composite [] ps

end Composites

section Observing

/-- No carrier and no context can tell the one propagator from the other. -/
structure Alike (p q : Propagator Value) : Prop where
  fields : p.fields = q.fields
  inject : ∀ {κ : Type} [Injector κ] (cx : Context Value) (carrier : κ),
    p.inject cx carrier = q.inject cx carrier
  extract : ∀ (e : Extractor) (cx : Context Value), p.extract e cx = q.extract e cx

theorem Alike.of_eq {p q : Propagator Value} (h : p = q) : Alike p q := by
  subst h
  exact ⟨rfl, fun _ _ => rfl, fun _ _ => rfl⟩

/-- The second list is the first one with propagators that do nothing put in, also into the
composites in it. -/
inductive Padded : List (Propagator Value) → List (Propagator Value) → Prop
  | nil : Padded [] []
  | noop {ps qs : List (Propagator Value)} (h : Padded ps qs) : Padded ps (Propagator.noop :: qs)
  | cons (p : Propagator Value) {ps qs : List (Propagator Value)} (h : Padded ps qs) :
      Padded (p :: ps) (p :: qs)
  | composite {inner padded ps qs : List (Propagator Value)} (hinner : Padded inner padded)
      (h : Padded ps qs) :
      Padded (Propagator.composite inner :: ps) (Propagator.composite padded :: qs)

theorem Padded.composite_eq (h : Padded ps qs) :
    Propagator.composite qs = Propagator.composite ps := by
  induction h with
  | nil => rfl
  | noop _ ih => rw [composite_noop_cons, ih]
  | cons p _ ih => exact composite_append_congr ih [p]
  | composite _ _ ihInner ih =>
    rw [ihInner]
    exact composite_append_congr ih [_]

/-- How propagators are nested cannot be observed, nor where others that do nothing stand between
them. -/
theorem alike_nested (xs ys zs : List (Propagator Value)) :
    Alike (composite (xs ++ [composite ys] ++ zs)) (composite (xs ++ ys ++ zs)) ∧
    ∀ ps padded : List (Propagator Value), Padded ps padded →
      Alike (composite padded) (composite ps) := by
  constructor
  · apply Alike.of_eq
    rw [List.append_assoc, List.append_assoc, List.singleton_append, composite_nested]
  · exact fun ps padded h => .of_eq h.composite_eq

section Counting

/-- Changes what it finds in a context, so it matters how often it is used and on what. -/
def counting : Propagator fun _ : Unit => Nat where
  fields := ["count"]
  writes cx := (cx.get? ()).toList.map fun n => ("count", toString n)
  extract _ cx := pure (cx.withValue () ((cx.get? ()).elim 1 (· + 1)))

theorem alike_nested_of_counting :
    Alike (composite ([counting] ++ [composite [counting, noop]] ++ [counting]))
      (composite ([counting] ++ [counting, noop] ++ [counting])) ∧
    Padded [counting, composite [counting]]
      [noop, counting, composite [counting, noop], noop] ∧
    Alike (composite [noop, counting, composite [counting, noop], noop])
      (composite [counting, composite [counting]]) ∧
    ((composite [counting, composite [counting]]).extract HeaderMap.empty.extractor
      Context.empty).value.get? () = some 2 := by
  have hpadded : Padded [counting, composite [counting]]
      [noop, counting, composite [counting, noop], noop] :=
    .noop (.cons counting (.composite (.cons counting (.noop .nil)) (.noop .nil)))
  obtain ⟨hnested, -⟩ := alike_nested [counting] [counting, noop] [counting]
  obtain ⟨-, hnoop⟩ := alike_nested [] [] ([] : List (Propagator fun _ : Unit => Nat))
  exact ⟨hnested, hpadded, hnoop _ _ hpadded, rfl⟩

end Counting

end Observing

end ContextBaggage.Propagator
