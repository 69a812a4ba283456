import ContextBaggage.Proofs.Scan
import ContextBaggage.Proofs.Trees

/-!
# What is read from a carrier

A tree of propagators asks a carrier for its own fields and for nothing else. The header that
counts is the one in the field of the last propagator that finds any, even if nothing can be made
of it: what was read before is replaced by it, and what the context holds besides baggage is left
alone all along.
-/

namespace ContextBaggage

variable {Slot : Type} {Value : Slot → Type}

namespace Propagator
variable {e : Extractor} {name header : String}

section Steps

theorem extract_baggage_of_none (h : e.get? (fieldFor name) = none) (cx : Context Value) :
    (baggage name).extract e cx = pure cx := by
  simp only [baggage, h]

theorem value_extract_baggage (h : e.get? (fieldFor name) = some header) (cx : Context Value) :
    ((baggage name).extract e cx).value = cx.withBaggage (Header.parse header) := by
  simp only [baggage, h, Header.baggage_report]

theorem values_extract_baggage (name : String) (e : Extractor) (cx : Context Value) :
    ((baggage name).extract e cx).value.values = cx.values := by
  cases h : e.get? (fieldFor name) with
  | none => rw [extract_baggage_of_none h, Logged.value_pure]
  | some header =>
    rw [value_extract_baggage h, Context.values_withBaggage]

theorem extract_baggage_congr {e' : Extractor}
    (h : e'.get? (fieldFor name) = e.get? (fieldFor name)) (cx : Context Value) :
    (baggage name).extract e' cx = (baggage name).extract e cx := by
  simp only [baggage, h]

end Steps

section Runs
variable {names : List String}

/-- Extracts by one propagator of baggage after the other. -/
def readAll (e : Extractor) (names : List String) (cx : Context Value) : Logged (Context Value) :=
  names.foldlM (fun cx name => (baggage name).extract e cx) cx

theorem readAll_cons (e : Extractor) (name : String) (names : List String) (cx : Context Value) :
    readAll e (name :: names) cx = (baggage name).extract e cx >>= readAll e names :=
  List.foldlM_cons

theorem readAll_append (e : Extractor) (before after : List String) (cx : Context Value) :
    readAll e (before ++ after) cx = readAll e before cx >>= readAll e after :=
  List.foldlM_append

theorem values_readAll (e : Extractor) (names : List String) (cx : Context Value) :
    (readAll e names cx).value.values = cx.values := by
  induction names generalizing cx with
  | nil => rfl
  | cons name names ih =>
    rw [readAll_cons, Logged.value_bind, ih, values_extract_baggage]

theorem readAll_of_absent (h : ∀ name ∈ names, e.get? (fieldFor name) = none)
    (cx : Context Value) : readAll e names cx = pure cx := by
  induction names with
  | nil => rfl
  | cons name names ih =>
    obtain ⟨hfirst, hrest⟩ := List.forall_mem_cons.mp h
    rw [readAll_cons, extract_baggage_of_none hfirst, pure_bind, ih hrest]

theorem readAll_congr {e' : Extractor}
    (h : ∀ name ∈ names, e'.get? (fieldFor name) = e.get? (fieldFor name)) (cx : Context Value) :
    readAll e' names cx = readAll e names cx := by
  induction names generalizing cx with
  | nil => rfl
  | cons name names ih =>
    obtain ⟨hfirst, hrest⟩ := List.forall_mem_cons.mp h
    rw [readAll_cons, readAll_cons, extract_baggage_congr hfirst]
    exact bind_congr fun next => ih hrest next

/-- `header` stands in the field of the last name whose field is there. -/
def LastFound (e : Extractor) (names : List String) (header : String) : Prop :=
  ∃ before name after, names = before ++ name :: after ∧
    e.get? (fieldFor name) = some header ∧ ∀ later ∈ after, e.get? (fieldFor later) = none

/-- From the end of the list it is the first header. -/
theorem lastFound_iff : LastFound e names header ↔
    (names.reverse.findSome? fun name => e.get? (fieldFor name)) = some header := by
  rw [List.findSome?_eq_some_iff]
  constructor
  · rintro ⟨before, name, after, rfl, hfound, hafter⟩
    exact ⟨after.reverse, name, before.reverse, by simp, hfound, by simpa using hafter⟩
  · rintro ⟨after, name, before, hnames, hfound, hafter⟩
    exact ⟨before.reverse, name, after.reverse, by simpa using congrArg List.reverse hnames, hfound,
      by simpa using hafter⟩

theorem LastFound.unique {other : String} (h : LastFound e names header)
    (hother : LastFound e names other) : header = other := by
  rw [lastFound_iff] at h hother
  exact Option.some.inj (h.symm.trans hother)

theorem absent_or_lastFound (e : Extractor) (names : List String) :
    (∀ name ∈ names, e.get? (fieldFor name) = none) ∨ ∃ header, LastFound e names header := by
  cases hlast : names.reverse.findSome? fun name => e.get? (fieldFor name) with
  | none =>
    rw [List.findSome?_eq_none_iff] at hlast
    exact .inl fun name hname => hlast name (List.mem_reverse.mpr hname)
  | some header => exact .inr ⟨header, lastFound_iff.mpr hlast⟩

theorem value_readAll_of_lastFound (h : LastFound e names header) (cx : Context Value) :
    (readAll e names cx).value = cx.withBaggage (Header.parse header) := by
  obtain ⟨before, name, after, rfl, hfound, hafter⟩ := h
  rw [readAll_append, Logged.value_bind, readAll_cons, Logged.value_bind,
    value_extract_baggage hfound, readAll_of_absent hafter, Logged.value_pure]
  -- what was read before `name` is replaced, and no reading touches the other values
  apply Context.withBaggage_congr
  exact values_readAll e before cx

end Runs

namespace Tree
variable {t : Tree} {cx : Context Value}

theorem extract_propagator (t : Tree) (e : Extractor) (cx : Context Value) :
    t.propagator.extract e cx = readAll e t.leaves cx := by
  rw [propagator_eq_composite]
  exact List.foldlM_map

/-- The last header that is found replaces the baggage, and nothing else in a carrier or in the
context matters. -/
theorem extract_last_found [DecidableEq Slot] (t : Tree) (e : Extractor) (cx : Context Value) :
    let received := (t.propagator.extract e cx).value
    ((∀ field ∈ (t.propagator : Propagator Value).fields, e.get? field = none) → received = cx) ∧
    ((∃ field ∈ (t.propagator : Propagator Value).fields, e.get? field ≠ none) →
      ∃ header, LastFound e t.leaves header ∧
        received = cx.withBaggage (Header.parse header) ∧
        received.baggage? = some (Header.parse header) ∧
        received.baggage = Header.parse header ∧
        ∀ slot, received.get? slot = cx.get? slot) ∧
    (∀ e' : Extractor,
      (∀ field ∈ (t.propagator : Propagator Value).fields, e'.get? field = e.get? field) →
      t.propagator.extract e' cx = t.propagator.extract e cx) ∧
    (t.propagator.extract e received).value = received := by
  simp only [extract_propagator]
  refine ⟨?_, ?_, ?_, ?_⟩
  · intro habsent
    have hleaves : ∀ name ∈ t.leaves, e.get? (fieldFor name) = none := fun name hname =>
      habsent (fieldFor name) (fieldFor_mem_fields hname)
    rw [readAll_of_absent hleaves, Logged.value_pure]
  · rintro ⟨field, hfield, hfound⟩
    rcases absent_or_lastFound e t.leaves with habsent | ⟨header, hlast⟩
    · obtain ⟨name, hname, rfl⟩ := mem_fields_iff.mp hfield
      exact absurd (habsent name hname) hfound
    · rw [value_readAll_of_lastFound hlast]
      refine ⟨header, hlast, rfl, ?_, ?_, ?_⟩
      · exact cx.baggage?_withBaggage (Header.parse header)
      · exact cx.baggage_withBaggage (Header.parse header)
      · exact cx.get?_withBaggage (Header.parse header)
  · intro e' hagree
    apply readAll_congr
    exact fun name hname => hagree (fieldFor name) (fieldFor_mem_fields hname)
  · rcases absent_or_lastFound e t.leaves with habsent | ⟨header, hlast⟩
    · rw [readAll_of_absent habsent, Logged.value_pure, readAll_of_absent habsent,
        Logged.value_pure]
    · rw [value_readAll_of_lastFound hlast, value_readAll_of_lastFound hlast]
      apply Context.withBaggage_congr
      exact cx.values_withBaggage (Header.parse header)

section Invalid

/-- The header of the last propagator here can be found and cannot be read. -/
def shadowing : Tree := .composite [.baggage "First", .composite [.noop, .baggage "second"]]

def incoming : HeaderMap := (HeaderMap.empty.insert "first" "k=1").insert "second" "=bad"

def holder : Context fun _ : Unit => Nat :=
  (Context.empty.withBaggage (Header.parse "old=1")).withValue () 7

theorem leaves_shadowing : shadowing.leaves = ["First", "second"] := by
  simp [shadowing, leaves]

theorem fields_shadowing :
    (shadowing.propagator : Propagator fun _ : Unit => Nat).fields = ["first", "second"] := by
  rw [fields_propagator, leaves_shadowing]
  decide +kernel

theorem lastFound_incoming : LastFound incoming.extractor shadowing.leaves "=bad" :=
  ⟨["First"], "second", [], leaves_shadowing, by decide, by simp⟩

/-- Baggage that was there gives way to the empty baggage of a header that cannot be read. -/
theorem extract_last_found_of_invalid :
    let received := (shadowing.propagator.extract incoming.extractor holder).value
    (∀ field ∈ (shadowing.propagator : Propagator fun _ : Unit => Nat).fields,
      HeaderMap.empty.extractor.get? field = none) ∧
    (shadowing.propagator.extract HeaderMap.empty.extractor holder).value = holder ∧
    (∃ field ∈ (shadowing.propagator : Propagator fun _ : Unit => Nat).fields,
      incoming.extractor.get? field ≠ none) ∧
    LastFound incoming.extractor shadowing.leaves "=bad" ∧
    received = holder.withBaggage (Header.parse "=bad") ∧
    holder.baggage.length = 1 ∧ received.baggage? = some .empty ∧ received.baggage = .empty ∧
    received.get? () = some 7 ∧
    (∀ field ∈ (shadowing.propagator : Propagator fun _ : Unit => Nat).fields,
      (incoming.insert "other" "k=2").extractor.get? field = incoming.extractor.get? field) ∧
    shadowing.propagator.extract (incoming.insert "other" "k=2").extractor holder =
      shadowing.propagator.extract incoming.extractor holder ∧
    (shadowing.propagator.extract incoming.extractor received).value = received := by
  intro received
  have habsent : ∀ field ∈ (shadowing.propagator : Propagator fun _ : Unit => Nat).fields,
      HeaderMap.empty.extractor.get? field = none := by
    rw [fields_shadowing]
    decide +kernel
  have hfound : ∃ field ∈ (shadowing.propagator : Propagator fun _ : Unit => Nat).fields,
      incoming.extractor.get? field ≠ none := by
    rw [fields_shadowing]
    decide +kernel
  have hagree : ∀ field ∈ (shadowing.propagator : Propagator fun _ : Unit => Nat).fields,
      (incoming.insert "other" "k=2").extractor.get? field = incoming.extractor.get? field := by
    rw [fields_shadowing]
    decide +kernel
  have hholder : holder.baggage.length = 1 := by decide +kernel
  have hslot : holder.get? () = some 7 := rfl
  have hempty : Header.parse "=bad" = .empty := by decide +kernel
  obtain ⟨hkeep, -, -⟩ := extract_last_found shadowing HeaderMap.empty.extractor holder
  obtain ⟨-, hreplace, hsame, hagain⟩ := extract_last_found shadowing incoming.extractor holder
  obtain ⟨header, hlast, hvalue, hstored, hread, hslots⟩ := hreplace hfound
  obtain rfl : header = "=bad" := hlast.unique lastFound_incoming
  exact ⟨habsent, hkeep habsent, hfound, hlast, hvalue, hholder, hempty ▸ hstored, hempty ▸ hread,
    (hslots ()).trans hslot, hagree, hsame _ hagree, hagain⟩

end Invalid

end Tree

end Propagator

end ContextBaggage
