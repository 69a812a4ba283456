import ContextBaggage.Proofs.Reading
import ContextBaggage.Proofs.RoundTrip
import ContextBaggage.Proofs.Writing

/-!
# From one process to the next

A tree of propagators writes the same header into every field it has. So each field can be read
back, also where several are spelled alike and share one place in the carrier. The receiving tree
has the same fields and reads that header for each of them, and the last reading counts.
-/

namespace ContextBaggage

open ContextBaggage.Text

variable {Slot : Type} {Value : Slot → Type}

namespace Propagator

namespace Tree
variable {t : Tree} {cx : Context Value}

section Sending

theorem not_mem_upper_fieldFor {c : Char} (hc : isSign c = true) {name : String}
    (h : c ∉ name.toList) : c ∉ (upper (fieldFor name)).toList := fun hmem =>
  h (mem_of_mem_fieldFor hc (mem_of_mem_upper hc hmem))

theorem get?_of_inherits_inject (hcx : cx.baggage.isEmpty = false)
    (hnames : ∀ name ∈ t.leaves, '=' ∉ name.toList ∧ '\x00' ∉ name.toList)
    {command : ChildEnvironment} (hcommand : ∀ name ∈ command.assignments, '=' ∉ name.toList)
    {env : Environment} (henv : env.Inherits (t.propagator.inject cx command))
    {name : String} (hname : name ∈ t.leaves) :
    env.extractor.get? (fieldFor name) = some cx.baggage.header := by
  rw [Environment.get?_extractor]
  apply Environment.text?_of_inherits henv
  · intro other hother
    rw [assignments_inject] at hother
    rcases mem_putAll_iff.mp hother with hmem | ⟨field, hfield, rfl⟩
    · exact hcommand other hmem
    · rw [fields_writes hcx] at hfield
      obtain ⟨leaf, hleaf, rfl⟩ := List.mem_map.mp hfield
      exact not_mem_upper_fieldFor (by decide) (hnames leaf hleaf).1
  · exact upper_ne_empty (fieldFor_ne_empty name)
  · exact not_mem_upper_fieldFor (by decide) (hnames name hname).2
  · rw [assignments_inject]
    exact getElem?_putAll (value_of_mem_writes hcx) (mem_writes hcx hname)

end Sending

section Receiving
variable {e : Extractor} {header : String}

theorem value_extract (ht : t.leaves ≠ [])
    (h : ∀ name ∈ t.leaves, e.get? (fieldFor name) = some header) (cx : Context Value) :
    (t.propagator.extract e cx).value = cx.withBaggage (Header.parse header) := by
  rw [extract_propagator]
  rcases absent_or_lastFound e t.leaves with habsent | ⟨last, hlast⟩
  · obtain ⟨name, hname⟩ := List.exists_mem_of_ne_nil t.leaves ht
    have hfound := h name hname
    rw [habsent name hname] at hfound
    cases hfound
  · have ⟨before, name, after, hleaves, hfound, _⟩ := hlast
    have hname : name ∈ t.leaves := by simp [hleaves]
    rw [h name hname] at hfound
    rw [value_readAll_of_lastFound hlast, Option.some.inj hfound]

/-- What is received under the header of some baggage has the contents that were sent. -/
theorem pairs_extract (ht : t.leaves ≠ []) {past : History} (hpast : cx.baggage = past.baggage)
    (h : ∀ name ∈ t.leaves, e.get? (fieldFor name) = some cx.baggage.header)
    (receiver : Context Value) :
    (t.propagator.extract e receiver).value.baggage.pairs = cx.baggage.pairs := by
  rw [value_extract ht h, Context.baggage_withBaggage, hpast, Header.parse_header past.wellFormed]
  exact Baggage.pairs_recharge past.baggage

end Receiving

/-- Baggage that a tree sends is received by it as it was, whatever was in the carrier and whatever
context receives it. In an environment this takes names that can be names of variables. -/
theorem pairs_extract_inject (ht : t.leaves ≠ []) {past : History}
    (hpast : cx.baggage = past.baggage) (hcx : cx.baggage.isEmpty = false)
    (receiver : Context Value) :
    (∀ carrier : HeaderMap,
      (t.propagator.extract (t.propagator.inject cx carrier).extractor receiver).value.baggage.pairs
        = cx.baggage.pairs) ∧
    ((∀ name ∈ t.leaves, '=' ∉ name.toList ∧ '\x00' ∉ name.toList) →
      ∀ command : ChildEnvironment, (∀ name ∈ command.assignments, '=' ∉ name.toList) →
      ∀ env : Environment, env.Inherits (t.propagator.inject cx command) →
        (t.propagator.extract env.extractor receiver).value.baggage.pairs = cx.baggage.pairs) := by
  constructor
  · intro carrier
    apply pairs_extract ht hpast
    exact fun name hname => get?_inject_headerMap hcx carrier hname
  · intro hnames command hcommand env henv
    apply pairs_extract ht hpast
    exact fun name hname => get?_of_inherits_inject hcx hnames hcommand henv hname

section Twins

/-- Two propagators whose fields are the same field for every carrier. -/
def twins : Tree := .composite [.noop, .composite [.baggage "X", .baggage "x"]]

def sent : History := .set .new ⟨"k", "v", .empty⟩

def sender : Context fun _ : Unit => Nat := Context.empty.withBaggage sent.baggage

def receiver : Context fun _ : Unit => Nat := Context.empty.withBaggage (Header.parse "old=1")

def command : ChildEnvironment := ChildEnvironment.empty.set "path" "/bin"

def childOfTwins : Environment :=
  ⟨[⟨"PATH", utf8 "/bin".toList⟩, ⟨"X", utf8 sender.baggage.header.toList⟩]⟩

theorem leaves_twins : twins.leaves = ["X", "x"] := by
  simp [twins, leaves]

theorem assignments_command : command.assignments = (∅ : Std.TreeMap _ _).insert "PATH" "/bin" := by
  have hpath : upper "path" = "PATH" := by decide +kernel
  rw [command, ChildEnvironment.set, hpath]
  rfl

theorem inherits_childOfTwins : childOfTwins.Inherits (twins.propagator.inject sender command) := by
  have hlarge : upper (fieldFor "X") = "X" := by decide +kernel
  have hsmall : upper (fieldFor "x") = "X" := by decide +kernel
  intro v
  obtain ⟨name, value⟩ := v
  rw [assignments_inject, writes_of_not_isEmpty (by decide +kernel), leaves_twins,
    assignments_command]
  simp only [List.map_cons, List.map_nil, putAll, List.foldl_cons, List.foldl_nil, hlarge, hsmall,
    Std.TreeMap.getElem?_insert, Std.LawfulEqCmp.compare_eq_iff_eq, Std.TreeMap.getElem?_emptyc]
  by_cases hx : "X" = name
  · subst hx
    simp [childOfTwins]
  · by_cases hpath : "PATH" = name
    · subst hpath
      simp [childOfTwins]
    · simp [childOfTwins, hx, hpath, eq_comm (a := name)]

theorem pairs_extract_inject_of_twins :
    twins.leaves ≠ [] ∧ sender.baggage = sent.baggage ∧ sender.baggage.isEmpty = false ∧
    (twins.propagator.extract
      (twins.propagator.inject sender (HeaderMap.empty.insert "x" "stale=1")).extractor
      receiver).value.baggage.pairs = sender.baggage.pairs ∧
    (∀ name ∈ twins.leaves, '=' ∉ name.toList ∧ '\x00' ∉ name.toList) ∧
    (∀ name ∈ command.assignments, '=' ∉ name.toList) ∧
    childOfTwins.Inherits (twins.propagator.inject sender command) ∧
    (twins.propagator.extract childOfTwins.extractor receiver).value.baggage.pairs =
      sender.baggage.pairs := by
  have hleaves : twins.leaves ≠ [] := by simp [leaves_twins]
  have hsent : sender.baggage = sent.baggage := rfl
  have hsender : sender.baggage.isEmpty = false := by decide +kernel
  have hnames : ∀ name ∈ twins.leaves, '=' ∉ name.toList ∧ '\x00' ∉ name.toList := by
    rw [leaves_twins]
    decide
  have hcommand : ∀ name ∈ command.assignments, '=' ∉ name.toList := by
    rw [assignments_command]
    intro name hname
    simp only [Std.TreeMap.mem_insert, Std.LawfulEqCmp.compare_eq_iff_eq,
      Std.TreeMap.not_mem_emptyc, or_false] at hname
    subst hname
    decide
  obtain ⟨hheaders, hvariables⟩ := pairs_extract_inject hleaves hsent hsender receiver
  exact ⟨hleaves, hsent, hsender, hheaders _, hnames, hcommand, inherits_childOfTwins,
    hvariables hnames command hcommand childOfTwins inherits_childOfTwins⟩

end Twins

end Tree

end Propagator

end ContextBaggage
