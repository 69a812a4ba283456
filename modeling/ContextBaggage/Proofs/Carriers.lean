import ContextBaggage.Environment
import ContextBaggage.Proofs.Casing

/-!
# What a carrier takes across

Both carriers keep one value under each spelling of a name, so fields that are spelled alike are
one field, and writing the same value to several of them lets each be read back. A process that is
started with the variables of a child environment finds each of them by its name, as long as no
name has an equals sign in it.
-/

namespace ContextBaggage

open ContextBaggage.Text

section Writing
variable {spell : String → String} {m : Std.TreeMap String String}
  {writes : List (String × String)} {value : String}

/-- Writes values one after the other, each under its field as it is spelled. -/
def putAll (spell : String → String) (m : Std.TreeMap String String)
    (writes : List (String × String)) : Std.TreeMap String String :=
  writes.foldl (fun m write => m.insert (spell write.1) write.2) m

theorem putAll_cons (write : String × String) : putAll spell m (write :: writes) =
    putAll spell (m.insert (spell write.1) write.2) writes := rfl

/-- The last write under a name counts, and what was there if there is none. -/
theorem getElem?_putAll_eq {name : String} : (putAll spell m writes)[name]? =
    ((writes.findRev? fun write => spell write.1 = name).map (·.2)).or m[name]? := by
  induction writes generalizing m with
  | nil => rfl
  | cons first writes ih =>
    rw [putAll_cons, ih, List.findRev?_eq_find?_reverse, List.findRev?_eq_find?_reverse,
      List.reverse_cons, List.find?_append, Std.TreeMap.getElem?_insert]
    cases writes.reverse.find? fun write => spell write.1 = name with
    | some last => rfl
    | none => by_cases hfirst : spell first.1 = name <;> simp [hfirst]

theorem findRev?_eq_none_iff {name : String} :
    (writes.findRev? fun write => spell write.1 = name) = none ↔
      ∀ field ∈ writes.map (·.1), spell field ≠ name := by
  rw [List.findRev?_eq_find?_reverse, List.find?_eq_none]
  simp

theorem getElem?_putAll (hvalue : ∀ write ∈ writes, write.2 = value) {field : String}
    (h : (field, value) ∈ writes) : (putAll spell m writes)[spell field]? = some value := by
  rw [getElem?_putAll_eq]
  cases hlast : writes.findRev? fun write => spell write.1 = spell field with
  | none => exact absurd rfl (findRev?_eq_none_iff.mp hlast field (List.mem_map_of_mem h))
  | some last =>
    rw [List.findRev?_eq_find?_reverse] at hlast
    rw [Option.map_some, Option.some_or,
      hvalue last (List.mem_reverse.mp (List.mem_of_find?_eq_some hlast))]

theorem getElem?_putAll_of_ne {name : String}
    (h : ∀ field ∈ writes.map (·.1), spell field ≠ name) :
    (putAll spell m writes)[name]? = m[name]? := by
  rw [getElem?_putAll_eq, findRev?_eq_none_iff.mpr h]
  rfl

theorem mem_putAll_iff {name : String} : name ∈ putAll spell m writes ↔
    name ∈ m ∨ ∃ field ∈ writes.map (·.1), name = spell field := by
  induction writes generalizing m with
  | nil => simp [putAll]
  | cons first writes ih =>
    rw [putAll_cons, ih, Std.TreeMap.mem_insert, Std.LawfulEqCmp.compare_eq_iff_eq, or_assoc,
      or_left_comm, eq_comm (a := spell first.1)]
    simp only [List.map_cons, List.mem_cons, exists_eq_or_imp]

end Writing

section Injecting
variable {Slot : Type} {Value : Slot → Type} (p : Propagator Value) (cx : Context Value)

theorem headers_foldl_set (carrier : HeaderMap) (writes : List (String × String)) :
    (writes.foldl (fun m write => Injector.set m write.1 write.2) carrier).headers =
      putAll lower carrier.headers writes :=
  (List.foldl_hom HeaderMap.headers fun _ _ => rfl).symm

theorem headers_inject (carrier : HeaderMap) :
    (p.inject cx carrier).headers = putAll lower carrier.headers (p.writes cx) :=
  headers_foldl_set carrier (p.writes cx)

theorem assignments_inject (command : ChildEnvironment) :
    (p.inject cx command).assignments = putAll upper command.assignments (p.writes cx) :=
  (List.foldl_hom ChildEnvironment.assignments fun _ _ => rfl).symm

theorem HeaderMap.get?_extractor (carrier : HeaderMap) (field : String) :
    carrier.extractor.get? field = carrier.headers[lower field]? := rfl

theorem Environment.get?_extractor (env : Environment) (field : String) :
    env.extractor.get? field = env.text? (upper field) := rfl

end Injecting

section Inheriting
variable {env : Environment} {child : ChildEnvironment} {name : String}

/-- The variables of the process are exactly those that were set for it. -/
def Environment.Inherits (env : Environment) (child : ChildEnvironment) : Prop :=
  ∀ v, v ∈ env.assignments ↔
    ∃ value, child.assignments[v.name]? = some value ∧ v.value = utf8 value.toList

/-- What stands before the first separator is settled by the whole. -/
theorem append_cons_inj_of_not_mem {α : Type} {separator : α} {as bs cs ds : List α}
    (ha : separator ∉ as) (hb : separator ∉ bs)
    (h : as ++ separator :: cs = bs ++ separator :: ds) : as = bs ∧ cs = ds := by
  induction as generalizing bs with
  | nil =>
    cases bs with
    | nil => exact ⟨rfl, (List.cons.inj h).2⟩
    | cons b bs =>
      obtain ⟨rfl, _⟩ := List.cons.inj h
      exact absurd List.mem_cons_self hb
  | cons a as ih =>
    cases bs with
    | nil =>
      obtain ⟨rfl, _⟩ := List.cons.inj h
      exact absurd List.mem_cons_self ha
    | cons b bs =>
      obtain ⟨rfl, hrest⟩ := List.cons.inj h
      obtain ⟨rfl, hcs⟩ :=
        ih (fun hmem => ha (.tail a hmem)) (fun hmem => hb (.tail a hmem)) hrest
      exact ⟨rfl, hcs⟩

theorem equals_not_mem_utf8 {cs : List Char} (h : '=' ∉ cs) : 0x3D ∉ utf8 cs := fun hmem =>
  h ((mem_utf8_of_lt (by decide)).mp hmem)

namespace Environment

theorem rest?_eq_some_iff {start line found : List UInt8} :
    rest? start line = some found ↔ line = start ++ found := by
  unfold rest?
  constructor
  · intro h
    split at h
    · next hprefix =>
      obtain ⟨rest, rfl⟩ := List.isPrefixOf_iff_prefix.mp hprefix
      rw [List.drop_left] at h
      rw [Option.some.inj h]
    · cases h
  · rintro rfl
    rw [if_pos (List.isPrefixOf_iff_prefix.mpr ⟨found, rfl⟩), List.drop_left]

/-- A name with no equals sign finds only its own line among such names. -/
theorem rest?_line_eq_some_iff {v : Variable} (hname : '=' ∉ name.toList)
    (hv : '=' ∉ v.name.toList) {found : List UInt8} :
    rest? (utf8 name.toList ++ [0x3D]) v.line = some found ↔ v.name = name ∧ v.value = found := by
  rw [rest?_eq_some_iff, Variable.line, List.append_assoc]
  constructor
  · intro hline
    obtain ⟨hnames, hvalues⟩ :=
      append_cons_inj_of_not_mem (equals_not_mem_utf8 hv) (equals_not_mem_utf8 hname) hline
    exact ⟨utf8_toList_inj hnames, hvalues⟩
  · rintro ⟨rfl, rfl⟩
    rfl

theorem find?_of_mem (hnames : ∀ v ∈ env.assignments, '=' ∉ v.name.toList) (hempty : name ≠ "")
    (hnul : '\x00' ∉ name.toList) {value : List UInt8} (hmem : ⟨name, value⟩ ∈ env.assignments)
    (hone : ∀ v ∈ env.assignments, v.name = name → v.value = value) :
    env.find? name = some value := by
  have hname : '=' ∉ name.toList := hnames _ hmem
  have hcond : (name.isEmpty || name.toList.contains '\x00') = false := by
    simp [hempty, hnul]
  rw [find?, hcond, if_neg Bool.false_ne_true]
  cases hfound : env.assignments.findSome? fun v => rest? (utf8 name.toList ++ [0x3D]) v.line with
  | none =>
    have hline := List.findSome?_eq_none_iff.mp hfound _ hmem
    rw [(rest?_line_eq_some_iff hname hname).mpr ⟨rfl, rfl⟩] at hline
    cases hline
  | some found =>
    obtain ⟨v, hv, hline⟩ := List.exists_of_findSome?_eq_some hfound
    obtain ⟨hvname, rfl⟩ := (rest?_line_eq_some_iff hname (hnames v hv)).mp hline
    rw [hone v hv hvname]

theorem text?_of_inherits (h : env.Inherits child)
    (hnames : ∀ other ∈ child.assignments, '=' ∉ other.toList) (hempty : name ≠ "")
    (hnul : '\x00' ∉ name.toList) {value : String}
    (hvalue : child.assignments[name]? = some value) : env.text? name = some value := by
  have hfind : env.find? name = some (utf8 value.toList) := by
    refine find?_of_mem ?_ hempty hnul ((h _).mpr ⟨value, hvalue, rfl⟩) ?_
    · intro v hv
      obtain ⟨_, hset, _⟩ := (h v).mp hv
      exact hnames v.name (Std.TreeMap.mem_iff_isSome_getElem?.mpr (by simp [hset]))
    · rintro v hv rfl
      obtain ⟨other, hother, hutf8⟩ := (h v).mp hv
      rw [hvalue] at hother
      rw [hutf8, Option.some.inj hother]
  rw [text?, hfind]
  exact ofUtf8?_utf8 value

end Environment

end Inheriting

end ContextBaggage
