import ContextBaggage.Proofs.Carriers
import ContextBaggage.Proofs.Recasing

/-!
# Asking for what is listed

Carriers list names in lower case. A header map is asked in lower case as well, and lower case is
lasting, so it finds whatever it lists, and under each name what was set last, in whichever
spelling. An environment is asked in upper case. It finds a listed name if there is a variable that
is named so in upper case, and no variable whose name has a small letter.
-/

namespace ContextBaggage

open ContextBaggage.Text

namespace HeaderMap
variable {writes : List (String × String)}

theorem mem_keys_putAll {name : String} :
    name ∈ (putAll lower ∅ writes).keys ↔ ∃ write ∈ writes, name = lower write.1 := by
  rw [Std.TreeMap.mem_keys, mem_putAll_iff]
  simp

theorem getElem?_putAll_empty (field : String) : (putAll lower ∅ writes)[lower field]? =
    (writes.findRev? fun write => lower write.1 = lower field).map (·.2) := by
  rw [getElem?_putAll_eq, Std.TreeMap.getElem?_emptyc, Option.or_none]

/-- A header map gives for each name the value that was last set under it, in any case. It lists
the names in lower case, each of them once, and finds every one it lists. -/
theorem get?_foldl_set (writes : List (String × String)) :
    let m : HeaderMap := writes.foldl (fun m write => Injector.set m write.1 write.2) .empty
    (∀ field, m.extractor.get? field =
      (writes.findRev? fun write => lower write.1 = lower field).map (·.2)) ∧
    ∃ names, m.extractor.keys = .ok names ∧ names.Nodup ∧
      (∀ name, name ∈ names ↔ ∃ write ∈ writes, name = lower write.1) ∧
      ∀ name ∈ names, ∃ value,
        m.extractor.get? name = some value ∧ m.extractor.getAll? name = some [value] := by
  intro m
  have hheaders : m.headers = putAll lower ∅ writes := headers_foldl_set .empty writes
  have hget : ∀ field, m.extractor.get? field =
      (writes.findRev? fun write => lower write.1 = lower field).map (·.2) := by
    intro field
    rw [get?_extractor, hheaders, getElem?_putAll_empty]
  refine ⟨hget, m.headers.keys, rfl, Std.TreeMap.nodup_keys, ?_, ?_⟩
  · intro name
    rw [hheaders, mem_keys_putAll]
  · intro name hname
    rw [hheaders, mem_keys_putAll] at hname
    obtain ⟨write, hwrite, rfl⟩ := hname
    -- the name that is listed is spelled as the name it was set under
    obtain ⟨last, hlast⟩ : ∃ last,
        (writes.findRev? fun other => lower other.1 = lower (lower write.1)) = some last := by
      rw [← Option.ne_none_iff_exists', ne_eq, findRev?_eq_none_iff]
      intro hnone
      exact hnone write.1 (List.mem_map_of_mem hwrite) (lower_lower write.1).symm
    have hvalue : m.extractor.get? (lower write.1) = some last.2 := by
      rw [hget, hlast]
      rfl
    refine ⟨last.2, hvalue, ?_⟩
    rw [Extractor.getAll?, hvalue]
    rfl

section Sigma

/-- Has one name in two cases, and one that ends in a sigma. -/
def writesOfWords : List (String × String) := [("X-Bag", "1"), ("ΟΔΟΣ", "2"), ("x-bag", "3")]

theorem get?_foldl_set_of_words :
    let m : HeaderMap :=
      writesOfWords.foldl (fun m write => Injector.set m write.1 write.2) .empty
    m.extractor.get? "X-BAG" = some "3" ∧
    ∃ names, m.extractor.keys = .ok names ∧ "οδος" ∈ names ∧
      m.extractor.get? "οδος" = some "2" ∧ m.extractor.getAll? "οδος" = some ["2"] := by
  obtain ⟨hget, names, hkeys, _, hmem, hread⟩ := get?_foldl_set writesOfWords
  have hbag : (writesOfWords.findRev? fun write => lower write.1 = lower "X-BAG").map (·.2) =
      some "3" := by decide
  have hway : (writesOfWords.findRev? fun write => lower write.1 = lower "οδος").map (·.2) =
      some "2" := by decide
  have hlisted : "οδος" ∈ names :=
    (hmem "οδος").mpr ⟨("ΟΔΟΣ", "2"), by simp [writesOfWords], by decide⟩
  obtain ⟨value, hvalue, hall⟩ := hread "οδος" hlisted
  obtain rfl : "2" = value := by
    rw [hget, hway] at hvalue
    exact Option.some.inj hvalue
  exact ⟨(hget "X-BAG").trans hbag, names, hkeys, hlisted, hvalue, hall⟩

end Sigma

end HeaderMap

section Names
variable {name : String} {cs : List Char}

/-- What can be the name of a variable: a text that is not empty and has no NUL, and no equals sign
but as its first character. -/
def IsVariableName (name : String) : Prop :=
  name ≠ "" ∧ '\x00' ∉ name.toList ∧ '=' ∉ name.toList.tail

instance (name : String) : Decidable (IsVariableName name) := by
  unfold IsVariableName; infer_instance

theorem equals_not_mem_recased (h : '=' ∉ cs) (before : List Char) :
    '=' ∉ (lowerFrom [] before cs).flatMap upperChar := by
  intro hmem
  obtain ⟨c, hc, hupper⟩ := List.mem_flatMap.mp hmem
  rcases isSign_or_eq_of_mem_upperChar hupper with hletter | rfl
  · exact absurd hletter (by decide)
  · exact h (mem_of_mem_lowerFrom (by decide) hc)

theorem equals_not_mem_tail_recased (h : '=' ∉ name.toList.tail) :
    '=' ∉ (upper (lower name)).toList.tail := by
  rw [upper, lower, String.toList_ofList, String.toList_ofList]
  cases hname : name.toList with
  | nil => exact List.not_mem_nil
  | cons c cs =>
    rw [hname, List.tail_cons] at h
    by_cases hc : c = '='
    · subst hc
      have hequals : (lowerAt [] '=' cs).flatMap upperChar = ['='] := rfl
      rw [lowerFrom_cons, List.flatMap_append, hequals]
      exact equals_not_mem_recased h ['=']
    · have hnone : '=' ∉ c :: cs := by
        rw [List.mem_cons, not_or]
        exact ⟨Ne.symm hc, h⟩
      exact fun hmem => equals_not_mem_recased hnone [] (List.mem_of_mem_tail hmem)

theorem IsVariableName.recased (h : IsVariableName name) : IsVariableName (upper (lower name)) := by
  obtain ⟨hempty, hnul, hequals⟩ := h
  refine ⟨upper_ne_empty (lower_ne_empty hempty), ?_, equals_not_mem_tail_recased hequals⟩
  exact fun hmem => hnul (mem_of_mem_lower (by decide) (mem_of_mem_upper (by decide) hmem))

/-- Behind the first byte of such a name there is no equals sign. -/
theorem IsVariableName.exists_utf8 (h : IsVariableName name) :
    ∃ b bytes, utf8 name.toList = b :: bytes ∧ 0x3D ∉ bytes := by
  obtain ⟨hempty, _, hequals⟩ := h
  obtain ⟨c, cs, hname⟩ := List.exists_cons_of_ne_nil (l := name.toList) (by simpa using hempty)
  rw [hname, List.tail_cons] at hequals
  rw [hname, utf8_cons]
  by_cases hc : c.toNat < 0x80
  · rw [utf8EncodeChar_of_lt hc]
    exact ⟨_, _, rfl, equals_not_mem_utf8 hequals⟩
  · obtain ⟨b, bytes, hbytes⟩ := List.exists_cons_of_ne_nil (String.utf8EncodeChar_ne_nil (c := c))
    rw [hbytes, List.cons_append]
    refine ⟨_, _, rfl, ?_⟩
    rw [List.mem_append, not_or]
    refine ⟨?_, equals_not_mem_utf8 hequals⟩
    intro hmem
    have hbyte : 0x3D ∈ String.utf8EncodeChar c := hbytes ▸ List.mem_cons_of_mem b hmem
    exact absurd (le_of_mem_utf8EncodeChar (Nat.not_lt.mp hc) hbyte) (by decide)

end Names

namespace Environment
variable {env : Environment} {name : String} {vs : List Variable}

theorem rest?_line_of_isVariableName {v : Variable} (hname : IsVariableName name)
    (hv : IsVariableName v.name) {found : List UInt8} :
    rest? (utf8 name.toList ++ [0x3D]) v.line = some found ↔ v.name = name ∧ v.value = found := by
  rw [rest?_eq_some_iff, Variable.line, List.append_assoc]
  constructor
  · intro hline
    obtain ⟨b, bytes, hbytes, hequals⟩ := hname.exists_utf8
    obtain ⟨d, others, hothers, hequals'⟩ := hv.exists_utf8
    rw [hbytes, hothers, List.cons_append, List.cons_append] at hline
    obtain ⟨hhead, htail⟩ := List.cons.inj hline
    obtain ⟨hrest, hvalue⟩ := append_cons_inj_of_not_mem hequals' hequals htail
    exact ⟨utf8_toList_inj (by rw [hothers, hbytes, hhead, hrest]), hvalue⟩
  · rintro ⟨rfl, rfl⟩
    rfl

theorem findSome?_rest?_eq (hname : IsVariableName name)
    (hvs : ∀ v ∈ vs, IsVariableName v.name) :
    (vs.findSome? fun v => rest? (utf8 name.toList ++ [0x3D]) v.line) =
      (vs.find? fun v => v.name = name).map (·.value) := by
  induction vs with
  | nil => rfl
  | cons v vs ih =>
    obtain ⟨hv, hrest⟩ := List.forall_mem_cons.mp hvs
    by_cases heq : v.name = name
    · have hline := (rest?_line_of_isVariableName hname hv).mpr ⟨heq, rfl⟩
      rw [List.findSome?_cons, hline, List.find?_cons_of_pos (by simpa using heq)]
      rfl
    · have hline : rest? (utf8 name.toList ++ [0x3D]) v.line = none := by
        rw [Option.eq_none_iff_forall_ne_some]
        exact fun found hfound => heq ((rest?_line_of_isVariableName hname hv).mp hfound).1
      rw [List.findSome?_cons, hline, List.find?_cons_of_neg (by simpa using heq)]
      exact ih hrest

/-- The first variable of a name is found. -/
theorem find?_eq (hname : IsVariableName name)
    (hnames : ∀ v ∈ env.assignments, IsVariableName v.name) :
    env.find? name = (env.assignments.find? fun v => v.name = name).map (·.value) := by
  have hcond : (name.isEmpty || name.toList.contains '\x00') = false := by
    simp [hname.1, hname.2.1]
  rw [find?, hcond, if_neg Bool.false_ne_true]
  exact findSome?_rest?_eq hname hnames

theorem get?_eq {field : String} (hname : IsVariableName (upper field))
    (hnames : ∀ v ∈ env.assignments, IsVariableName v.name) :
    env.extractor.get? field =
      ((env.assignments.find? fun v => v.name = upper field).map (·.value)).bind ofUtf8? := by
  rw [get?_extractor, text?, find?_eq hname hnames]

theorem keys_eq_ok (hvalues : ∀ v ∈ env.assignments, ∃ text : String, v.value = utf8 text.toList) :
    env.keys = .ok (env.assignments.map fun v => lower v.name) := by
  have hall : (env.assignments.all fun v => (ofUtf8? v.value).isSome) = true := by
    rw [List.all_eq_true]
    intro v hv
    obtain ⟨text, htext⟩ := hvalues v hv
    rw [htext, ofUtf8?_utf8, Option.isSome_some]
  rw [keys, if_pos hall]

theorem get?_upper (env : Environment) (field : String) :
    env.extractor.get? (upper field) = env.extractor.get? field := by
  rw [get?_extractor, get?_extractor, upper_upper]

theorem get?_of_find? {field : String} {v : Variable} (hname : IsVariableName (upper field))
    (hnames : ∀ v ∈ env.assignments, IsVariableName v.name)
    (hvalues : ∀ v ∈ env.assignments, ∃ text : String, v.value = utf8 text.toList)
    (hv : env.assignments.find? (fun v => v.name = upper field) = some v) :
    ∃ text : String, v.value = utf8 text.toList ∧ env.extractor.get? field = some text := by
  obtain ⟨text, htext⟩ := hvalues v (List.mem_of_find?_eq_some hv)
  refine ⟨text, htext, ?_⟩
  rw [get?_eq hname hnames, hv, Option.map_some, Option.bind_some, htext, ofUtf8?_utf8]

/-- An environment lists its variables in lower case and reads a listed name from the first
variable that has it in upper case, if there is one. The case of the name it is asked for does not
matter, and where no variable has a small letter in its name, all that is listed can be read. -/
theorem get?_listed (hnames : ∀ v ∈ env.assignments, IsVariableName v.name)
    (hvalues : ∀ v ∈ env.assignments, ∃ text : String, v.value = utf8 text.toList) :
    ∃ listed, env.extractor.keys = .ok listed ∧
      listed = env.assignments.map (fun v => lower v.name) ∧
      (∀ k ∈ listed, match env.assignments.find? fun v => v.name = upper k with
        | some v => upper v.name = upper k ∧
          ∃ text : String, v.value = utf8 text.toList ∧ env.extractor.get? k = some text
        | none => env.extractor.get? k = none) ∧
      (∀ field, env.extractor.get? (upper field) = env.extractor.get? field) ∧
      ((∀ v ∈ env.assignments, ∀ c ∈ v.name.toList, isCapital c = true) →
        ∀ k ∈ listed, ∃ v ∈ env.assignments, lower v.name = k ∧
          ∃ text : String, v.value = utf8 text.toList ∧ env.extractor.get? k = some text) := by
  refine ⟨_, keys_eq_ok hvalues, rfl, ?_, get?_upper env, ?_⟩
  · intro k hk
    obtain ⟨w, hw, rfl⟩ := List.mem_map.mp hk
    have hname := (hnames w hw).recased
    split
    · next v hv =>
      have hvname : v.name = upper (lower w.name) := by simpa using List.find?_some hv
      exact ⟨by rw [hvname, upper_upper], get?_of_find? hname hnames hvalues hv⟩
    · next hnone =>
      rw [get?_eq hname hnames, hnone]
      rfl
  · intro hcapitals k hk
    obtain ⟨w, hw, rfl⟩ := List.mem_map.mp hk
    -- the variable that is listed has the name that is asked for, so one of that name is found
    have hwname : upper (lower w.name) = w.name := upper_lower (hcapitals w hw)
    cases hv : env.assignments.find? fun v => v.name = upper (lower w.name) with
    | none =>
      rw [List.find?_eq_none] at hv
      exact absurd (hv w hw) (by simp [hwname])
    | some v =>
      have hvname : v.name = upper (lower w.name) := by simpa using List.find?_some hv
      exact ⟨v, List.mem_of_find?_eq_some hv, by rw [hvname, hwname],
        get?_of_find? (hnames w hw).recased hnames hvalues hv⟩

section Proxies

/-- An environment with these names and texts. -/
def holding (texts : List (String × String)) : Environment :=
  ⟨texts.map fun (name, text) => ⟨name, utf8 text.toList⟩⟩

theorem exists_text_of_mem_holding (texts : List (String × String)) :
    ∀ v ∈ (holding texts).assignments, ∃ text : String, v.value = utf8 text.toList := by
  intro v hv
  obtain ⟨assigned, _, rfl⟩ := List.mem_map.mp hv
  exact ⟨assigned.2, rfl⟩

/-- Has one name in both cases, and another one in small letters only. -/
def proxies : Environment :=
  holding [("http_proxy", "a:1"), ("HTTP_PROXY", "b:2"), ("no_proxy", "*")]

/-- Has names in capitals only. -/
def capitals : Environment :=
  holding [("PATH", "/bin"), ("BAGGAGE", "k=v")]

theorem isVariableName_of_mem_proxies : ∀ v ∈ proxies.assignments, IsVariableName v.name := by
  decide

theorem exists_text_of_mem_proxies :
    ∀ v ∈ proxies.assignments, ∃ text : String, v.value = utf8 text.toList :=
  exists_text_of_mem_holding _

theorem listed_proxies :
    proxies.assignments.map (fun v => lower v.name) = ["http_proxy", "http_proxy", "no_proxy"] := by
  decide

theorem find?_no_proxy :
    proxies.assignments.find? (fun v => v.name = upper "no_proxy") = none := by decide

theorem get?_listed_of_proxies :
    (∀ v ∈ proxies.assignments, IsVariableName v.name) ∧
    (∀ v ∈ proxies.assignments, ∃ text : String, v.value = utf8 text.toList) ∧
    proxies.extractor.keys = .ok ["http_proxy", "http_proxy", "no_proxy"] ∧
    proxies.extractor.get? "http_proxy" = some "b:2" ∧
    proxies.extractor.get? "no_proxy" = none ∧
    (∀ v ∈ capitals.assignments, ∀ c ∈ v.name.toList, isCapital c = true) ∧
    ∃ text, capitals.extractor.get? "baggage" = some text := by
  have hboth : proxies.assignments.find? (fun v => v.name = upper "http_proxy") =
      some ⟨"HTTP_PROXY", utf8 "b:2".toList⟩ := by decide
  obtain ⟨_, hkeys, rfl, hread, -, -⟩ :=
    get?_listed isVariableName_of_mem_proxies exists_text_of_mem_proxies
  rw [listed_proxies] at hkeys hread
  have hfound := hread "http_proxy" (by simp)
  rw [hboth] at hfound
  obtain ⟨_, text, htext, hget⟩ := hfound
  have hnone := hread "no_proxy" (by simp)
  rw [find?_no_proxy] at hnone
  have hcapitals : ∀ v ∈ capitals.assignments, ∀ c ∈ v.name.toList, isCapital c = true := by
    simp only [← List.all_eq_true]
    decide
  have hnames : ∀ v ∈ capitals.assignments, IsVariableName v.name := by decide
  obtain ⟨_, -, rfl, -, -, hall⟩ := get?_listed hnames (exists_text_of_mem_holding _)
  obtain ⟨_, _, _, text', _, hbaggage⟩ := hall hcapitals "baggage" (by decide)
  exact ⟨isVariableName_of_mem_proxies, exists_text_of_mem_proxies, hkeys,
    utf8_toList_inj htext ▸ hget, hnone, hcapitals, text', hbaggage⟩

/-- A variable in small letters is listed and not found. -/
theorem not_all_listed_found : ¬ ∀ env : Environment,
    (∀ v ∈ env.assignments, IsVariableName v.name) →
    (∀ v ∈ env.assignments, ∃ text : String, v.value = utf8 text.toList) →
    ∀ listed, env.extractor.keys = .ok listed →
      ∀ k ∈ listed, ∃ text, env.extractor.get? k = some text := by
  intro h
  have hlisted : "no_proxy" ∈ proxies.assignments.map fun v => lower v.name := by
    rw [listed_proxies]
    simp
  obtain ⟨text, htext⟩ := h proxies isVariableName_of_mem_proxies exists_text_of_mem_proxies _
    (keys_eq_ok exists_text_of_mem_proxies) "no_proxy" hlisted
  have hname : IsVariableName (upper "no_proxy") := by decide
  rw [get?_eq hname isVariableName_of_mem_proxies, find?_no_proxy] at htext
  cases htext

end Proxies

end Environment

end ContextBaggage
