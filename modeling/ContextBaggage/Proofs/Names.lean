import ContextBaggage.Propagator.Selection
import ContextBaggage.Proofs.Carriers
import ContextBaggage.Proofs.Firsts
import ContextBaggage.Proofs.Segments
import Mathlib.Data.List.Nodup

/-!
# Propagators by their names

What the environment asks for is a list of names, each of them once, whatever the white space, the
case and the repetitions in the variable. Which propagators there are depends only on what is among
the names: switching off goes before all else, and baggage is carried by one propagator or by none.
The other names are told in their order.
-/

namespace ContextBaggage.Propagator.Selection

open ContextBaggage.Text

variable {Slot : Type} {Value : Slot → Type} {env : Environment} {names others : List String}

section Lists
variable {value : String} {parts : List String}

/-- The names that stand between commas. -/
def namesOf (parts : List String) : List String :=
  (parts.map fun part => lower (trimmed part)).filter fun name => name ≠ ""

theorem split_intercalate (hparts : ∀ part ∈ parts, ',' ∉ part.toList) (hne : parts ≠ []) :
    split (",".intercalate parts) = (namesOf parts).eraseDups := by
  have hsegments : (",".intercalate parts).toList.splitOn ',' = parts.map String.toList := by
    rw [String.toList_intercalate]
    apply List.splitOn_intercalate
    · simpa using hparts
    · simpa using hne
  have hnames : (parts.map String.toList).map (fun name => lower (trimmed (String.ofList name))) =
      parts.map fun part => lower (trimmed part) := by
    simp only [List.map_map, Function.comp_def, String.ofList_toList]
  have hempty : ∀ name : String, (!name.isEmpty) = decide (name ≠ "") := by
    intro name
    by_cases hname : name = "" <;> simp [hname]
  rw [split, hsegments, hnames, namesOf]
  simp only [hempty]

theorem isEmpty_trimmed_iff :
    (trimmed value).isEmpty = true ↔ ∀ c ∈ value.toList, isWhiteSpace c = true := by
  rw [String.isEmpty_iff, ← String.toList_eq_nil_iff, toList_trimmed, trim_eq_nil_iff]

theorem names_of_blank (h : ∀ c ∈ value.toList, isWhiteSpace c = true) :
    Selection.names value = [defaultName] := by
  rw [Selection.names, if_pos (isEmpty_trimmed_iff.mpr h)]
  decide +kernel

theorem names_of_notBlank (h : ∃ c ∈ value.toList, isWhiteSpace c = false) :
    Selection.names value = split value := by
  have hblank : ¬(trimmed value).isEmpty = true := by
    rw [isEmpty_trimmed_iff]
    simpa using h
  rw [Selection.names, if_neg hblank]

end Lists

section Choosing

theorem known?_defaultName :
    (known? defaultName : Option (Propagator Value)) = some (baggage defaultField) :=
  if_pos rfl

theorem known?_of_ne {name : String} (h : name ≠ defaultName) :
    (known? name : Option (Propagator Value)) = none :=
  if_neg h

/-- Baggage is carried as often as it is named. -/
theorem filterMap_known? (names : List String) :
    (names.filterMap known? : List (Propagator Value)) =
      .replicate (names.count defaultName) (baggage defaultField) := by
  induction names with
  | nil => rfl
  | cons name names ih =>
    by_cases hname : name = defaultName
    · subst hname
      rw [List.filterMap_cons_some known?_defaultName, ih, List.count_cons_self,
        List.replicate_succ]
    · rw [List.filterMap_cons_none (known?_of_ne hname), ih, List.count_cons_of_ne hname]

theorem isNone_known? (name : String) :
    (known? name : Option (Propagator Value)).isNone = decide (name ≠ defaultName) := by
  by_cases hname : name = defaultName
  · rw [hname, known?_defaultName]
    rfl
  · rw [known?_of_ne hname]
    simpa using hname

theorem select_of_off (h : offName ∈ names) :
    (select names : Logged (List (Propagator Value))) = ⟨[], []⟩ := by
  rw [select, if_pos (List.contains_iff_mem.mpr h)]
  rfl

theorem select_of_on (h : offName ∉ names) :
    (select names : Logged (List (Propagator Value))) =
      ⟨names.filterMap known?,
        (names.filter fun name => name ≠ defaultName).map .unknownPropagator⟩ := by
  rw [select, if_neg (mt List.contains_iff_mem.mp h)]
  simp only [isNone_known?]

theorem select_of_nodup (hoff : offName ∉ names) (hnames : names.Nodup) :
    (select names : Logged (List (Propagator Value))) =
      ⟨if defaultName ∈ names then [baggage defaultField] else [],
        (names.filter fun name => name ≠ defaultName).map .unknownPropagator⟩ := by
  have hknown : (names.filterMap known? : List (Propagator Value)) =
      if defaultName ∈ names then [baggage defaultField] else [] := by
    rw [filterMap_known?, hnames.count]
    split <;> rfl
  rw [select_of_on hoff, hknown]

/-- From the names in another order the same is chosen, and the same is told in another order. -/
theorem select_perm (h : others.Perm names) :
    (select others : Logged (List (Propagator Value))).value = (select names).value ∧
    (select others : Logged (List (Propagator Value))).events.Perm
      (select names : Logged (List (Propagator Value))).events := by
  by_cases hoff : offName ∈ names
  · rw [select_of_off hoff, select_of_off (h.mem_iff.mpr hoff)]
    exact ⟨rfl, .nil⟩
  · have hoff' : offName ∉ others := mt h.mem_iff.mp hoff
    rw [select_of_on hoff, select_of_on hoff', filterMap_known?, filterMap_known?, h.count_eq]
    exact ⟨rfl, (h.filter _).map _⟩

end Choosing

section Asking

/-- The names that the variable asks for: those of its parts between commas, each at its first
place, and baggage alone where it has nothing to say. -/
inductive Asks (env : Environment) : List String → Prop
  | unset (h : env.find? "OTEL_PROPAGATORS" = none) : Asks env ["baggage"]
  | notText {bytes : List UInt8} (h : env.find? "OTEL_PROPAGATORS" = some bytes)
      (hbytes : ∀ text : String, utf8 text.toList ≠ bytes) : Asks env ["baggage"]
  | blank {value : String} (h : env.find? "OTEL_PROPAGATORS" = some (utf8 value.toList))
      (hblank : ∀ c ∈ value.toList, isWhiteSpace c = true) : Asks env ["baggage"]
  | listed {parts names : List String}
      (h : env.find? "OTEL_PROPAGATORS" = some (utf8 (",".intercalate parts).toList))
      (hblank : ∃ c ∈ (",".intercalate parts).toList, isWhiteSpace c = false)
      (hparts : ∀ part ∈ parts, ',' ∉ part.toList) (hnames : Firsts (namesOf parts) names) :
      Asks env names

theorem Asks.names_eq (h : Asks env names) :
    Selection.names ((env.text? variableName).getD "") = names := by
  rw [Environment.text?, variableName]
  cases h with
  | unset h =>
    rw [h]
    exact names_of_blank (by simp)
  | notText h hbytes =>
    rw [h, Option.bind_some, ofUtf8?_eq_none_iff.mpr hbytes]
    exact names_of_blank (by simp)
  | blank h hblank =>
    rw [h, Option.bind_some, ofUtf8?_utf8]
    exact names_of_blank hblank
  | listed h hblank hparts hnames =>
    rw [h, Option.bind_some, ofUtf8?_utf8, Option.getD_some, names_of_notBlank hblank,
      split_intercalate hparts]
    · exact (firsts_eraseDups _).unique hnames
    · -- no parts make the empty text, which is blank
      rintro rfl
      simp at hblank

/-- Every text has parts between commas. -/
theorem exists_parts (value : String) :
    ∃ parts : List String, ",".intercalate parts = value ∧ ∀ part ∈ parts, ',' ∉ part.toList := by
  refine ⟨(value.toList.splitOn ',').map String.ofList, ?_, ?_⟩
  · apply String.toList_inj.mp
    rw [String.toList_intercalate, List.map_map]
    simp only [Function.comp_def, String.toList_ofList, List.map_id']
    exact List.intercalate_splitOn ','
  · intro part hpart
    obtain ⟨segment, hsegment, rfl⟩ := List.mem_map.mp hpart
    rw [String.toList_ofList]
    exact Header.not_mem_of_mem_splitOn hsegment

theorem exists_asks (env : Environment) : ∃ names, Asks env names := by
  cases h : env.find? "OTEL_PROPAGATORS" with
  | none => exact ⟨_, .unset h⟩
  | some bytes =>
    cases htext : ofUtf8? bytes with
    | none => exact ⟨_, .notText h (ofUtf8?_eq_none_iff.mp htext)⟩
    | some value =>
      obtain rfl := ofUtf8?_eq_some_iff.mp htext
      by_cases hblank : ∀ c ∈ value.toList, isWhiteSpace c = true
      · exact ⟨_, .blank h hblank⟩
      · obtain ⟨parts, rfl, hparts⟩ := exists_parts value
        exact ⟨_, .listed h (by simpa using hblank) hparts (firsts_eraseDups _)⟩

theorem Asks.fromEnvironment_eq (h : Asks env names) :
    (fromEnvironment env : Logged (List (Propagator Value))) = select names := by
  rw [fromEnvironment, h.names_eq]

theorem Asks.nodup (h : Asks env names) : names.Nodup := by
  cases h with
  | listed _ _ _ hnames => exact hnames.nodup
  | _ => exact List.nodup_singleton "baggage"

/-- Every environment asks for some names, and what is chosen and told is settled by them: all of
it by their order, and what is chosen by what is among them. -/
theorem fromEnvironment_asked (env : Environment) :
    (∃ names, Asks env names) ∧ ∀ names, Asks env names →
      ("none" ∈ names → (fromEnvironment env : Logged (List (Propagator Value))) = ⟨[], []⟩) ∧
      ("none" ∉ names → (fromEnvironment env : Logged (List (Propagator Value))) =
        ⟨if "baggage" ∈ names then [baggage "baggage"] else [],
          (names.filter fun name => name ≠ "baggage").map .unknownPropagator⟩) ∧
      ∀ other others, Asks other others → (∀ name, name ∈ others ↔ name ∈ names) →
        (fromEnvironment other : Logged (List (Propagator Value))).value =
          (fromEnvironment env).value ∧
        (fromEnvironment other : Logged (List (Propagator Value))).events.Perm
          (fromEnvironment env : Logged (List (Propagator Value))).events := by
  refine ⟨exists_asks env, ?_⟩
  intro names hnames
  rw [hnames.fromEnvironment_eq]
  refine ⟨select_of_off, fun hoff => select_of_nodup hoff hnames.nodup, ?_⟩
  intro other others hothers hmem
  rw [hothers.fromEnvironment_eq]
  apply select_perm
  exact (List.perm_ext_iff_of_nodup hothers.nodup hnames.nodup).mpr hmem

section Spellings

/-- An environment with the one variable. -/
def asking (value : String) : Environment := ⟨[⟨variableName, utf8 value.toList⟩]⟩

theorem find?_asking (value : String) :
    (asking value).find? variableName = some (utf8 value.toList) :=
  Environment.find?_of_mem (by simp [asking, variableName]) (by decide) (by decide)
    (List.mem_singleton_self _) (by simp [asking])

theorem asks_asking {parts : List String} (hparts : ∀ part ∈ parts, ',' ∉ part.toList)
    (hblank : ∃ c ∈ (",".intercalate parts).toList, isWhiteSpace c = false) :
    Asks (asking (",".intercalate parts)) (namesOf parts).eraseDups :=
  .listed (find?_asking _) hblank hparts (firsts_eraseDups _)

theorem fromEnvironment_asked_of_spellings :
    Asks (asking " Baggage ,xray, BAGGAGE,b3") ["baggage", "xray", "b3"] ∧
    (fromEnvironment (asking " Baggage ,xray, BAGGAGE,b3") :
      Logged (List (Propagator fun _ : Unit => Nat))) =
        ⟨[baggage "baggage"], [.unknownPropagator "xray", .unknownPropagator "b3"]⟩ ∧
    Asks (asking "b3,xRay,baggage") ["b3", "xray", "baggage"] ∧
    (fromEnvironment (asking "b3,xRay,baggage") :
      Logged (List (Propagator fun _ : Unit => Nat))).value =
        (fromEnvironment (asking " Baggage ,xray, BAGGAGE,b3")).value ∧
    Asks (asking "xray,None") ["xray", "none"] ∧
    (fromEnvironment (asking "xray,None") : Logged (List (Propagator fun _ : Unit => Nat))) =
      ⟨[], []⟩ := by
  have hrepeated : Asks (asking " Baggage ,xray, BAGGAGE,b3") ["baggage", "xray", "b3"] := by
    have h := @asks_asking [" Baggage ", "xray", " BAGGAGE", "b3"] (by decide)
      ⟨'x', by decide +kernel⟩
    have hnames : (namesOf [" Baggage ", "xray", " BAGGAGE", "b3"]).eraseDups =
        ["baggage", "xray", "b3"] := by decide +kernel
    rwa [hnames] at h
  have hreordered : Asks (asking "b3,xRay,baggage") ["b3", "xray", "baggage"] := by
    have h := @asks_asking ["b3", "xRay", "baggage"] (by decide) ⟨'x', by decide +kernel⟩
    have hnames : (namesOf ["b3", "xRay", "baggage"]).eraseDups = ["b3", "xray", "baggage"] := by
      decide +kernel
    rwa [hnames] at h
  have hoff : Asks (asking "xray,None") ["xray", "none"] := by
    have h := @asks_asking ["xray", "None"] (by decide) ⟨'x', by decide +kernel⟩
    have hnames : (namesOf ["xray", "None"]).eraseDups = ["xray", "none"] := by decide +kernel
    rwa [hnames] at h
  obtain ⟨-, hon, hothers⟩ :=
    (fromEnvironment_asked (asking " Baggage ,xray, BAGGAGE,b3")).2 _ hrepeated
  obtain ⟨hnothing, -, -⟩ := (fromEnvironment_asked (asking "xray,None")).2 _ hoff
  refine ⟨hrepeated, hon (by decide), hreordered, ?_, hoff, hnothing (by decide)⟩
  exact (hothers _ _ hreordered fun name => List.Perm.mem_iff (by decide)).1

end Spellings

end Asking

end ContextBaggage.Propagator.Selection
