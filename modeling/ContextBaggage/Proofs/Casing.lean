import ContextBaggage.Propagator

/-!
# Signs and the change of case

The characters before the letters of ASCII have no case, and no letter becomes one of them. So a
name in lower or upper case has an equals sign or a NUL only where the name itself has one. This is
read off the tables: all images of a run lie in one stretch of characters behind the signs.
-/

namespace ContextBaggage.Text

/-- The characters from U+0000 to the last one before `A`. -/
def isSign (c : Char) : Bool := c.toNat < 0x41

/-- The images of a run are letters: characters that are no signs. -/
def CaseRun.Lettered (r : CaseRun) : Prop :=
  0x41 ≤ r.image ∧
    (r.image + (r.last - r.first) < 0xD800 ∨
      0xDFFF < r.image ∧ r.image + (r.last - r.first) < 0x110000)

instance (r : CaseRun) : Decidable r.Lettered := by
  unfold CaseRun.Lettered; infer_instance

theorem isSign_ofNat {n : Nat} (hn : n.isValidChar) (hletter : 0x41 ≤ n) :
    isSign (Char.ofNat n) = false := by
  rw [isSign, toNat_ofNat hn, decide_eq_false_iff_not]
  omega

/-- What is no code point of a character would be read as NUL, which is a sign. -/
theorem toNat_of_isSign {n : Nat} (h : isSign (Char.ofNat n) = false) :
    (Char.ofNat n).toNat = n := by
  by_cases hn : n.isValidChar
  · exact toNat_ofNat hn
  · rw [Char.ofNat, dif_neg hn] at h
    cases h

theorem CaseRun.exists_run_of_lookup {table : List CaseRun} {n m : Nat}
    (h : lookup table n = some m) : ∃ r ∈ table, (r.first ≤ n ∧ n ≤ r.last) ∧
      (n - r.first) % r.stride = 0 ∧ m = r.image + (n - r.first) := by
  obtain ⟨r, hfind, himage⟩ := Option.bind_eq_some_iff.mp h
  have hlast : n ≤ r.last := by simpa using List.find?_some hfind
  unfold image? at himage
  split at himage
  · next hrun =>
    exact ⟨r, List.mem_of_find?_eq_some hfind, ⟨hrun.1, hlast⟩, hrun.2,
      (Option.some.inj himage).symm⟩
  · cases himage

theorem CaseRun.isSign_of_lookup {table : List CaseRun} (htable : ∀ r ∈ table, r.Lettered)
    {n m : Nat} (h : lookup table n = some m) : isSign (Char.ofNat m) = false := by
  obtain ⟨r, hr, _, _, rfl⟩ := exists_run_of_lookup h
  obtain ⟨hletter, hvalid⟩ := htable r hr
  refine isSign_ofNat ?_ (by omega)
  unfold Nat.isValidChar
  omega

theorem lettered_lowerRuns : ∀ r ∈ CaseTable.lowerRuns, r.Lettered := by decide +kernel

theorem lettered_upperRuns : ∀ r ∈ CaseTable.upperRuns, r.Lettered := by decide +kernel

theorem lettered_upperTexts : ∀ row ∈ CaseTable.upperTexts,
    row.2 ≠ [] ∧ ∀ n ∈ row.2, isSign (Char.ofNat n) = false := by decide +kernel

section Characters
variable {c d : Char}

theorem isSign_or_eq_of_mem_lowerChar (h : d ∈ lowerChar c) : isSign d = false ∨ d = c := by
  unfold lowerChar at h
  split at h
  · simp only [List.mem_cons, List.not_mem_nil, or_false] at h
    rcases h with rfl | rfl <;> exact .inl (by decide)
  · split at h
    · next n hlookup =>
      rw [List.mem_singleton.mp h]
      exact .inl (CaseRun.isSign_of_lookup lettered_lowerRuns hlookup)
    · exact .inr (List.mem_singleton.mp h)

theorem isSign_or_eq_of_mem_lowerAt {before after : List Char} (h : d ∈ lowerAt before c after) :
    isSign d = false ∨ d = c := by
  unfold lowerAt at h
  split at h
  · rw [List.mem_singleton.mp h]
    split <;> exact .inl (by decide)
  · exact isSign_or_eq_of_mem_lowerChar h

theorem mem_upperTexts_of_lookup {n : Nat} {ns : List Nat}
    (h : CaseTable.upperTexts.lookup n = some ns) : (n, ns) ∈ CaseTable.upperTexts := by
  obtain ⟨before, after, htable, _⟩ := List.lookup_eq_some_iff.mp h
  rw [htable]
  exact List.mem_append_right before List.mem_cons_self

theorem isSign_or_eq_of_mem_upperChar (h : d ∈ upperChar c) : isSign d = false ∨ d = c := by
  unfold upperChar at h
  split at h
  · next ns hlookup =>
    obtain ⟨n, hn, rfl⟩ := List.mem_map.mp h
    exact .inl ((lettered_upperTexts _ (mem_upperTexts_of_lookup hlookup)).2 n hn)
  · split at h
    · next n hlookup =>
      rw [List.mem_singleton.mp h]
      exact .inl (CaseRun.isSign_of_lookup lettered_upperRuns hlookup)
    · exact .inr (List.mem_singleton.mp h)

theorem upperChar_ne_nil (c : Char) : upperChar c ≠ [] := by
  unfold upperChar
  split
  · next ns hlookup => simpa using (lettered_upperTexts _ (mem_upperTexts_of_lookup hlookup)).1
  · split <;> exact List.cons_ne_nil _ _

end Characters

section Names
variable {c : Char} {s : String}

theorem mem_of_mem_lowerFrom (hc : isSign c = true) {before cs : List Char}
    (h : c ∈ lowerFrom [] before cs) : c ∈ cs := by
  induction cs generalizing before with
  | nil => exact absurd h List.not_mem_nil
  | cons d after ih =>
    rw [lowerFrom_cons, List.mem_append] at h
    rcases h with hfirst | hrest
    · rcases isSign_or_eq_of_mem_lowerAt hfirst with hletter | rfl
      · rw [hc] at hletter
        cases hletter
      · exact List.mem_cons_self
    · exact List.mem_cons_of_mem d (ih hrest)

theorem mem_of_mem_lower (hc : isSign c = true) (h : c ∈ (lower s).toList) : c ∈ s.toList := by
  rw [lower, String.toList_ofList] at h
  exact mem_of_mem_lowerFrom hc h

theorem mem_of_mem_upper (hc : isSign c = true) (h : c ∈ (upper s).toList) : c ∈ s.toList := by
  rw [upper, String.toList_ofList] at h
  obtain ⟨d, hd, hmem⟩ := List.mem_flatMap.mp h
  rcases isSign_or_eq_of_mem_upperChar hmem with hletter | rfl
  · rw [hc] at hletter
    cases hletter
  · exact hd

theorem upper_ne_empty (h : s ≠ "") : upper s ≠ "" := by
  obtain ⟨c, hc⟩ := List.exists_mem_of_ne_nil s.toList (by simpa using h)
  intro hempty
  have hnone : s.toList.flatMap upperChar = [] := by simpa [upper] using hempty
  exact upperChar_ne_nil c (List.flatMap_eq_nil_iff.mp hnone c hc)

end Names

end ContextBaggage.Text

namespace ContextBaggage.Propagator

open ContextBaggage.Text

theorem fieldFor_ne_empty (name : String) : fieldFor name ≠ "" := by
  unfold fieldFor
  split
  · decide
  · next hname =>
    intro hempty
    rw [hempty] at hname
    exact hname (by decide)

theorem mem_of_mem_fieldFor {c : Char} (hc : isSign c = true) {name : String}
    (h : c ∈ (fieldFor name).toList) : c ∈ name.toList := by
  unfold fieldFor at h
  split at h
  · -- the default name has letters only
    have hletters : (defaultField.toList.all fun d => !isSign d) = true := by decide
    have hletter := List.all_eq_true.mp hletters c h
    rw [hc] at hletter
    cases hletter
  · exact mem_of_mem_lower hc h

end ContextBaggage.Propagator
