import ContextBaggage.Proofs.Casing
import Mathlib.Data.List.Basic

/-!
# Case changed a second time

A text in lower case stays as it is when it is put into lower case once more. What becomes of a
capital sigma hangs on the letters around it, but no capital sigma is left. Upper case is lasting
as well. This is read off the tables: no code point that a table writes is one that it changes.

The two changes do not undo each other, not even for letters that are in upper case; they do for
names in the capitals of ASCII.
-/

namespace ContextBaggage.Text

section Bits
variable {ms ns : List Nat} {n : Nat}

/-- Some numbers as the places of the ones in a binary number, so that two lists of them are
compared in one step. -/
def bits : List Nat → Nat
  | [] => 0
  | n :: ns => 1 <<< n ||| bits ns

theorem testBit_bits : (bits ns).testBit n = true ↔ n ∈ ns := by
  induction ns with
  | nil => simp [bits]
  | cons m ns ih =>
    rw [bits, Nat.testBit_or, Bool.or_eq_true, ih, List.mem_cons, Nat.one_shiftLeft,
      Nat.testBit_two_pow, decide_eq_true_iff, eq_comm]

theorem not_mem_of_bits (h : bits ms &&& bits ns = 0) : ∀ n ∈ ms, n ∉ ns := by
  intro n hm hn
  have hbit : (bits ms &&& bits ns).testBit n = true := by
    rw [Nat.testBit_and, testBit_bits.mpr hm, testBit_bits.mpr hn, Bool.and_self]
  rw [h, Nat.zero_testBit] at hbit
  cases hbit

end Bits

namespace CaseRun
variable {table : List CaseRun} {n m : Nat}

def size (r : CaseRun) : Nat := (r.last - r.first) / r.stride + 1

/-- The code points that a run changes. -/
def sources (r : CaseRun) : List Nat := List.range' r.first r.size r.stride

/-- What a run writes for them, in the same order. -/
def images (r : CaseRun) : List Nat := List.range' r.image r.size r.stride

theorem mem_of_lookup (h : lookup table n = some m) :
    n ∈ table.flatMap sources ∧ m ∈ table.flatMap images := by
  obtain ⟨r, hr, hn, hstep, rfl⟩ := exists_run_of_lookup h
  have hplace : n - r.first = r.stride * ((n - r.first) / r.stride) := by
    have hdiv := Nat.div_add_mod (n - r.first) r.stride
    omega
  have hsize : (n - r.first) / r.stride < r.size :=
    Nat.lt_succ_of_le (Nat.div_le_div_right (by omega))
  constructor
  · exact List.mem_flatMap.mpr ⟨r, hr, List.mem_range'.mpr ⟨_, hsize, by omega⟩⟩
  · exact List.mem_flatMap.mpr ⟨r, hr, List.mem_range'.mpr ⟨_, hsize, by omega⟩⟩

theorem lookup_eq_none_of_not_mem (h : n ∉ table.flatMap sources) : lookup table n = none := by
  cases hlookup : lookup table n with
  | none => rfl
  | some m => exact absurd (mem_of_lookup hlookup).1 h

end CaseRun

section Lower
variable {c d : Char} {cs : List Char}

/-- A character that lower case leaves as it is, wherever it stands. -/
def IsLowered (c : Char) : Prop := c ≠ 'Σ' ∧ lowerChar c = [c]

theorem IsLowered.lowerAt_eq (h : IsLowered c) (before after : List Char) :
    lowerAt before c after = [c] := by
  rw [lowerAt, if_neg h.1, h.2]

theorem lowerRuns_images : ∀ n ∈ CaseTable.lowerRuns.flatMap CaseRun.images,
    n ∉ 0x130 :: CaseTable.lowerRuns.flatMap CaseRun.sources :=
  not_mem_of_bits (by decide +kernel)

theorem isLowered_of_lookup {n m : Nat} (h : CaseRun.lookup CaseTable.lowerRuns n = some m) :
    IsLowered (Char.ofNat m) := by
  have hnat := toNat_of_isSign (CaseRun.isSign_of_lookup lettered_lowerRuns h)
  have himage := lowerRuns_images m (CaseRun.mem_of_lookup h).2
  have hdotted := List.ne_of_not_mem_cons himage
  have hnone := CaseRun.lookup_eq_none_of_not_mem (List.not_mem_of_not_mem_cons himage)
  constructor
  · intro hsigma
    have hm : m = 0x3A3 := by rw [← hnat, hsigma]; rfl
    rw [hm] at hnone
    cases hnone
  · have hne : Char.ofNat m ≠ '\u0130' := by
      intro heq
      exact hdotted (by rw [← hnat, heq]; rfl)
    rw [lowerChar, if_neg hne, hnat, hnone]

theorem isLowered_of_mem_lowerChar (hc : c ≠ 'Σ') (h : d ∈ lowerChar c) : IsLowered d := by
  unfold lowerChar at h
  split at h
  · simp only [List.mem_cons, List.not_mem_nil, or_false] at h
    rcases h with rfl | rfl <;> exact ⟨by decide, rfl⟩
  · next hdotted =>
    split at h
    · next n hlookup =>
      rw [List.mem_singleton.mp h]
      exact isLowered_of_lookup hlookup
    · next hlookup =>
      rw [List.mem_singleton.mp h]
      exact ⟨hc, by rw [lowerChar, if_neg hdotted, hlookup]⟩

theorem isLowered_of_mem_lowerAt {before after : List Char} (h : d ∈ lowerAt before c after) :
    IsLowered d := by
  unfold lowerAt at h
  split at h
  · rw [List.mem_singleton.mp h]
    split <;> exact ⟨by decide, rfl⟩
  · next hc => exact isLowered_of_mem_lowerChar hc h

theorem isLowered_of_mem_lowerFrom {before : List Char} (h : d ∈ lowerFrom [] before cs) :
    IsLowered d := by
  induction cs generalizing before with
  | nil => exact absurd h List.not_mem_nil
  | cons c after ih =>
    rw [lowerFrom_cons, List.mem_append] at h
    rcases h with hfirst | hrest
    · exact isLowered_of_mem_lowerAt hfirst
    · exact ih hrest

theorem lowerFrom_of_isLowered (h : ∀ c ∈ cs, IsLowered c) (before : List Char) :
    lowerFrom [] before cs = cs := by
  induction cs generalizing before with
  | nil => rfl
  | cons c after ih =>
    obtain ⟨hc, hafter⟩ := List.forall_mem_cons.mp h
    rw [lowerFrom_cons, hc.lowerAt_eq, ih hafter]
    rfl

theorem lower_lower (s : String) : lower (lower s) = lower s := by
  rw [lower, lower, String.toList_ofList]
  congr 1
  apply lowerFrom_of_isLowered
  exact fun c hc => isLowered_of_mem_lowerFrom hc

theorem lowerAt_ne_nil (before : List Char) (c : Char) (after : List Char) :
    lowerAt before c after ≠ [] := by
  unfold lowerAt
  split
  · exact List.cons_ne_nil _ _
  · unfold lowerChar
    split
    · exact List.cons_ne_nil _ _
    · split <;> exact List.cons_ne_nil _ _

theorem lower_ne_empty {s : String} (h : s ≠ "") : lower s ≠ "" := by
  obtain ⟨c, after, hs⟩ := List.exists_cons_of_ne_nil (l := s.toList) (by simpa using h)
  intro hempty
  have hnone : lowerFrom [] [] s.toList = [] := by simpa [lower] using hempty
  rw [hs, lowerFrom_cons, List.append_eq_nil_iff] at hnone
  exact lowerAt_ne_nil [] c after hnone.1

end Lower

section Upper
variable {c d : Char}

/-- The code points that upper case writes. -/
def upperImages : List Nat :=
  CaseTable.upperTexts.flatMap (·.2) ++ CaseTable.upperRuns.flatMap CaseRun.images

theorem upperImages_not_source : ∀ n ∈ upperImages,
    n ∉ CaseTable.upperTexts.map (·.1) ++ CaseTable.upperRuns.flatMap CaseRun.sources :=
  not_mem_of_bits (by decide +kernel)

theorem upperTexts_lookup_eq_none {n : Nat} (h : n ∉ CaseTable.upperTexts.map (·.1)) :
    CaseTable.upperTexts.lookup n = none := by
  rw [List.lookup_eq_none_iff]
  intro row hrow
  rw [bne_iff_ne]
  rintro rfl
  exact h (List.mem_map_of_mem hrow)

theorem upperChar_of_mem_upperImages {n : Nat} (hn : n ∈ upperImages)
    (hletter : isSign (Char.ofNat n) = false) : upperChar (Char.ofNat n) = [Char.ofNat n] := by
  have himage := upperImages_not_source n hn
  rw [List.mem_append, not_or] at himage
  rw [upperChar, toNat_of_isSign hletter, upperTexts_lookup_eq_none himage.1,
    CaseRun.lookup_eq_none_of_not_mem himage.2]

theorem upperChar_of_mem_upperChar (h : d ∈ upperChar c) : upperChar d = [d] := by
  unfold upperChar at h
  split at h
  · next ns hlookup =>
    obtain ⟨n, hn, rfl⟩ := List.mem_map.mp h
    have hrow := mem_upperTexts_of_lookup hlookup
    apply upperChar_of_mem_upperImages
    · exact List.mem_append_left _ (List.mem_flatMap.mpr ⟨_, hrow, hn⟩)
    · exact (lettered_upperTexts _ hrow).2 n hn
  · next htexts =>
    split at h
    · next n hlookup =>
      rw [List.mem_singleton.mp h]
      apply upperChar_of_mem_upperImages
      · exact List.mem_append_right _ (CaseRun.mem_of_lookup hlookup).2
      · exact CaseRun.isSign_of_lookup lettered_upperRuns hlookup
    · next hlookup => rw [List.mem_singleton.mp h, upperChar, htexts, hlookup]

theorem upper_upper (s : String) : upper (upper s) = upper s := by
  rw [upper, upper, String.toList_ofList, List.flatMap_assoc]
  congr 1
  apply List.flatMap_congr
  intro c _
  rw [List.flatMap_congr fun d hd => upperChar_of_mem_upperChar hd, List.flatMap_singleton']

end Upper

section Capitals
variable {cs : List Char} {s : String}

/-- An ASCII character that is no small letter. -/
def isCapital (c : Char) : Bool := c.toNat < 0x61 || (0x7A < c.toNat && c.toNat < 0x80)

theorem lowerChar_of_lt {n : Nat} (hn : n < 0x80) : lowerChar (Char.ofNat n) =
    [Char.ofNat ((CaseRun.lookup CaseTable.lowerRuns n).getD n)] := by
  have hnat : (Char.ofNat n).toNat = n := toNat_ofNat (Or.inl (by omega))
  have hne : Char.ofNat n ≠ '\u0130' := by
    intro heq
    have hdotted : n = 0x130 := by rw [← hnat, heq]; rfl
    omega
  rw [lowerChar, if_neg hne, hnat]
  cases CaseRun.lookup CaseTable.lowerRuns n <;> rfl

theorem upperChar_of_lt {n : Nat} (hn : n < 0x80) : upperChar (Char.ofNat n) =
    [Char.ofNat ((CaseRun.lookup CaseTable.upperRuns n).getD n)] := by
  have hbeyond : ∀ row ∈ CaseTable.upperTexts, 0x80 ≤ row.1 := by decide
  have htexts : n ∉ CaseTable.upperTexts.map (·.1) := by
    intro hmem
    obtain ⟨row, hrow, rfl⟩ := List.mem_map.mp hmem
    exact absurd (hbeyond row hrow) (Nat.not_le.mpr hn)
  rw [upperChar, toNat_ofNat (Or.inl (by omega)), upperTexts_lookup_eq_none htexts]
  cases CaseRun.lookup CaseTable.upperRuns n <;> rfl

theorem upperChar_lowerChar {c : Char} (h : isCapital c = true) :
    (lowerChar c).flatMap upperChar = [c] := by
  have hback : ∀ n < 0x80, (n < 0x61 ∨ 0x7A < n) →
      (CaseRun.lookup CaseTable.lowerRuns n).getD n < 0x80 ∧
      (CaseRun.lookup CaseTable.upperRuns ((CaseRun.lookup CaseTable.lowerRuns n).getD n)).getD
        ((CaseRun.lookup CaseTable.lowerRuns n).getD n) = n := by decide
  simp only [isCapital, Bool.or_eq_true, Bool.and_eq_true, decide_eq_true_eq] at h
  obtain ⟨hlower, hupper⟩ := hback c.toNat (by omega) (by omega)
  rw [← Char.ofNat_toNat c, lowerChar_of_lt (by omega), List.flatMap_singleton,
    upperChar_of_lt hlower, hupper]

theorem upper_lowerFrom (h : ∀ c ∈ cs, isCapital c = true) (before : List Char) :
    (lowerFrom [] before cs).flatMap upperChar = cs := by
  induction cs generalizing before with
  | nil => rfl
  | cons c after ih =>
    obtain ⟨hc, hafter⟩ := List.forall_mem_cons.mp h
    have hsigma : c ≠ 'Σ' := by
      rintro rfl
      exact absurd hc (by decide)
    rw [lowerFrom_cons, List.flatMap_append, lowerAt, if_neg hsigma, upperChar_lowerChar hc,
      ih hafter]
    rfl

theorem upper_lower (h : ∀ c ∈ s.toList, isCapital c = true) : upper (lower s) = s := by
  rw [upper, lower, String.toList_ofList, upper_lowerFrom h, String.ofList_toList]

end Capitals

end ContextBaggage.Text
