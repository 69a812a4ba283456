/-!
# Trimming

Characters of a class are dropped at one or both ends of a text. The class is a parameter: a
header drops only U+0020, metadata and names drop all white space.
-/

namespace ContextBaggage.Text

variable {p : Char → Bool} {cs : List Char}

def trimStart (p : Char → Bool) (cs : List Char) : List Char := cs.dropWhile p

def trimEnd (p : Char → Bool) (cs : List Char) : List Char := (cs.reverse.dropWhile p).reverse

def trim (p : Char → Bool) (cs : List Char) : List Char := trimEnd p (trimStart p cs)

theorem trimStart_sublist : (trimStart p cs).Sublist cs := List.dropWhile_sublist p

theorem trimEnd_sublist : (trimEnd p cs).Sublist cs := by
  have hrev : (trimEnd p cs).reverse.Sublist cs.reverse := by
    simpa [trimEnd] using List.dropWhile_sublist p
  exact List.reverse_sublist.mp hrev

theorem trim_sublist : (trim p cs).Sublist cs := trimEnd_sublist.trans trimStart_sublist

theorem head?_trimStart (c : Char) (h : (trimStart p cs).head? = some c) : p c = false := by
  induction cs with
  | nil => simp [trimStart] at h
  | cons d ds ih =>
    by_cases hd : p d = true
    · exact ih (by simpa [trimStart, hd] using h)
    · have : d = c := by simpa [trimStart, hd] using h
      simpa [this] using hd

theorem getLast?_trimEnd (c : Char) (h : (trimEnd p cs).getLast? = some c) : p c = false := by
  have hrev : (trimStart p cs.reverse).head? = some c := by simpa [trimEnd, trimStart] using h
  exact head?_trimStart c hrev

theorem trimStart_of_head? (h : ∀ c, cs.head? = some c → p c = false) : trimStart p cs = cs := by
  cases cs with
  | nil => rfl
  | cons d ds => simp [trimStart, h d rfl]

theorem trimEnd_of_getLast? (h : ∀ c, cs.getLast? = some c → p c = false) : trimEnd p cs = cs := by
  have : trimStart p cs.reverse = cs.reverse :=
    trimStart_of_head? fun c hc => h c (by simpa using hc)
  rw [trimStart] at this
  rw [trimEnd, this, List.reverse_reverse]

/-- What is left at the front stays there when the end is trimmed, unless nothing is left. -/
theorem head?_trimEnd (c : Char) (h : (trimEnd p cs).head? = some c) : cs.head? = some c := by
  have hsuffix : (trimEnd p cs).reverse <:+ cs.reverse := by
    simpa [trimEnd] using List.dropWhile_suffix p
  have hpre : trimEnd p cs <+: cs := by simpa using hsuffix
  obtain ⟨tail, htail⟩ := hpre
  rw [← htail, List.head?_append, h, Option.some_or]

theorem trim_of_ends (hfirst : ∀ c, cs.head? = some c → p c = false)
    (hlast : ∀ c, cs.getLast? = some c → p c = false) : trim p cs = cs := by
  rw [trim, trimStart_of_head? hfirst, trimEnd_of_getLast? hlast]

theorem head?_trim (c : Char) (h : (trim p cs).head? = some c) : p c = false :=
  head?_trimStart c (head?_trimEnd c h)

theorem getLast?_trim (c : Char) (h : (trim p cs).getLast? = some c) : p c = false :=
  getLast?_trimEnd c h

theorem trim_trim : trim p (trim p cs) = trim p cs :=
  trim_of_ends head?_trim getLast?_trim

section Ends
variable {before after : List Char} {c : Char}

theorem trimStart_append_cons (hc : p c = false) (before after : List Char) :
    trimStart p (before ++ c :: after) = trimStart p before ++ c :: after := by
  induction before with
  | nil => simp [trimStart, hc]
  | cons d ds ih =>
    by_cases hd : p d = true
    · simpa [trimStart, hd] using ih
    · simp [trimStart, hd]

theorem trimEnd_append_cons (hc : p c = false) (before after : List Char) :
    trimEnd p (before ++ c :: after) = before ++ c :: trimEnd p after := by
  have hstart := trimStart_append_cons hc after.reverse before.reverse
  rw [trimStart, trimStart] at hstart
  simp [trimEnd, hstart]

/-- Of both sides of a character that is not dropped, only the outer end is trimmed. -/
theorem trim_append_cons (hc : p c = false) (before after : List Char) :
    trim p (before ++ c :: after) = trimStart p before ++ c :: trimEnd p after := by
  rw [trim, trimStart_append_cons hc, trimEnd_append_cons hc]

theorem trimStart_eq_nil (hall : ∀ c ∈ cs, p c = true) : trimStart p cs = [] := by
  have hdrop : (cs ++ []).dropWhile p = [] := List.dropWhile_append_of_pos hall
  rwa [List.append_nil] at hdrop

theorem trim_eq_nil_iff : trim p cs = [] ↔ ∀ c ∈ cs, p c = true := by
  constructor
  · intro hnil c hmem
    rw [← Bool.not_eq_false]
    intro hc
    obtain ⟨before, after, rfl⟩ := List.append_of_mem hmem
    rw [trim_append_cons hc] at hnil
    simp at hnil
  · intro hall
    rw [trim, trimStart_eq_nil hall]
    rfl

theorem trimStart_trimEnd : trimStart p (trimEnd p cs) = trim p cs := by
  cases hall : cs.all p with
  | true =>
    have hrev : trimStart p cs.reverse = [] := trimStart_eq_nil (by simpa using hall)
    rw [trim_eq_nil_iff.mpr (List.all_eq_true.mp hall), trimEnd, ← trimStart, hrev]
    rfl
  | false =>
    obtain ⟨c, hmem, hc⟩ := List.all_eq_false.mp hall
    rw [Bool.not_eq_true] at hc
    obtain ⟨before, after, rfl⟩ := List.append_of_mem hmem
    rw [trimEnd_append_cons hc, trimStart_append_cons hc, trim_append_cons hc]

theorem trim_trimStart : trim p (trimStart p cs) = trim p cs := by
  rw [trim, trimStart_of_head? head?_trimStart, trim]

theorem trim_trimEnd : trim p (trimEnd p cs) = trim p cs := by
  rw [trim, trimStart_trimEnd, trimEnd_of_getLast? getLast?_trim]

theorem trim_append_left (hbefore : ∀ c ∈ before, p c = true) :
    trim p (before ++ cs) = trim p cs := by
  rw [trim, trimStart, List.dropWhile_append_of_pos hbefore]
  rfl

theorem trim_append_right (hafter : ∀ c ∈ after, p c = true) :
    trim p (cs ++ after) = trim p cs := by
  have hend : trimEnd p (cs ++ after) = trimEnd p cs := by
    rw [trimEnd, List.reverse_append, List.dropWhile_append_of_pos (by simpa using hafter)]
    rfl
  rw [← trimStart_trimEnd, hend, trimStart_trimEnd]

/-- All that is trimmed away are characters of the class. -/
theorem exists_trim_append (p : Char → Bool) (cs : List Char) :
    ∃ after, cs = cs.takeWhile p ++ trim p cs ++ after ∧ ∀ c ∈ after, p c = true := by
  refine ⟨((trimStart p cs).reverse.takeWhile p).reverse, ?_, ?_⟩
  · have hend : trim p cs ++ ((trimStart p cs).reverse.takeWhile p).reverse =
        trimStart p cs := by
      rw [trim, trimEnd, ← List.reverse_append, List.takeWhile_append_dropWhile,
        List.reverse_reverse]
    rw [List.append_assoc, hend]
    exact List.takeWhile_append_dropWhile.symm
  · intro c hc
    exact List.all_eq_true.mp List.all_takeWhile c (List.mem_reverse.mp hc)

end Ends

end ContextBaggage.Text
