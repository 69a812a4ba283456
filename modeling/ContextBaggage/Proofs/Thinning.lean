import ContextBaggage.Proofs.WellFormed

/-!
# A header without the segments that say nothing

Segments are read one behind the other, and all that a segment finds of those in front of it are
the entries they gave. A segment that gave none might as well be missing: no total, no key and no
count remembers it.

What a segment contributes is asked of `parse` alone, which reads the header once up to the segment
and once with it.
-/

namespace ContextBaggage.Header

open ContextBaggage.Text

/-- The texts between the commas of a header. -/
def segmentTexts (header : String) : List (List Char) := header.toList.splitOn ','

/-- The header with these segments. Without any it is empty, which is to say one blank segment. -/
def joined (texts : List (List Char)) : String := .ofList ([','].intercalate texts)

/-- What is in front of the segment with a number. -/
def frontOf (header : String) (n : Nat) : String := joined ((segmentTexts header).take n)

/-- The entries that are added when the segment with a number is read as well. -/
def contribution (header : String) (n : Nat) : List Entry :=
  (parse (frontOf header (n + 1))).entries.drop (parse (frontOf header n)).length

/-- The segment with a number contributes nothing. -/
def isIdle (header : String) (n : Nat) : Bool := (contribution header n).isEmpty

/-- The segments whose numbers are not `gone`. -/
def kept (gone : Nat → Bool) (texts : List (List Char)) : List (List Char) :=
  (texts.zipIdx.filter fun segment => !gone segment.2).map Prod.fst

/-- A header without the segments whose numbers are `gone`. -/
def thinned (gone : Nat → Bool) (header : String) : String :=
  joined (kept gone (segmentTexts header))

/-- The entry that a segment says, if there is room for it behind those taken. -/
def fitting? (taken : List Entry) (text : List Char) : Option Entry :=
  match readSegment text with
  | .ok e =>
    if taken.length < maxEntries ∧ misfit? taken (Baggage.charge taken) e = none then some e
    else none
  | .error _ => none

def takeUp (taken : List Entry) (text : List Char) : List Entry :=
  taken ++ (fitting? taken text).toList

/-- The entries that segments give. -/
def collect (texts : List (List Char)) : List Entry := texts.foldl takeUp []

section Segments
variable {header : String} {text : List Char} {texts : List (List Char)}

theorem comma_not_mem_segmentTexts (h : text ∈ segmentTexts header) : ',' ∉ text :=
  not_mem_of_mem_splitOn h

theorem joined_segmentTexts (header : String) : joined (segmentTexts header) = header := by
  rw [joined, segmentTexts, List.intercalate_splitOn, String.ofList_toList]

/-- The blank segment of an empty header is no member. -/
theorem members_joined (h : ∀ text ∈ texts, ',' ∉ text) :
    (segmentTexts (joined texts)).filter notBlank = texts.filter notBlank := by
  rw [segmentTexts, joined, String.toList_ofList]
  cases texts with
  | nil => rfl
  | cons text rest => rw [List.splitOn_intercalate ',' h (List.cons_ne_nil text rest)]

theorem mem_of_mem_kept {gone : Nat → Bool} (h : text ∈ kept gone texts) : text ∈ texts := by
  obtain ⟨segment, hsegment, rfl⟩ := List.mem_map.mp h
  exact List.fst_mem_of_mem_zipIdx (List.mem_filter.mp hsegment).1

theorem kept_take_succ (gone : Nat → Bool) (texts : List (List Char)) (n : Nat) :
    kept gone (texts.take (n + 1)) =
      kept gone (texts.take n) ++ if gone n = true then [] else texts[n]?.toList := by
  rw [List.take_add_one]
  cases htext : texts[n]? with
  | none => simp
  | some text =>
    obtain ⟨hn, -⟩ := List.getElem?_eq_some_iff.mp htext
    rw [Option.toList_some, kept, List.zipIdx_append, List.filter_append, List.map_append,
      List.zipIdx_singleton, Nat.zero_add, List.length_take_of_le (Nat.le_of_lt hn), kept]
    by_cases hgone : gone n = true
    · simp [hgone]
    · simp [hgone]

end Segments

section Reading
variable {taken : List Entry} {text : List Char} {token : Except Rejection Member} {e : Entry}

theorem fitting?_eq_some_iff : fitting? taken text = some e ↔ readSegment text = .ok e ∧
    taken.length < maxEntries ∧ misfit? taken (Baggage.charge taken) e = none := by
  unfold fitting?
  cases readSegment text with
  | error cause => simp
  | ok d =>
    simp only [Option.ite_none_right_eq_some, Option.some.injEq, Except.ok.injEq]
    constructor
    · rintro ⟨hfits, rfl⟩
      exact ⟨rfl, hfits⟩
    · rintro ⟨rfl, hfits⟩
      exact ⟨hfits, rfl⟩

theorem notBlank_of_readSegment (h : readSegment text = .ok e) : notBlank text = true := by
  apply notBlank_of_equals
  by_contra hequals
  rw [readSegment_eq, readTexts_of_not_mem hequals] at h
  cases h

theorem takeUp_eq_self (h : ∀ e, fitting? taken text ≠ some e) : takeUp taken text = taken := by
  rw [takeUp, Option.eq_none_iff_forall_ne_some.mpr h, Option.toList_none, List.append_nil]

theorem takeUp_of_blank (h : ¬notBlank text = true) (taken : List Entry) :
    takeUp taken text = taken := by
  apply takeUp_eq_self
  intro e he
  exact h (notBlank_of_readSegment (fitting?_eq_some_iff.mp he).1)

theorem takeUp_of_full (h : maxEntries ≤ taken.length) (text : List Char) :
    takeUp taken text = taken := by
  apply takeUp_eq_self
  intro e he
  exact Nat.not_lt.mpr h (fitting?_eq_some_iff.mp he).2.1

theorem foldl_takeUp_of_full (h : maxEntries ≤ taken.length) (texts : List (List Char)) :
    texts.foldl takeUp taken = taken := by
  induction texts with
  | nil => rfl
  | cons text rest ih => rw [List.foldl_cons, takeUp_of_full h, ih]

theorem takeUp_of_accept (htoken : token.bind Member.decode = readSegment text)
    (hroom : taken.length < maxEntries)
    (haccept : accept taken (Baggage.charge taken) token = .ok e) :
    takeUp taken text = taken ++ [e] := by
  obtain ⟨hdecode, hfits⟩ := accept_eq_ok_iff.mp haccept
  rw [htoken] at hdecode
  rw [takeUp, fitting?_eq_some_iff.mpr ⟨hdecode, hroom, hfits⟩, Option.toList_some]

theorem takeUp_of_accept_error {cause : Rejection}
    (htoken : token.bind Member.decode = readSegment text)
    (haccept : accept taken (Baggage.charge taken) token = .error cause) :
    takeUp taken text = taken := by
  apply takeUp_eq_self
  intro e he
  obtain ⟨hread, -, hfits⟩ := fitting?_eq_some_iff.mp he
  rw [accept_eq_ok_iff.mpr ⟨htoken.trans hread, hfits⟩] at haccept
  cases haccept

/-- Reading that stops at a full baggage takes what reading to the end would take. -/
theorem readFrom_eq_foldl {σ : Type} (skip : σ → Rejection → σ) (skips : σ)
    {tokens : List (Except Rejection Member)} {texts : List (List Char)}
    (h : tokens.map (·.bind Member.decode) = texts.map readSegment) (taken : List Entry) :
    (readFrom skip taken (Baggage.charge taken) skips tokens).1 =
      .ofEntries (texts.foldl takeUp taken) := by
  induction texts generalizing tokens taken skips with
  | nil =>
    obtain rfl := List.map_eq_nil_iff.mp h
    rfl
  | cons text texts ih =>
    obtain ⟨token, rest, rfl, htoken, hrest⟩ := List.map_eq_cons_iff.mp h
    rw [readFrom]
    by_cases hfull : maxEntries ≤ taken.length
    · rw [if_pos hfull, foldl_takeUp_of_full hfull]
    rw [if_neg hfull, List.foldl_cons]
    cases haccept : accept taken (Baggage.charge taken) token with
    | ok e =>
      have hcharge : Baggage.charge (taken ++ [e]) = Baggage.charge taken + e.size := by simp
      rw [takeUp_of_accept htoken (Nat.lt_of_not_le hfull) haccept]
      simp only [← hcharge]
      exact ih skips hrest (taken ++ [e])
    | error cause =>
      rw [takeUp_of_accept_error htoken haccept]
      exact ih (skip skips cause) hrest taken

end Reading

section Collecting
variable {header : String} {texts : List (List Char)} {gone : Nat → Bool}

theorem collect_append (texts more : List (List Char)) :
    collect (texts ++ more) = more.foldl takeUp (collect texts) :=
  List.foldl_append

theorem collect_members (texts : List (List Char)) :
    collect (texts.filter notBlank) = collect texts := by
  rw [collect, List.foldl_filter, collect]
  congr 1
  funext taken text
  by_cases hblank : notBlank text = true
  · exact if_pos hblank
  · rw [if_neg hblank, takeUp_of_blank hblank]

theorem parse_joined (h : ∀ text ∈ texts, ',' ∉ text) :
    parse (joined texts) = .ofEntries (collect texts) := by
  have htokens := map_decode_tokenize (joined texts)
  rw [← segmentTexts, members_joined h] at htokens
  have hread := readFrom_eq_foldl (fun skips _ => skips) () htokens []
  rw [Baggage.charge_nil, ← collect, collect_members] at hread
  exact hread

theorem parse_eq_collect (header : String) :
    parse header = .ofEntries (collect (segmentTexts header)) := by
  have hparse := parse_joined fun text (h : text ∈ segmentTexts header) =>
    comma_not_mem_segmentTexts h
  rwa [joined_segmentTexts] at hparse

theorem parse_frontOf (header : String) (n : Nat) :
    parse (frontOf header n) = .ofEntries (collect ((segmentTexts header).take n)) :=
  parse_joined fun _ htext => comma_not_mem_segmentTexts (List.mem_of_mem_take htext)

theorem collect_take_succ (texts : List (List Char)) (n : Nat) : collect (texts.take (n + 1)) =
    collect (texts.take n) ++ (texts[n]?.bind (fitting? (collect (texts.take n)))).toList := by
  rw [List.take_add_one, collect_append]
  cases texts[n]? with
  | none => exact (List.append_nil _).symm
  | some text => rfl

/-- A segment contributes the entry that it says, if there is room for it behind those of the
segments in front. -/
theorem contribution_eq (header : String) (n : Nat) : contribution header n =
    ((segmentTexts header)[n]?.bind (fitting? (parse (frontOf header n)).entries)).toList := by
  rw [contribution, parse_frontOf, parse_frontOf, Baggage.ofEntries, Baggage.ofEntries,
    Baggage.length, collect_take_succ]
  exact List.drop_left

theorem collect_front_succ (header : String) (n : Nat) :
    collect ((segmentTexts header).take (n + 1)) =
      collect ((segmentTexts header).take n) ++ contribution header n := by
  rw [collect_take_succ, contribution_eq, parse_frontOf]
  rfl

theorem collect_take (header : String) (n : Nat) :
    collect ((segmentTexts header).take n) = (List.range n).flatMap (contribution header) := by
  induction n with
  | zero => rfl
  | succ n ih =>
    rw [collect_front_succ, ih, List.range_succ, List.flatMap_append, List.flatMap_singleton]

/-- The segments in front have given the same entries, whether those that gave none are there or
not. So the next segment finds the same. -/
theorem collect_kept (hgone : ∀ n, gone n = true → contribution header n = []) (n : Nat) :
    collect (kept gone ((segmentTexts header).take n)) =
      collect ((segmentTexts header).take n) := by
  induction n with
  | zero => rfl
  | succ n ih =>
    rw [kept_take_succ]
    by_cases hmissing : gone n = true
    · rw [if_pos hmissing, collect_front_succ, hgone n hmissing, List.append_nil, List.append_nil,
        ih]
    · rw [if_neg hmissing, collect_append, ih, ← collect_append, ← List.take_add_one]

theorem parse_of_gone (hgone : ∀ n, gone n = true → contribution header n = []) :
    parse (thinned gone header) = parse header := by
  have hcollect := collect_kept hgone (segmentTexts header).length
  rw [List.take_length] at hcollect
  rw [parse_eq_collect header, ← hcollect]
  exact parse_joined fun _ htext => comma_not_mem_segmentTexts (mem_of_mem_kept htext)

theorem map_readSegment_of_idle (header : String) (n : Nat) :
    (if isIdle header n = true then [] else (segmentTexts header)[n]?.toList).map readSegment =
      (contribution header n).map .ok := by
  have hcontribution := contribution_eq header n
  rw [isIdle]
  cases hfitting : (segmentTexts header)[n]?.bind (fitting? (parse (frontOf header n)).entries) with
  | none =>
    rw [hfitting, Option.toList_none] at hcontribution
    rw [hcontribution]
    rfl
  | some e =>
    obtain ⟨text, htext, he⟩ := Option.bind_eq_some_iff.mp hfitting
    rw [hfitting, Option.toList_some] at hcontribution
    rw [hcontribution, htext, List.map_singleton, ← (fitting?_eq_some_iff.mp he).1]
    rfl

/-- Without the idle ones, segments and entries go side by side. -/
theorem map_readSegment_kept (header : String) (n : Nat) :
    (kept (isIdle header) ((segmentTexts header).take n)).map readSegment =
      (collect ((segmentTexts header).take n)).map .ok := by
  induction n with
  | zero => rfl
  | succ n ih =>
    rw [collect_front_succ, kept_take_succ, List.map_append, List.map_append, ih,
      map_readSegment_of_idle]

theorem report_of_idle (header : String) :
    report (thinned (isIdle header) header) = ⟨parse header, [], 0⟩ := by
  have hread := map_readSegment_kept header (segmentTexts header).length
  rw [List.take_length] at hread
  have hcomma : ∀ text ∈ kept (isIdle header) (segmentTexts header), ',' ∉ text :=
    fun _ htext => comma_not_mem_segmentTexts (mem_of_mem_kept htext)
  have hmember : ∀ text ∈ kept (isIdle header) (segmentTexts header), notBlank text = true := by
    intro text htext
    have hmem := List.mem_map_of_mem (f := readSegment) htext
    rw [hread] at hmem
    obtain ⟨e, _, he⟩ := List.mem_map.mp hmem
    exact notBlank_of_readSegment he.symm
  have htokens := map_decode_tokenize (thinned (isIdle header) header)
  rw [← segmentTexts, thinned, members_joined hcomma, List.filter_eq_self.mpr hmember,
    hread] at htokens
  have hfits : Fits ([] ++ collect (segmentTexts header)) := by
    have hparse := (Baggage.wellFormed_parse header).fits
    rwa [parse_eq_collect] at hparse
  have hreport := readFrom_of_fits noteSkip ([], 0) hfits htokens
  rw [List.nil_append, ← parse_eq_collect, Baggage.charge_nil] at hreport
  rw [report, readHeader, thinned, hreport]

/-- The entries of a header are what its segments contribute, each of them at most the one entry
that it says. A header that is without some of the segments that contribute nothing is read to the
same baggage, and without all of them there is nothing left to skip. -/
theorem parse_thinned (header : String) :
    (parse header).entries =
      (List.range (segmentTexts header).length).flatMap (contribution header) ∧
    (∀ n, contribution header n =
      ((segmentTexts header)[n]?.bind (fitting? (parse (frontOf header n)).entries)).toList) ∧
    (∀ gone : Nat → Bool, (∀ n, gone n = true → contribution header n = []) →
      parse (thinned gone header) = parse header) ∧
    report (thinned (isIdle header) header) = ⟨parse header, [], 0⟩ := by
  refine ⟨?_, contribution_eq header, fun gone => parse_of_gone, report_of_idle header⟩
  rw [parse_eq_collect, ← collect_take, List.take_length]
  rfl

theorem parse_thinned_of_repeated :
    (∀ n, (n == 2 || n == 4) = true → contribution "a=1,b,, b=2, a=3" n = []) ∧
    parse (thinned (fun n => n == 2 || n == 4) "a=1,b,, b=2, a=3") = parse "a=1,b,, b=2, a=3" := by
  have hgone : ∀ n, (n == 2 || n == 4) = true → contribution "a=1,b,, b=2, a=3" n = [] := by
    intro n hn
    rw [Bool.or_eq_true, beq_iff_eq, beq_iff_eq] at hn
    rcases hn with rfl | rfl
    · decide +kernel
    · decide +kernel
  exact ⟨hgone, (parse_thinned "a=1,b,, b=2, a=3").2.2.1 _ hgone⟩

example : thinned (isIdle "a=1,b,, b=2, a=3") "a=1,b,, b=2, a=3" = "a=1, b=2" := by decide +kernel

end Collecting

end ContextBaggage.Header
