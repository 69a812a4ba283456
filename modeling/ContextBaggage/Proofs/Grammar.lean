import ContextBaggage.Proofs.Segments
import Mathlib.Data.List.Basic

/-!
# The grammar of a header

`Segment` lists the ways in which a segment of a header is spelled. A segment is blank, it has no
equals sign, or it is a member, whose parts may have blanks around them and must be free of the
separators that would end them. A semicolon before the equals sign thus belongs to the key, and an
equals sign behind it to the value or the metadata.

Every header is spelled in this way, and `tokenize` gives back what was spelled. `Walk` is the scan
that goes through a header segment by segment: it comes to an end for every header, and what it
finds are the tokens.
-/

namespace ContextBaggage.Header

open ContextBaggage.Text

def blanks (n : Nat) : List Char := List.replicate n ' '

/-- A text with blanks around it, in which no separator occurs and that has no blanks of its own at
its ends. -/
structure Padded (separators : List Char) where
  before : Nat
  text : List Char
  after : Nat
  free : ∀ c ∈ separators, c ∉ text
  head : text.head? ≠ some ' '
  last : text.getLast? ≠ some ' '

inductive Segment
  | blank (width : Nat)
  | bare (text : List Char) (nonblank : ∃ c ∈ text, c ≠ ' ') (comma : ',' ∉ text)
      (equals : '=' ∉ text)
  | member (key : Padded [',', '=']) (value : Padded [',', ';']) (metadata : Option (Padded [',']))

def Padded.spelling {separators : List Char} (part : Padded separators) : List Char :=
  blanks part.before ++ part.text ++ blanks part.after

def Segment.spelling : Segment → List Char
  | blank width => blanks width
  | bare text _ _ _ => text
  | member key value none => key.spelling ++ '=' :: value.spelling
  | member key value (some metadata) =>
    key.spelling ++ '=' :: (value.spelling ++ ';' :: metadata.spelling)

def spelling (segments : List Segment) : String :=
  String.ofList ([','].intercalate (segments.map Segment.spelling))

/-- What a segment says. Metadata that is left out is empty. -/
def Segment.token? : Segment → Option (Except Rejection (List Char × List Char × List Char))
  | blank _ => none
  | bare _ _ _ _ => some (.error .noSeparator)
  | member key value metadata =>
    some (.ok (key.text, value.text, metadata.elim [] Padded.text))

theorem isBlank_of_mem_blanks {n : Nat} {c : Char} (h : c ∈ blanks n) : isBlank c = true :=
  isBlank_iff.mpr (List.eq_of_mem_replicate h)

theorem exists_blanks {text : List Char} (h : ∀ c ∈ text, isBlank c = true) :
    ∃ n, blanks n = text :=
  ⟨text.length, (List.eq_replicate_of_mem fun c hc => isBlank_iff.mp (h c hc)).symm⟩

namespace Padded
variable {separators : List Char} (part : Padded separators)

theorem trim_spelling : Text.trim isBlank part.spelling = part.text := by
  rw [spelling, List.append_assoc, trim_append_left fun c => isBlank_of_mem_blanks,
    trim_append_right fun c => isBlank_of_mem_blanks]
  apply trim_of_ends
  · intro c hc
    apply isBlank_eq_false_iff.mpr
    rintro rfl
    exact part.head hc
  · intro c hc
    apply isBlank_eq_false_iff.mpr
    rintro rfl
    exact part.last hc

theorem not_mem_spelling {c : Char} (hc : c ∈ separators) (hblank : c ≠ ' ') :
    c ∉ part.spelling := by
  have hpad : ∀ n, c ∉ blanks n := fun n hmem => hblank (List.eq_of_mem_replicate hmem)
  rw [spelling, List.mem_append, List.mem_append]
  rintro ((hmem | hmem) | hmem)
  · exact hpad _ hmem
  · exact part.free c hc hmem
  · exact hpad _ hmem

theorem exists_spelling {text : List Char} (h : ∀ c ∈ separators, c ∉ text) :
    ∃ part : Padded separators, part.spelling = text := by
  obtain ⟨back, htext, hback⟩ := exists_trim_append isBlank text
  obtain ⟨before, hbefore⟩ := exists_blanks (List.all_eq_true.mp List.all_takeWhile)
  obtain ⟨after, rfl⟩ := exists_blanks hback
  rw [← hbefore] at htext
  have hfree : ∀ c ∈ separators, c ∉ Text.trim isBlank text :=
    fun c hc hmem => h c hc (trim_sublist.mem hmem)
  have hhead : (Text.trim isBlank text).head? ≠ some ' ' :=
    fun hspace => isBlank_eq_false_iff.mp (head?_trim ' ' hspace) rfl
  have hlast : (Text.trim isBlank text).getLast? ≠ some ' ' :=
    fun hspace => isBlank_eq_false_iff.mp (getLast?_trim ' ' hspace) rfl
  exact ⟨⟨before, Text.trim isBlank text, after, hfree, hhead, hlast⟩, htext.symm⟩

end Padded

namespace Segment

theorem comma_not_mem_spelling (s : Segment) : ',' ∉ s.spelling := by
  cases s with
  | blank width =>
    intro hmem
    exact absurd (List.eq_of_mem_replicate hmem) (by decide)
  | bare text nonblank comma equals => exact comma
  | member key value metadata =>
    have hkey := key.not_mem_spelling (c := ',') (by decide) (by decide)
    have hvalue := value.not_mem_spelling (c := ',') (by decide) (by decide)
    cases metadata with
    | none => simp [spelling, hkey, hvalue]
    | some metadata =>
      have hmetadata := metadata.not_mem_spelling (c := ',') (by decide) (by decide)
      simp [spelling, hkey, hvalue, hmetadata]

/-- A segment says what is read from its spelling, unless that is blank. -/
theorem token?_eq (s : Segment) :
    s.token? = if notBlank s.spelling then some (readTexts s.spelling) else none := by
  cases s with
  | blank width =>
    have hblank : ¬notBlank (blanks width) = true := by
      rw [notBlank_iff]
      rintro ⟨c, hmem, hc⟩
      exact hc (List.eq_of_mem_replicate hmem)
    exact (if_neg hblank).symm
  | bare text nonblank comma equals =>
    have hread : readTexts text = .error .noSeparator := readTexts_of_not_mem equals
    rw [spelling, if_pos (notBlank_iff.mpr nonblank), hread]
    rfl
  | member key value metadata =>
    have hkey := key.not_mem_spelling (c := '=') (by decide) (by decide)
    have hvalue := value.not_mem_spelling (c := ';') (by decide) (by decide)
    cases metadata with
    | none =>
      rw [spelling, if_pos (notBlank_of_equals (by simp)), readTexts_of_bare hkey hvalue,
        key.trim_spelling, value.trim_spelling]
      rfl
    | some metadata =>
      rw [spelling, if_pos (notBlank_of_equals (by simp)), readTexts_of_full hkey hvalue,
        key.trim_spelling, value.trim_spelling, metadata.trim_spelling]
      rfl

theorem exists_spelling {text : List Char} (hcomma : ',' ∉ text) :
    ∃ s : Segment, s.spelling = text := by
  by_cases hequals : '=' ∈ text
  · obtain ⟨front, back, rfl, hfront⟩ := List.eq_append_cons_of_mem hequals
    simp only [List.mem_append, List.mem_cons, not_or] at hcomma
    obtain ⟨key, rfl⟩ : ∃ key : Padded [',', '='], key.spelling = front :=
      Padded.exists_spelling (by simp [hcomma, hfront])
    by_cases hsemicolon : ';' ∈ back
    · obtain ⟨middle, tail, rfl, hmiddle⟩ := List.eq_append_cons_of_mem hsemicolon
      simp only [List.mem_append, List.mem_cons, not_or] at hcomma
      obtain ⟨value, rfl⟩ : ∃ value : Padded [',', ';'], value.spelling = middle :=
        Padded.exists_spelling (by simp [hcomma, hmiddle])
      obtain ⟨metadata, rfl⟩ : ∃ metadata : Padded [','], metadata.spelling = tail :=
        Padded.exists_spelling (by simp [hcomma])
      exact ⟨.member key value (some metadata), rfl⟩
    · obtain ⟨value, rfl⟩ : ∃ value : Padded [',', ';'], value.spelling = back :=
        Padded.exists_spelling (by simp [hcomma, hsemicolon])
      exact ⟨.member key value none, rfl⟩
  · by_cases hblank : ∃ c ∈ text, c ≠ ' '
    · exact ⟨.bare text hblank hcomma hequals, rfl⟩
    · simp only [not_exists, not_and, not_not] at hblank
      obtain ⟨width, rfl⟩ := exists_blanks fun c hc => isBlank_iff.mpr (hblank c hc)
      exact ⟨.blank width, rfl⟩

theorem exists_spellings {texts : List (List Char)} (h : ∀ text ∈ texts, ',' ∉ text) :
    ∃ segments : List Segment, segments.map spelling = texts := by
  induction texts with
  | nil => exact ⟨[], rfl⟩
  | cons text rest ih =>
    obtain ⟨s, rfl⟩ := exists_spelling (h text List.mem_cons_self)
    obtain ⟨segments, rfl⟩ := ih fun other hother => h other (List.mem_cons_of_mem _ hother)
    exact ⟨s :: segments, rfl⟩

theorem filterMap_token? (segments : List Segment) :
    segments.filterMap token? =
      ((segments.map spelling).filter notBlank).map readTexts := by
  rw [← List.filterMap_eq_map, List.filterMap_filter, List.filterMap_map]
  apply List.filterMap_congr
  intro s _
  exact s.token?_eq

end Segment

theorem map_texts_tokenize_spelling (segments : List Segment) :
    (tokenize (spelling segments)).map (·.map Member.texts) =
      segments.filterMap Segment.token? := by
  rw [map_texts_tokenize, Segment.filterMap_token?, spelling, String.toList_ofList]
  cases segments with
  | nil => rfl
  | cons s others =>
    rw [List.splitOn_intercalate ',' _ (by simp)]
    intro text hmem
    obtain ⟨other, _, rfl⟩ := List.mem_map.mp hmem
    exact other.comma_not_mem_spelling

theorem exists_segments (header : String) : ∃ segments, spelling segments = header := by
  have hcommas : ∀ text ∈ header.toList.splitOn ',', ',' ∉ text :=
    fun _ => not_mem_of_mem_splitOn
  obtain ⟨segments, hsegments⟩ := Segment.exists_spellings hcommas
  refine ⟨segments, ?_⟩
  rw [spelling, hsegments, List.intercalate_splitOn, String.ofList_toList]

section Walking
variable {rest behind : Piece} {left : Option Piece}
  {tokens : List (Except Rejection Member)}

/-- The segment that comes first in the rest of a header, and what is behind its comma if it has
one. -/
def turn (rest : Piece) : Piece × Option Piece :=
  match rest.cut? ',' with
  | some (segment, behind) => (segment, some behind)
  | none => (rest, none)

/-- Goes through what is left of a header. Behind a comma there is always one more segment, be it
empty; only behind the last segment nothing is left. -/
inductive Walk : Option Piece → List (Except Rejection Member) → Prop
  | ended : Walk none []
  | blank {rest : Piece} {tokens : List (Except Rejection Member)}
      (h : (turn rest).1.trim.text = []) (hrest : Walk (turn rest).2 tokens) :
      Walk (some rest) tokens
  | member {rest : Piece} {tokens : List (Except Rejection Member)}
      (h : (turn rest).1.trim.text ≠ []) (hrest : Walk (turn rest).2 tokens) :
      Walk (some rest) (Member.ofPiece (turn rest).1.trim :: tokens)

/-- The segments of what is left of a header. -/
def segmentsOf : Option Piece → List Piece
  | none => []
  | some rest => Piece.split ',' rest.start rest.text

def tokensOf (left : Option Piece) : List (Except Rejection Member) :=
  (((segmentsOf left).map Piece.trim).filter fun segment => !segment.text.isEmpty).map
    Member.ofPiece

theorem segmentsOf_some (rest : Piece) :
    segmentsOf (some rest) = (turn rest).1 :: segmentsOf (turn rest).2 := by
  unfold turn
  cases hcut : rest.cut? ',' with
  | none =>
    rw [Piece.cut?_eq_none_iff] at hcut
    exact Piece.split_of_not_mem hcut rest.start
  | some sides =>
    obtain ⟨segment, behind⟩ := sides
    obtain ⟨htext, hcomma, hstart, hbehind⟩ := Piece.cut?_eq_some_iff.mp hcut
    show Piece.split ',' rest.start rest.text =
      segment :: Piece.split ',' behind.start behind.text
    rw [htext, Piece.split_append_cons hcomma, hbehind, ← hstart]
    rfl

theorem length_turn (h : (turn rest).2 = some behind) : behind.text.length < rest.text.length := by
  unfold turn at h
  cases hcut : rest.cut? ',' with
  | none =>
    rw [hcut] at h
    cases h
  | some sides =>
    rw [hcut] at h
    obtain rfl := Option.some.inj h
    rw [(Piece.cut?_eq_some_iff.mp hcut).1, List.length_append, List.length_cons]
    omega

theorem tokensOf_some (rest : Piece) : tokensOf (some rest) =
    if (turn rest).1.trim.text = [] then tokensOf (turn rest).2
    else Member.ofPiece (turn rest).1.trim :: tokensOf (turn rest).2 := by
  rw [tokensOf, segmentsOf_some, List.map_cons, List.filter_cons]
  by_cases hblank : (turn rest).1.trim.text = []
  · rw [if_pos hblank, if_neg (by rw [hblank]; decide), tokensOf]
  · rw [if_neg hblank, if_pos (by simpa using hblank), List.map_cons, tokensOf]

theorem Walk.eq_tokensOf (h : Walk left tokens) : tokens = tokensOf left := by
  induction h with
  | ended => rfl
  | blank hblank _ ih => rw [tokensOf_some, if_pos hblank, ih]
  | member hmember _ ih => rw [tokensOf_some, if_neg hmember, ih]

/-- Every turn leaves less, so the walk comes to an end. -/
theorem walk_tokensOf_some (rest : Piece) : Walk (some rest) (tokensOf (some rest)) := by
  induction hlength : rest.text.length using Nat.strong_induction_on generalizing rest with
  | h length ih =>
    have hbehind : Walk (turn rest).2 (tokensOf (turn rest).2) := by
      cases hturn : (turn rest).2 with
      | none => exact .ended
      | some behind =>
        have hless := length_turn hturn
        rw [hlength] at hless
        exact ih behind.text.length hless behind rfl
    rw [tokensOf_some]
    split
    · next hblank => exact .blank hblank hbehind
    · next hmember => exact .member hmember hbehind

theorem walk_iff (rest : Piece) : Walk (some rest) tokens ↔ tokens = tokensOf (some rest) := by
  constructor
  · exact Walk.eq_tokensOf
  · rintro rfl
    exact walk_tokensOf_some rest

end Walking

/-- The tokens of a header are what its segments say, however they are spelled, and there is no
header that is not a spelling of segments. The scan that walks through a header ends with its tokens
and in no other way. -/
theorem tokenize_grammar :
    (∀ segments, (tokenize (spelling segments)).map (·.map Member.texts) =
      segments.filterMap Segment.token?) ∧
    (∀ header, ∃ segments, spelling segments = header) ∧
    ∀ header tokens, Walk (some ⟨0, header.toList⟩) tokens ↔ tokens = tokenize header := by
  refine ⟨map_texts_tokenize_spelling, exists_segments, ?_⟩
  intro header tokens
  exact walk_iff ⟨0, header.toList⟩

example : (tokenize " a;b = c=d ;e=f,,  ,= ,g, ").map (·.map Member.texts) =
    [.ok ("a;b".toList, "c=d".toList, "e=f".toList), .ok ([], [], []), .error .noSeparator] := by
  decide +kernel

end ContextBaggage.Header
