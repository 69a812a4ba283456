import ContextBaggage.Proofs.Grammar
import Mathlib.Data.String.Basic

/-!
# Where the parts of a member stand

A piece carries its text, so that no part of a member is ever cut out of the header again. This
module shows that it could be: a piece of a header lies within it, its ends are character
boundaries, and between them the header has the piece's text.

`Layout` says what a member leaves of its segment: blanks, the equals sign and at most one
semicolon. From it follows in which order the parts stand. Segments are the longest stretches
without a comma, so there is one between any two members, and a header in front of a comma and a
header behind it are read one by one.
-/

namespace ContextBaggage.Header

open ContextBaggage.Text

theorem utf8Len_eq (text : List Char) : String.utf8Len text = byteLength text := by
  induction text with
  | nil => rfl
  | cons c rest ih => rw [String.utf8Len_cons, ih, byteLength_cons, Nat.add_comm]

theorem isValid_of_append {header : String} {front back : List Char}
    (h : header.toList = front ++ back) : String.Pos.Raw.IsValid header ⟨byteLength front⟩ := by
  refine String.Pos.Raw.isValid_iff_exists_append.mpr ⟨.ofList front, .ofList back, ?_, ?_⟩
  · rw [← String.ofList_append, ← h, String.ofList_toList]
  · rw [String.rawEndPos, ← byteLength_toList, String.toList_ofList]

namespace Piece
variable {p q r : Piece} {c : Char} {place : Nat}

/-- The header as one piece. -/
def whole (header : String) : Piece := ⟨0, header.toList⟩

/-- A piece lies within another one if that has the same text at the same place. -/
def Within (p q : Piece) : Prop :=
  ∃ before after, q.text = before ++ p.text ++ after ∧ p.start = q.start + byteLength before

/-- A character stands at a place of a piece. -/
def HasAt (p : Piece) (c : Char) (place : Nat) : Prop :=
  ∃ before after, p.text = before ++ c :: after ∧ place = p.start + byteLength before

/-- A character stands at a place of a piece and nowhere in front of it. -/
def FirstAt (p : Piece) (c : Char) (place : Nat) : Prop :=
  ∃ before after, p.text = before ++ c :: after ∧ c ∉ before ∧
    place = p.start + byteLength before

/-- A longest stretch of a piece without a comma. -/
def IsSegmentOf (p q : Piece) : Prop :=
  ∃ before after, q.text = before ++ p.text ++ after ∧ p.start = q.start + byteLength before ∧
    ',' ∉ p.text ∧ (∀ c, before.getLast? = some c → c = ',') ∧ ∀ c, after.head? = some c → c = ','

theorem Within.trans (hp : p.Within q) (hq : q.Within r) : p.Within r := by
  obtain ⟨before, after, htext, hstart⟩ := hp
  obtain ⟨front, back, houter, hfront⟩ := hq
  refine ⟨front ++ before, after ++ back, ?_, ?_⟩
  · rw [houter, htext]
    simp only [List.append_assoc]
  · rw [hstart, hfront, byteLength_append]
    omega

theorem Within.bounds (h : p.Within q) : q.start ≤ p.start ∧ p.stop ≤ q.stop := by
  obtain ⟨before, after, htext, hstart⟩ := h
  simp only [stop, size, htext, byteLength_append]
  omega

theorem HasAt.of_within (hp : p.HasAt c place) (h : p.Within q) : q.HasAt c place := by
  obtain ⟨before, after, htext, rfl⟩ := hp
  obtain ⟨front, back, houter, hfront⟩ := h
  refine ⟨front ++ before, after ++ back, ?_, ?_⟩
  · rw [houter, htext]
    simp only [List.append_assoc, List.cons_append]
  · rw [hfront, byteLength_append]
    omega

theorem IsSegmentOf.within (h : p.IsSegmentOf q) : p.Within q := by
  obtain ⟨before, after, htext, hstart, -⟩ := h
  exact ⟨before, after, htext, hstart⟩

section Slices
variable {header : String}

/-- The piece is what the header has between two of its character boundaries. -/
structure IsSliceOf (p : Piece) (header : String) : Prop where
  start : String.Pos.Raw.IsValid header ⟨p.start⟩
  stop : String.Pos.Raw.IsValid header ⟨p.stop⟩
  content : String.Pos.Raw.extract header ⟨p.start⟩ ⟨p.stop⟩ = p.content

theorem Within.isSliceOf (h : p.Within (whole header)) : p.IsSliceOf header := by
  obtain ⟨before, after, htext, hstart⟩ := h
  have htext : header.toList = before ++ p.text ++ after := htext
  have hstart : p.start = byteLength before := by rw [hstart, whole, Nat.zero_add]
  have hstop : p.stop = byteLength (before ++ p.text) := by
    rw [stop, size, hstart, byteLength_append]
  refine ⟨?_, ?_, ?_⟩
  · rw [hstart]
    exact isValid_of_append (htext.trans (List.append_assoc _ _ _))
  · rw [hstop]
    exact isValid_of_append htext
  · have hslice := String.extract_of_valid before p.text after
    rw [← htext, String.ofList_toList, utf8Len_eq, utf8Len_eq] at hslice
    rwa [hstop, hstart, byteLength_append]

end Slices

section Splitting
variable {text : List Char} {start : Nat}

theorem isSegmentOf_of_mem_split (h : p ∈ split ',' start text) : p.IsSegmentOf ⟨start, text⟩ := by
  induction text using separated_induction ',' generalizing start with
  | last text hnot =>
    rw [split_of_not_mem hnot] at h
    obtain rfl := List.mem_singleton.mp h
    exact ⟨[], [], (List.append_nil text).symm, rfl, hnot, by simp, by simp⟩
  | more first rest hnot ih =>
    rw [split_append_cons hnot] at h
    rcases List.mem_cons.mp h with rfl | h
    · exact ⟨[], ',' :: rest, rfl, rfl, hnot, by simp, by simp⟩
    · obtain ⟨before, after, htext, hstart, hcomma, hbefore, hafter⟩ := ih h
      have htext : rest = before ++ p.text ++ after := htext
      have hstart : p.start = start + byteLength first + Char.utf8Size ',' + byteLength before :=
        hstart
      refine ⟨first ++ ',' :: before, after, ?_, ?_, hcomma, ?_, hafter⟩
      · simp [htext]
      · simp only [hstart, byteLength_append, byteLength_cons]
        omega
      · intro c hc
        rw [List.getLast?_append, List.getLast?_cons] at hc
        cases hlast : before.getLast? with
        | none =>
          rw [hlast] at hc
          exact (Option.some.inj hc).symm
        | some d =>
          rw [hlast] at hc
          obtain rfl : d = c := Option.some.inj hc
          exact hbefore d hlast

theorem pairwise_split : (split ',' start text).Pairwise fun p q =>
    ∃ comma, p.stop ≤ comma ∧ comma < q.start ∧ HasAt ⟨start, text⟩ ',' comma := by
  induction text using separated_induction ',' generalizing start with
  | last text hnot =>
    rw [split_of_not_mem hnot]
    exact List.pairwise_singleton _ _
  | more first rest hnot ih =>
    rw [split_append_cons hnot, List.pairwise_cons]
    constructor
    · intro q hq
      have hbounds := (isSegmentOf_of_mem_split hq).within.bounds
      refine ⟨start + byteLength first, Nat.le_refl _, ?_, first, rest, rfl, rfl⟩
      have hcomma : Char.utf8Size ',' = 1 := rfl
      simp only [hcomma] at hbounds
      omega
    · have hwithin : Within ⟨start + byteLength first + Char.utf8Size ',', rest⟩
          ⟨start, first ++ ',' :: rest⟩ := by
        refine ⟨first ++ [','], [], by simp, ?_⟩
        rw [byteLength_append, Nat.add_assoc]
        rfl
      apply ih.imp
      rintro p q ⟨comma, hp, hq, hcomma⟩
      exact ⟨comma, hp, hq, hcomma.of_within hwithin⟩

theorem split_append (before after : List Char) (start : Nat) :
    split ',' start (before ++ ',' :: after) =
      split ',' start before ++ split ',' (start + byteLength before + 1) after := by
  induction before using separated_induction ',' generalizing start with
  | last text hnot =>
    rw [split_append_cons hnot, split_of_not_mem hnot]
    rfl
  | more first rest hnot ih =>
    rw [List.append_assoc, List.cons_append, split_append_cons hnot, split_append_cons hnot, ih,
      byteLength_append, byteLength_cons]
    simp only [List.cons_append, Nat.add_assoc]

theorem split_shift (n : Nat) (text : List Char) (start : Nat) :
    split ',' (start + n) text = (split ',' start text).map (shift n) := by
  induction text using separated_induction ',' generalizing start with
  | last text hnot =>
    rw [split_of_not_mem hnot, split_of_not_mem hnot]
    rfl
  | more first rest hnot ih =>
    have hplace : start + n + byteLength first + Char.utf8Size ',' =
        start + byteLength first + Char.utf8Size ',' + n := by omega
    rw [split_append_cons hnot, split_append_cons hnot, hplace, ih]
    rfl

end Splitting

end Piece

/-- What is left of a segment beside the parts of its member: blanks, the equals sign and the
semicolon if there is one. All but the signs are numbers of blanks. -/
structure Gaps where
  front : Nat
  beforeEquals : Nat
  behindEquals : Nat
  semicolon : Option (Nat × Nat)
  back : Nat

/-- What stands between value and metadata. -/
def Gaps.middle (gaps : Gaps) : List Char :=
  gaps.semicolon.elim [] fun around => blanks around.1 ++ ';' :: blanks around.2

theorem blanks_add (m n : Nat) : blanks (m + n) = blanks m ++ blanks n :=
  List.replicate_add m n ' '

theorem byteLength_blanks (n : Nat) : byteLength (blanks n) = n := by
  induction n with
  | zero => rfl
  | succ n ih =>
    rw [blanks_add, byteLength_append, ih]
    rfl

theorem equals_not_mem_blanks (n : Nat) : '=' ∉ blanks n := by
  intro hmem
  exact absurd (List.eq_of_mem_replicate hmem) (by decide)

theorem Piece.exists_blanks_trim (p : Piece) : ∃ front back,
    p.text = blanks front ++ p.trim.text ++ blanks back ∧ p.trim.start = p.start + front ∧
      p.size = front + p.trim.size + back := by
  obtain ⟨after, htext, hafter⟩ := exists_trim_append isBlank p.text
  obtain ⟨front, hfront⟩ := exists_blanks (List.all_eq_true.mp (List.all_takeWhile (l := p.text)))
  obtain ⟨back, rfl⟩ := exists_blanks hafter
  rw [← hfront] at htext
  refine ⟨front, back, htext, ?_, ?_⟩
  · rw [← byteLength_blanks front, hfront]
    rfl
  · have hlength := congrArg byteLength htext
    simp only [byteLength_append, byteLength_blanks] at hlength
    exact hlength

/-- Where a text does not end in a blank, trimming leaves its end alone. -/
theorem Piece.exists_blanks_trim_of_getLast? {p : Piece} (h : p.text.getLast? ≠ some ' ') :
    ∃ front, p.text = blanks front ++ p.trim.text ∧ p.trim.start = p.start + front ∧
      p.size = front + p.trim.size := by
  obtain ⟨front, back, htext, hstart, hsize⟩ := p.exists_blanks_trim
  cases back with
  | zero => exact ⟨front, by simpa [blanks] using htext, hstart, hsize⟩
  | succ back =>
    rw [htext, blanks_add, ← List.append_assoc] at h
    exact absurd List.getLast?_concat h

namespace Member
variable {m : Member} {segment key value metadata rest : Piece} {sign : Nat} {gaps : Gaps}

/-- Where the parts of a member stand in its segment, and what stands around them. The equals sign
is at the place `sign`. -/
structure Layout (m : Member) (segment : Piece) (sign : Nat) (gaps : Gaps) : Prop where
  text : segment.text = blanks gaps.front ++ m.key.text ++ blanks gaps.beforeEquals ++ '=' ::
    (blanks gaps.behindEquals ++ m.value.text ++ gaps.middle ++ m.metadata.text ++
      blanks gaps.back)
  keyStart : m.key.start = segment.start + gaps.front
  signPlace : sign = m.key.stop + gaps.beforeEquals
  valueStart : m.value.start = sign + 1 + gaps.behindEquals
  metadataStart : m.metadata.start = m.value.stop + byteLength gaps.middle
  signFirst : '=' ∉ m.key.text
  bare : gaps.semicolon = none → m.metadata.text = []

theorem layout_full (hkey : segment.trim.cut? '=' = some (key, rest))
    (hvalue : rest.cut? ';' = some (value, metadata)) :
    ∃ sign gaps, Layout ⟨key.trim, value.trim, metadata.trim⟩ segment sign gaps := by
  obtain ⟨htext, hequals, hkeyStart, hrest⟩ := Piece.cut?_eq_some_iff.mp hkey
  obtain ⟨hrestText, -, hvalueStart, hmetadata⟩ := Piece.cut?_eq_some_iff.mp hvalue
  obtain ⟨front, back, hsegment, hstart, -⟩ := segment.exists_blanks_trim
  obtain ⟨k, k', hk, hkStart, hkSize⟩ := key.exists_blanks_trim
  obtain ⟨v, v', hv, hvStart, hvSize⟩ := value.exists_blanks_trim
  obtain ⟨d, d', hd, hdStart, -⟩ := metadata.exists_blanks_trim
  have hone : Char.utf8Size '=' = 1 ∧ Char.utf8Size ';' = 1 := ⟨rfl, rfl⟩
  refine ⟨key.trim.stop + k', ⟨front + k, k', v, some (v', d), d' + back⟩,
    ⟨?_, ?_, rfl, ?_, ?_, fun hmem => hequals (trim_sublist.mem hmem), nofun⟩⟩
  · rw [hsegment, htext, hrestText, hk, hv, hd]
    simp [Gaps.middle, blanks_add]
  · simp only
    omega
  · simp only [Piece.stop]
    omega
  · simp only [Piece.stop, Gaps.middle, Option.elim_some, byteLength_append, byteLength_cons,
      byteLength_blanks]
    omega

theorem layout_bare (hkey : segment.trim.cut? '=' = some (key, rest)) :
    ∃ sign gaps, Layout ⟨key.trim, rest.trim, ⟨segment.trim.stop, []⟩⟩ segment sign gaps := by
  obtain ⟨htext, hequals, hkeyStart, hrest⟩ := Piece.cut?_eq_some_iff.mp hkey
  obtain ⟨front, back, hsegment, hstart, -⟩ := segment.exists_blanks_trim
  obtain ⟨k, k', hk, hkStart, hkSize⟩ := key.exists_blanks_trim
  -- without a semicolon the value goes on to the end of the trimmed segment
  have hlast : rest.text.getLast? ≠ some ' ' := by
    intro hblank
    have hend : segment.trim.text.getLast? = some ' ' := by
      rw [htext, List.getLast?_append, List.getLast?_cons, hblank]
      rfl
    exact isBlank_eq_false_iff.mp (getLast?_trim ' ' hend) rfl
  obtain ⟨v, hv, hvStart, hvSize⟩ := Piece.exists_blanks_trim_of_getLast? hlast
  have hone : Char.utf8Size '=' = 1 := rfl
  have hsize : segment.trim.size = key.size + 1 + rest.size := by
    rw [Piece.size, htext, byteLength_append, byteLength_cons, hone, Piece.size, Piece.size]
    omega
  refine ⟨key.trim.stop + k', ⟨front + k, k', v, none, back⟩,
    ⟨?_, ?_, rfl, ?_, ?_, fun hmem => hequals (trim_sublist.mem hmem), fun _ => rfl⟩⟩
  · rw [hsegment, htext, hk, hv]
    simp [Gaps.middle, blanks_add]
  · simp only
    omega
  · simp only [Piece.stop]
    omega
  · simp only [Piece.stop, Gaps.middle, Option.elim_none, byteLength_nil]
    omega

theorem exists_layout (h : ofPiece segment.trim = .ok m) :
    ∃ sign gaps, m.Layout segment sign gaps := by
  unfold ofPiece at h
  split at h
  · cases h
  · next key rest hkey =>
    split at h
    · next value metadata hvalue =>
      obtain rfl := Except.ok.inj h
      exact layout_full hkey hvalue
    · obtain rfl := Except.ok.inj h
      exact layout_bare hkey

section Consequences
variable (h : m.Layout segment sign gaps)
include h

theorem Layout.firstAt : segment.FirstAt '=' sign := by
  refine ⟨blanks gaps.front ++ m.key.text ++ blanks gaps.beforeEquals, _, h.text, ?_, ?_⟩
  · simp only [List.mem_append, not_or]
    exact ⟨⟨equals_not_mem_blanks _, h.signFirst⟩, equals_not_mem_blanks _⟩
  · have hstart := h.keyStart
    have hsign := h.signPlace
    simp only [Piece.stop, Piece.size] at hsign
    simp only [byteLength_append, byteLength_blanks]
    omega

theorem Layout.key_within : m.key.Within segment := by
  refine ⟨blanks gaps.front, blanks gaps.beforeEquals ++ '=' :: (blanks gaps.behindEquals ++
    m.value.text ++ gaps.middle ++ m.metadata.text ++ blanks gaps.back), ?_, ?_⟩
  · rw [h.text, List.append_assoc (blanks gaps.front ++ m.key.text)]
  · rw [byteLength_blanks, h.keyStart]

theorem Layout.value_within : m.value.Within segment := by
  have hone : Char.utf8Size '=' = 1 := rfl
  refine ⟨blanks gaps.front ++ m.key.text ++ blanks gaps.beforeEquals ++
    '=' :: blanks gaps.behindEquals, gaps.middle ++ m.metadata.text ++ blanks gaps.back, ?_, ?_⟩
  · rw [h.text]
    simp only [List.append_assoc, List.cons_append]
  · have hkey := h.keyStart
    have hsign := h.signPlace
    have hvalue := h.valueStart
    simp only [Piece.stop, Piece.size] at hsign
    simp only [byteLength_append, byteLength_cons, byteLength_blanks]
    omega

theorem Layout.metadata_within : m.metadata.Within segment := by
  have hone : Char.utf8Size '=' = 1 := rfl
  refine ⟨blanks gaps.front ++ m.key.text ++ blanks gaps.beforeEquals ++
    '=' :: (blanks gaps.behindEquals ++ m.value.text ++ gaps.middle), blanks gaps.back, ?_, ?_⟩
  · rw [h.text]
    simp only [List.append_assoc, List.cons_append]
  · have hkey := h.keyStart
    have hsign := h.signPlace
    have hvalue := h.valueStart
    have hmetadata := h.metadataStart
    simp only [Piece.stop, Piece.size] at hsign hmetadata
    simp only [byteLength_append, byteLength_cons, byteLength_blanks]
    omega

theorem Layout.ordered : m.key.start ≤ m.key.stop ∧ m.key.stop ≤ sign ∧ sign < m.value.start ∧
    m.value.start ≤ m.value.stop ∧ m.value.stop ≤ m.metadata.start ∧
      m.metadata.start ≤ m.metadata.stop := by
  have hsign := h.signPlace
  have hvalue := h.valueStart
  have hmetadata := h.metadataStart
  have hkeyStop : m.key.start ≤ m.key.stop := Nat.le_add_right _ _
  have hvalueStop : m.value.start ≤ m.value.stop := Nat.le_add_right _ _
  have hmetadataStop : m.metadata.start ≤ m.metadata.stop := Nat.le_add_right _ _
  omega

end Consequences

theorem ends_of_ofPiece (h : ofPiece segment = .ok m) {part : Piece}
    (hpart : part ∈ [m.key, m.value, m.metadata]) :
    part.text.head? ≠ some ' ' ∧ part.text.getLast? ≠ some ' ' := by
  have htrim : ∀ p : Piece, p.trim.text.head? ≠ some ' ' ∧ p.trim.text.getLast? ≠ some ' ' := by
    intro p
    exact ⟨fun hblank => isBlank_eq_false_iff.mp (head?_trim ' ' hblank) rfl,
      fun hblank => isBlank_eq_false_iff.mp (getLast?_trim ' ' hblank) rfl⟩
  unfold ofPiece at h
  split at h
  · cases h
  · split at h
    · obtain rfl := Except.ok.inj h
      simp only [List.mem_cons, List.not_mem_nil, or_false] at hpart
      rcases hpart with rfl | rfl | rfl <;> exact htrim _
    · obtain rfl := Except.ok.inj h
      simp only [List.mem_cons, List.not_mem_nil, or_false] at hpart
      rcases hpart with rfl | rfl | rfl
      · exact htrim _
      · exact htrim _
      · exact ⟨nofun, nofun⟩

theorem size_eq (m : Member) : m.size = (m.key.stop - m.key.start) +
    (m.value.stop - m.value.start) + (m.metadata.stop - m.metadata.start) := by
  simp only [size, Piece.stop]
  omega

end Member

section Tokens
variable {header : String} {m : Member}

theorem exists_segment_of_ok_mem (h : .ok m ∈ tokenize header) : ∃ segment : Piece,
    segment.IsSegmentOf (.whole header) ∧ Member.ofPiece segment.trim = .ok m := by
  obtain ⟨trimmed, hmem, hread⟩ := List.mem_map.mp h
  obtain ⟨segment, hsegment, rfl⟩ := List.mem_map.mp (List.mem_filter.mp hmem).1
  exact ⟨segment, Piece.isSegmentOf_of_mem_split hsegment, hread⟩

theorem pairwise_tokenize (header : String) : (tokenize header).Pairwise fun first second =>
    ∀ m n, first = .ok m → second = .ok n → ∃ comma, m.metadata.stop ≤ comma ∧
      comma < n.key.start ∧ (Piece.whole header).HasAt ',' comma := by
  unfold tokenize segments
  rw [List.pairwise_map]
  apply List.Pairwise.filter
  rw [List.pairwise_map]
  apply Piece.pairwise_split.imp
  rintro p q ⟨comma, hp, hq, hcomma⟩ m n hm hn
  obtain ⟨_, _, hfirst⟩ := Member.exists_layout hm
  obtain ⟨_, _, hsecond⟩ := Member.exists_layout hn
  have hstop := hfirst.metadata_within.bounds.2
  have hstart := hsecond.key_within.bounds.1
  exact ⟨comma, by omega, by omega, hcomma⟩

end Tokens

theorem tokens_shift (n : Nat) (pieces : List Piece) :
    (((pieces.map (Piece.shift n)).map Piece.trim).filter fun p => !p.text.isEmpty).map
        Member.ofPiece =
      (((pieces.map Piece.trim).filter fun p => !p.text.isEmpty).map Member.ofPiece).map
        (·.map (Member.shift n)) := by
  induction pieces with
  | nil => rfl
  | cons p pieces ih =>
    rw [List.map_cons, List.map_cons, List.map_cons, List.filter_cons, List.filter_cons,
      Piece.trim_shift, Piece.text_shift]
    split
    · rw [List.map_cons, List.map_cons, List.map_cons, Member.ofPiece_shift, ih]
    · exact ih

/-- What stands behind a comma is read as a header of its own, at places moved by what is in
front. -/
theorem tokenize_append (a b : String) : tokenize (a ++ "," ++ b) =
    tokenize a ++ (tokenize b).map (·.map (Member.shift (a.utf8ByteSize + 1))) := by
  have hsplit : Piece.split ',' 0 (a ++ "," ++ b).toList = Piece.split ',' 0 a.toList ++
      (Piece.split ',' 0 b.toList).map (Piece.shift (a.utf8ByteSize + 1)) := by
    rw [← Piece.split_shift, ← byteLength_toList, Nat.zero_add, String.toList_append,
      String.toList_append, List.append_assoc]
    simpa [Nat.add_assoc] using Piece.split_append a.toList b.toList 0
  unfold tokenize segments
  rw [hsplit, List.map_append, List.filter_append, List.map_append, tokens_shift]

/-- The parts of a member stand in its segment in their order, with nothing around them but blanks,
the equals sign and a semicolon, and each is what the header has between two character boundaries.
There is a comma between any two members, and both sides of a comma are read one by one. -/
theorem tokenize_places (header : String) :
    (∀ m, .ok m ∈ tokenize header → ∃ segment sign gaps,
      segment.IsSegmentOf (.whole header) ∧ segment.FirstAt '=' sign ∧
      m.Layout segment sign gaps ∧
      (m.key.start ≤ m.key.stop ∧ m.key.stop ≤ sign ∧ sign < m.value.start ∧
        m.value.start ≤ m.value.stop ∧ m.value.stop ≤ m.metadata.start ∧
        m.metadata.start ≤ m.metadata.stop ∧ m.metadata.stop ≤ header.utf8ByteSize) ∧
      (∀ part ∈ [m.key, m.value, m.metadata], part.IsSliceOf header ∧
        part.text.head? ≠ some ' ' ∧ part.text.getLast? ≠ some ' ') ∧
      m.size = (m.key.stop - m.key.start) + (m.value.stop - m.value.start) +
        (m.metadata.stop - m.metadata.start)) ∧
    ((tokenize header).Pairwise fun first second =>
      ∀ m n, first = .ok m → second = .ok n → ∃ comma, m.metadata.stop ≤ comma ∧
        comma < n.key.start ∧ (Piece.whole header).HasAt ',' comma) ∧
    ∀ behind : String, tokenize (header ++ "," ++ behind) = tokenize header ++
      (tokenize behind).map (·.map (Member.shift (header.utf8ByteSize + 1))) := by
  refine ⟨?_, pairwise_tokenize header, tokenize_append header⟩
  intro m hm
  obtain ⟨segment, hsegment, hread⟩ := exists_segment_of_ok_mem hm
  obtain ⟨sign, gaps, hlayout⟩ := Member.exists_layout hread
  have hordered := hlayout.ordered
  have hstop : m.metadata.stop ≤ header.utf8ByteSize := by
    have hbounds := (hlayout.metadata_within.trans hsegment.within).bounds.2
    have hwhole : (Piece.whole header).stop = header.utf8ByteSize := by
      rw [Piece.stop, Piece.size, ← byteLength_toList]
      exact Nat.zero_add _
    rwa [hwhole] at hbounds
  refine ⟨segment, sign, gaps, hsegment, hlayout.firstAt, hlayout, by omega, ?_, m.size_eq⟩
  intro part hpart
  refine ⟨?_, Member.ends_of_ofPiece hread hpart⟩
  simp only [List.mem_cons, List.not_mem_nil, or_false] at hpart
  rcases hpart with rfl | rfl | rfl
  · exact (hlayout.key_within.trans hsegment.within).isSliceOf
  · exact (hlayout.value_within.trans hsegment.within).isSliceOf
  · exact (hlayout.metadata_within.trans hsegment.within).isSliceOf

theorem tokenize_places_of_padded :
    .ok ⟨⟨6, ['k']⟩, ⟨10, ['v']⟩, ⟨13, ['m']⟩⟩ ∈ tokenize "é=1, k = v ;m" ∧
    ∃ segment sign gaps, segment.IsSegmentOf (.whole "é=1, k = v ;m") ∧
      segment.FirstAt '=' sign ∧
      Member.Layout ⟨⟨6, ['k']⟩, ⟨10, ['v']⟩, ⟨13, ['m']⟩⟩ segment sign gaps := by
  have hmem : .ok ⟨⟨6, ['k']⟩, ⟨10, ['v']⟩, ⟨13, ['m']⟩⟩ ∈ tokenize "é=1, k = v ;m" := by
    decide +kernel
  obtain ⟨segment, sign, gaps, hsegment, hfirst, hlayout, -⟩ :=
    (tokenize_places "é=1, k = v ;m").1 _ hmem
  exact ⟨hmem, segment, sign, gaps, hsegment, hfirst, hlayout⟩

end ContextBaggage.Header
