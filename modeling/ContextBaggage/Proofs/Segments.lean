import ContextBaggage.Header.Report
import Mathlib.Data.List.TakeWhile

/-!
# Segments and where they stand

A piece that is moved is cut, trimmed and split in the same way, only at other places. So whatever
is asked of the members without regard to their places can be asked segment by segment:
`tokenize` lists the segments that are not blank, and each of them gives an entry or a rejection of
its own, `readSegment`.

Which of these entries fit together is not a matter of this module.
-/

namespace ContextBaggage.Header

open ContextBaggage.Text

namespace Piece
variable {p before after : Piece} {separator : Char}

theorem eq_of_dropWhile {c : Char} {text rest : List Char}
    (h : text.dropWhile (· != separator) = c :: rest) : c = separator := by
  have hhead : (trimStart (· != separator) text).head? = some c := by simp [trimStart, h]
  simpa using head?_trimStart c hhead

theorem cut?_eq_some_iff : p.cut? separator = some (before, after) ↔
    p.text = before.text ++ separator :: after.text ∧ separator ∉ before.text ∧
      before.start = p.start ∧ after.start = p.start + before.size + separator.utf8Size := by
  constructor
  · intro h
    unfold cut? at h
    split at h
    · cases h
    · next c rest hrest =>
      have hsplit := List.takeWhile_append_dropWhile (p := (· != separator)) (l := p.text)
      obtain rfl := eq_of_dropWhile hrest
      simp only [Option.some.injEq, Prod.mk.injEq] at h
      obtain ⟨rfl, rfl⟩ := h
      refine ⟨by rw [← hrest, hsplit], ?_, rfl, rfl⟩
      intro hmem
      simpa using List.mem_takeWhile_imp hmem
  · rintro ⟨htext, hnot, hbefore, hafter⟩
    have hne : ∀ c ∈ before.text, (c != separator) = true := by
      intro c hc
      rw [bne_iff_ne]
      rintro rfl
      exact hnot hc
    have htake : p.text.takeWhile (· != separator) = before.text := by
      rw [htext, List.takeWhile_append_of_pos hne]
      simp
    have hdrop : p.text.dropWhile (· != separator) = separator :: after.text := by
      rw [htext, List.dropWhile_append_of_pos hne]
      simp
    unfold cut?
    rw [hdrop, htake]
    simp only [← hbefore] at hafter ⊢
    rw [← size, ← hafter]

theorem cut?_of_text {left right : List Char} (h : p.text = left ++ separator :: right)
    (hleft : separator ∉ left) : p.cut? separator =
      some (⟨p.start, left⟩, ⟨p.start + byteLength left + separator.utf8Size, right⟩) :=
  cut?_eq_some_iff.mpr ⟨h, hleft, rfl, rfl⟩

theorem cut?_eq_none_iff : p.cut? separator = none ↔ separator ∉ p.text := by
  unfold cut?
  split
  · next hnil =>
    rw [List.dropWhile_eq_nil_iff] at hnil
    refine ⟨fun _ hmem => ?_, fun _ => rfl⟩
    simpa using hnil separator hmem
  · next c rest hrest =>
    obtain rfl := eq_of_dropWhile hrest
    have hmem : c ∈ p.text := by
      rw [← List.takeWhile_append_dropWhile (p := (· != c)) (l := p.text), hrest]
      simp
    simp [hmem]

theorem split_of_not_mem {text : List Char} (h : separator ∉ text) (start : Nat) :
    split separator start text = [⟨start, text⟩] := by
  rw [split, List.splitOn_eq_singleton h]
  rfl

theorem split_append_cons {text : List Char} (h : separator ∉ text) (start : Nat)
    (rest : List Char) : split separator start (text ++ separator :: rest) =
      ⟨start, text⟩ :: split separator (start + byteLength text + separator.utf8Size) rest := by
  rw [split, List.splitOn_append_cons_self_of_not_mem h, placeFrom_cons]
  rfl

def shift (n : Nat) (p : Piece) : Piece := ⟨p.start + n, p.text⟩

@[simp] theorem text_shift (n : Nat) : (p.shift n).text = p.text := rfl

@[simp] theorem text_trim : p.trim.text = Text.trim isBlank p.text := rfl

theorem trim_shift (n : Nat) : (p.shift n).trim = p.trim.shift n := by
  simp only [trim, shift, Piece.mk.injEq, and_true]
  omega

theorem cut?_shift (n : Nat) : (p.shift n).cut? separator =
    (p.cut? separator).map fun sides => (sides.1.shift n, sides.2.shift n) := by
  unfold cut?
  rw [text_shift]
  split
  · rfl
  · simp only [shift, Option.map_some, Option.some.injEq, Prod.mk.injEq, Piece.mk.injEq, and_true,
      true_and]
    omega

end Piece

namespace Member
variable {m : Member}

def shift (n : Nat) (m : Member) : Member := ⟨m.key.shift n, m.value.shift n, m.metadata.shift n⟩

theorem ofPiece_shift (n : Nat) (segment : Piece) :
    ofPiece (segment.shift n) = (ofPiece segment).map (shift n) := by
  unfold ofPiece
  rw [Piece.cut?_shift]
  cases segment.cut? '=' with
  | none => rfl
  | some sides =>
    obtain ⟨key, rest⟩ := sides
    simp only [Option.map_some, Piece.cut?_shift]
    cases rest.cut? ';' with
    | none =>
      have hstop : (segment.shift n).stop = segment.stop + n := by
        simp only [Piece.stop, Piece.size, Piece.shift]
        omega
      simp only [Option.map_none, Piece.trim_shift, hstop]
      rfl
    | some sides =>
      simp only [Option.map_some, Piece.trim_shift]
      rfl

/-- A segment gives the same member wherever it stands, but for the place. -/
theorem ofPiece_trim (p : Piece) :
    ofPiece p.trim = (ofPiece (Piece.trim ⟨0, p.text⟩)).map (shift p.start) := by
  have hp : Piece.shift p.start ⟨0, p.text⟩ = p := by simp [Piece.shift]
  rw [← ofPiece_shift, ← Piece.trim_shift, hp]

theorem mem_of_mem_metadata {segment : Piece} (h : ofPiece segment = .ok m) {c : Char}
    (hc : c ∈ m.metadata.text) : c ∈ segment.text := by
  unfold ofPiece at h
  split at h
  · cases h
  next key rest hkey =>
    rw [(Piece.cut?_eq_some_iff.mp hkey).1]
    split at h
    · next value metadata hvalue =>
      cases h
      have hmem : c ∈ metadata.text := trim_sublist.mem hc
      rw [(Piece.cut?_eq_some_iff.mp hvalue).1]
      simp [hmem]
    · cases h
      simp at hc

end Member

/-- What the texts of the three parts decode to. -/
def readParts (key value metadata : List Char) : Except Rejection Entry :=
  Member.decode ⟨⟨0, key⟩, ⟨0, value⟩, ⟨0, metadata⟩⟩

/-- The texts of the three parts. -/
def Member.texts (m : Member) : List Char × List Char × List Char :=
  (m.key.text, m.value.text, m.metadata.text)

section Reading
variable {text key value metadata : List Char}

def notBlank (text : List Char) : Bool := !(Text.trim isBlank text).isEmpty

/-- The texts of the member that a segment is, if it is not blank. -/
def readTexts (text : List Char) : Except Rejection (List Char × List Char × List Char) :=
  (Member.ofPiece (Piece.trim ⟨0, text⟩)).map Member.texts

/-- The entry of a segment that is not blank. -/
def readSegment (text : List Char) : Except Rejection Entry :=
  (Member.ofPiece (Piece.trim ⟨0, text⟩)).bind Member.decode

theorem isBlank_iff {c : Char} : isBlank c = true ↔ c = ' ' := beq_iff_eq

theorem isBlank_eq_false_iff {c : Char} : isBlank c = false ↔ c ≠ ' ' := beq_eq_false_iff_ne

theorem notBlank_iff : notBlank text = true ↔ ∃ c ∈ text, c ≠ ' ' := by
  rw [notBlank, Bool.not_eq_true', List.isEmpty_eq_false_iff, ne_eq, trim_eq_nil_iff]
  simp only [isBlank_iff, not_forall, exists_prop, ne_eq]

theorem notBlank_of_equals (h : '=' ∈ text) : notBlank text = true :=
  notBlank_iff.mpr ⟨'=', h, by decide⟩

theorem readTexts_of_not_mem (h : '=' ∉ text) : readTexts text = .error .noSeparator := by
  have hcut : Piece.cut? '=' (Piece.trim ⟨0, text⟩) = none :=
    Piece.cut?_eq_none_iff.mpr fun hmem => h (trim_sublist.mem hmem)
  rw [readTexts, Member.ofPiece, hcut]
  rfl

/-- The blanks at the outer ends go when the segment is trimmed, and those at the inner ends when
its parts are. -/
theorem readTexts_of_bare (hkey : '=' ∉ key) (hvalue : ';' ∉ value) :
    readTexts (key ++ '=' :: value) =
      .ok (Text.trim isBlank key, Text.trim isBlank value, []) := by
  have htrim : (Piece.trim ⟨0, key ++ '=' :: value⟩).text =
      trimStart isBlank key ++ '=' :: trimEnd isBlank value := trim_append_cons (by decide) _ _
  have houter := Piece.cut?_of_text htrim fun hmem => hkey (trimStart_sublist.mem hmem)
  have hinner : ∀ start, Piece.cut? ';' ⟨start, trimEnd isBlank value⟩ = none :=
    fun start => Piece.cut?_eq_none_iff.mpr fun hmem => hvalue (trimEnd_sublist.mem hmem)
  unfold readTexts Member.ofPiece
  rw [houter]
  simp only [hinner]
  show Except.ok (Text.trim isBlank (trimStart isBlank key),
    Text.trim isBlank (trimEnd isBlank value), []) = _
  rw [trim_trimStart, trim_trimEnd]

theorem readTexts_of_full (hkey : '=' ∉ key) (hvalue : ';' ∉ value) :
    readTexts (key ++ '=' :: (value ++ ';' :: metadata)) =
      .ok (Text.trim isBlank key, Text.trim isBlank value, Text.trim isBlank metadata) := by
  have htrim : (Piece.trim ⟨0, key ++ '=' :: (value ++ ';' :: metadata)⟩).text =
      trimStart isBlank key ++ '=' :: (value ++ ';' :: trimEnd isBlank metadata) := by
    rw [← trimEnd_append_cons (by decide)]
    exact trim_append_cons (by decide) _ _
  have houter := Piece.cut?_of_text htrim fun hmem => hkey (trimStart_sublist.mem hmem)
  have hinner : ∀ start, Piece.cut? ';' ⟨start, value ++ ';' :: trimEnd isBlank metadata⟩ =
      some (⟨start, value⟩,
        ⟨start + byteLength value + Char.utf8Size ';', trimEnd isBlank metadata⟩) :=
    fun start => Piece.cut?_of_text rfl hvalue
  unfold readTexts Member.ofPiece
  rw [houter]
  simp only [hinner]
  show Except.ok (Text.trim isBlank (trimStart isBlank key), Text.trim isBlank value,
    Text.trim isBlank (trimEnd isBlank metadata)) = _
  rw [trim_trimStart, trim_trimEnd]

theorem texts_ofPiece_trim (p : Piece) :
    (Member.ofPiece p.trim).map Member.texts = readTexts p.text := by
  rw [Member.ofPiece_trim, readTexts]
  cases Member.ofPiece (Piece.trim ⟨0, p.text⟩) <;> rfl

theorem readSegment_eq (text : List Char) : readSegment text =
    (readTexts text).bind fun texts => readParts texts.1 texts.2.1 texts.2.2 := by
  rw [readSegment, readTexts]
  cases Member.ofPiece (Piece.trim ⟨0, text⟩) <;> rfl

theorem readSegment_of_bare (hkey : '=' ∉ key) (hvalue : ';' ∉ value) :
    readSegment (key ++ '=' :: value) =
      readParts (Text.trim isBlank key) (Text.trim isBlank value) [] := by
  rw [readSegment_eq, readTexts_of_bare hkey hvalue]
  rfl

theorem readSegment_of_full (hkey : '=' ∉ key) (hvalue : ';' ∉ value) :
    readSegment (key ++ '=' :: (value ++ ';' :: metadata)) =
      readParts (Text.trim isBlank key) (Text.trim isBlank value) (Text.trim isBlank metadata) := by
  rw [readSegment_eq, readTexts_of_full hkey hvalue]
  rfl

end Reading

/-- A text has no separator, or it has one behind a segment that has none. -/
theorem separated_induction (separator : Char) {motive : List Char → Prop}
    (last : ∀ text, separator ∉ text → motive text)
    (more : ∀ text rest, separator ∉ text → motive rest → motive (text ++ separator :: rest))
    (text : List Char) : motive text := by
  induction hlength : text.length using Nat.strongRecOn generalizing text with
  | ind length ih =>
    by_cases hmem : separator ∈ text
    · obtain ⟨first, rest, rfl, hfirst⟩ := List.eq_append_cons_of_mem hmem
      rw [List.length_append, List.length_cons] at hlength
      exact more first rest hfirst (ih rest.length (by omega) rest rfl)
    · exact last text hmem

theorem not_mem_of_mem_splitOn {separator : Char} {text segment : List Char}
    (h : segment ∈ text.splitOn separator) : separator ∉ segment := by
  induction text using separated_induction separator with
  | last text hnot =>
    rw [List.splitOn_eq_singleton hnot] at h
    rwa [List.mem_singleton.mp h]
  | more first rest hnot ih =>
    rw [List.splitOn_append_cons_self_of_not_mem hnot] at h
    rcases List.mem_cons.mp h with rfl | h
    · exact hnot
    · exact ih h

theorem mem_intercalate {separator text : List Char} {texts : List (List Char)} (h : text ∈ texts)
    {c : Char} (hc : c ∈ text) : c ∈ separator.intercalate texts := by
  induction texts with
  | nil => cases h
  | cons first rest ih =>
    cases rest with
    | nil =>
      obtain rfl := List.mem_singleton.mp h
      rwa [List.intercalate_singleton]
    | cons second others =>
      rw [List.intercalate_cons_cons]
      rcases List.mem_cons.mp h with rfl | h
      · simp [hc]
      · simp [ih h]

theorem mem_of_mem_splitOn {separator : Char} {text segment : List Char}
    (h : segment ∈ text.splitOn separator) {c : Char} (hc : c ∈ segment) : c ∈ text := by
  have hmem : c ∈ [separator].intercalate (text.splitOn separator) := mem_intercalate h hc
  rwa [List.intercalate_splitOn] at hmem

theorem map_texts_tokenize (header : String) :
    (tokenize header).map (·.map Member.texts) =
      ((header.toList.splitOn ',').filter notBlank).map readTexts := by
  have htexts := Piece.map_text_placeFrom (Char.utf8Size ',') 0 (header.toList.splitOn ',')
  rw [← htexts, tokenize, segments, Piece.split, List.filter_map, List.filter_map]
  simp only [List.map_map]
  apply List.map_congr_left
  intro p _
  exact texts_ofPiece_trim p

theorem map_decode_tokenize (header : String) :
    (tokenize header).map (·.bind Member.decode) =
      ((header.toList.splitOn ',').filter notBlank).map readSegment := by
  have hdecode : ∀ token : Except Rejection Member, token.bind Member.decode =
      (token.map Member.texts).bind fun texts => readParts texts.1 texts.2.1 texts.2.2 := by
    intro token
    cases token <;> rfl
  calc (tokenize header).map (·.bind Member.decode)
    _ = ((tokenize header).map (·.map Member.texts)).map fun read =>
        read.bind fun texts => readParts texts.1 texts.2.1 texts.2.2 := by
      rw [List.map_map]
      exact List.map_congr_left fun token _ => hdecode token
    _ = ((header.toList.splitOn ',').filter notBlank).map readSegment := by
      rw [map_texts_tokenize, List.map_map]
      exact List.map_congr_left fun text _ => (readSegment_eq text).symm

end ContextBaggage.Header
