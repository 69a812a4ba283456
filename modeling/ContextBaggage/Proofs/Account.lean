import ContextBaggage.Proofs.RoundTrip
import ContextBaggage.Proofs.Scan
import Mathlib.Data.List.Nodup

/-!
# How many members a report accounts for

A report counts every member that was read, as an entry or as a skip. What it does not count are
members that were never read: once the baggage is full, one more member is noted and all others
behind it are left alone. So the count is complete while there is room, and short by all members
but one that stand behind the last entry of a full header.
-/

namespace ContextBaggage.Header

open ContextBaggage.Text

theorem Scan.account {taken final : List Entry} {tokens : List (Except Rejection Member)}
    {causes : List Rejection} (h : Scan taken tokens final causes) :
    ∃ read unread, tokens = read ++ unread ∧
      final.length + causes.length = taken.length + read.length ∧
      (unread ≠ [] → final.length = maxEntries) := by
  induction h with
  | done taken => exact ⟨[], [], rfl, rfl, fun hne => absurd rfl hne⟩
  | full hfull token rest => exact ⟨[token], rest, rfl, rfl, fun _ => hfull⟩
  | @refused taken final token rest cause causes hroom h hrest ih =>
    obtain ⟨read, unread, rfl, hcount, hunread⟩ := ih
    refine ⟨token :: read, unread, rfl, ?_, hunread⟩
    simp only [List.length_cons]
    omega
  | @admitted taken final token rest e causes hroom h hrest ih =>
    obtain ⟨read, unread, rfl, hcount, hunread⟩ := ih
    refine ⟨token :: read, unread, rfl, ?_, hunread⟩
    simp only [List.length_append, List.length_singleton] at hcount
    simp only [List.length_cons]
    omega

/-- Entries and skips together are the members that were read, and members stay unread only behind
a full baggage. -/
theorem report_account (header : String) :
    (report header).skipped.length = min 16 (report header).skippedCount ∧
    ∃ read unread, tokenize header = read ++ unread ∧
      (report header).baggage.length + (report header).skippedCount = read.length ∧
      (unread ≠ [] → (report header).baggage.length = 180) := by
  obtain ⟨final, causes, h⟩ := exists_scan_tokenize header
  obtain ⟨read, unread, htokens, hcount, hunread⟩ := h.account
  rw [h.report_eq]
  refine ⟨List.length_take, read, unread, htokens, ?_, hunread⟩
  rw [List.length_nil, Nat.zero_add] at hcount
  exact hcount

section Overfull
variable {ps more : List Pair}

theorem map_decode_tokenize_members (hvalid : ∀ p ∈ ps, p.fault? = none) :
    (tokenize (",".intercalate (ps.map Pair.member))).map (·.bind Member.decode) =
      (ps.map Pair.entry).map .ok := by
  have hsound : ∀ e ∈ (Baggage.ofEntries (ps.map Pair.entry)).entries, e.Sound := by
    intro e he
    obtain ⟨p, hp, rfl⟩ := List.mem_map.mp he
    exact Pair.sound_entry (hvalid p hp)
  have htokens := map_decode_tokenize_header hsound
  rw [Baggage.header, Baggage.pairs_ofEntries, Baggage.ofEntries, List.map_map (l := ps)] at htokens
  exact htokens

theorem length_tokenize_members (hvalid : ∀ p ∈ ps, p.fault? = none) :
    (tokenize (",".intercalate (ps.map Pair.member))).length = ps.length := by
  have hlength := congrArg List.length (map_decode_tokenize_members hvalid)
  simpa using hlength

/-- However many members stand behind the last one that there is room for, one skip is noted. -/
theorem report_of_overfull (hvalid : ∀ p ∈ ps ++ more, p.fault? = none)
    (hfits : Fits (ps.map Pair.entry)) (hfull : ps.length = maxEntries) (hmore : more ≠ []) :
    report (",".intercalate ((ps ++ more).map Pair.member)) =
      ⟨.ofEntries (ps.map Pair.entry), [.full], 1⟩ := by
  have htokens := map_decode_tokenize_members hvalid
  rw [report, readHeader]
  generalize tokenize (",".intercalate ((ps ++ more).map Pair.member)) = tokens at htokens ⊢
  rw [List.map_append, List.map_append] at htokens
  obtain ⟨front, back, rfl, hfront, hback⟩ := List.map_eq_append_iff.mp htokens
  obtain ⟨p, others, rfl⟩ := List.exists_cons_of_ne_nil hmore
  obtain ⟨token, rest, rfl, -, -⟩ := List.map_eq_cons_iff.mp hback
  have hroom : maxEntries ≤ (ps.map Pair.entry).length := by
    rw [List.length_map, hfull]
  have hall : Fits ([] ++ ps.map Pair.entry) := hfits
  have hread := readFrom_append_of_fits noteSkip ([], 0) (token :: rest) hall hfront
  rw [Baggage.charge_nil, List.nil_append, readFrom.eq_def noteSkip (ps.map Pair.entry)] at hread
  simp only [if_pos hroom] at hread
  rw [hread]
  rfl

end Overfull

section Crowd

def crowdKey (n : Nat) : String :=
  String.ofList [Char.ofNat (0x61 + n / 14), Char.ofNat (0x61 + n % 14)]

/-- Pairs for the keys from `aa` on, in alphabetical order, all with an empty value. -/
def crowd (count : Nat) : List Pair :=
  (List.range count).map fun n => ⟨crowdKey n, "", .empty⟩

theorem length_crowd (count : Nat) : (crowd count).length = count := by
  rw [crowd, List.length_map, List.length_range]

theorem crowdKey_inj {m n : Nat} (hm : m < 196) (hn : n < 196) (h : crowdKey m = crowdKey n) :
    m = n := by
  have hchars := String.ofList_injective h
  simp only [List.cons.injEq, and_true] at hchars
  have hfirst := congrArg Char.toNat hchars.1
  have hsecond := congrArg Char.toNat hchars.2
  rw [toNat_ofNat (.inl (by omega)), toNat_ofNat (.inl (by omega))] at hfirst hsecond
  omega

theorem fits_crowd : Fits ((crowd 180).map Pair.entry) where
  count := by
    rw [List.length_map, length_crowd]
    exact Nat.le_refl _
  sizes := by decide +kernel
  total := by decide +kernel
  keys := by
    have hkeys : ((crowd 180).map Pair.entry).map (fun e => e.key) =
        (List.range 180).map crowdKey := by
      rw [crowd, List.map_map, List.map_map]
      rfl
    rw [hkeys]
    refine List.Nodup.map_on ?_ List.nodup_range
    intro m hm n hn
    rw [List.mem_range] at hm hn
    exact crowdKey_inj (by omega) (by omega)

/-- Two members stand behind the last one that there is room for, and one of them is not counted. -/
theorem crowd_not_accounted : ¬ ∀ header,
    (report header).baggage.length + (report header).skippedCount = (tokenize header).length := by
  intro h
  have hvalid : ∀ p ∈ crowd 182, p.fault? = none := by decide +kernel
  have hsplit : crowd 182 =
      crowd 180 ++ [⟨crowdKey 180, "", .empty⟩, ⟨crowdKey 181, "", .empty⟩] := by
    simp only [crowd, List.range_succ (n := 181), List.range_succ (n := 180), List.map_append]
    rfl
  have hcount := h (",".intercalate ((crowd 182).map Pair.member))
  rw [length_tokenize_members hvalid] at hcount
  rw [hsplit] at hvalid hcount
  rw [report_of_overfull hvalid fits_crowd (length_crowd 180) (List.cons_ne_nil _ _)] at hcount
  simp only [Baggage.length, Baggage.ofEntries, List.length_map, List.length_append, length_crowd,
    List.length_cons, List.length_nil] at hcount
  omega

end Crowd

end ContextBaggage.Header
