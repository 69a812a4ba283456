import ContextBaggage.Proofs.Account
import ContextBaggage.Proofs.Places

/-!
# A header that goes on

What is read in front of a comma does not depend on what stands behind it. A scan that has room
left at its end goes on from there, and one that has none left has come to its end for good, but
for the one cause that a further member adds. So a header that goes on keeps the entries and the
causes it had, in their places, and more of either kind can only follow.
-/

namespace ContextBaggage.Header

namespace Scan
variable {taken middle final : List Entry} {front back tokens : List (Except Rejection Member)}
  {causes more : List Rejection}

theorem isPrefix (h : Scan taken tokens final causes) : taken <+: final := by
  induction h with
  | done taken => exact List.prefix_refl taken
  | full hfull token rest => exact List.prefix_refl _
  | refused hroom h hrest ih => exact ih
  | admitted hroom h hrest ih => exact (List.prefix_append _ _).trans ih

theorem length_le (h : Scan taken tokens final causes) (htaken : taken.length ≤ maxEntries) :
    final.length ≤ maxEntries := by
  induction h with
  | done taken => exact htaken
  | full hfull token rest => exact htaken
  | refused hroom h hrest ih => exact ih htaken
  | admitted hroom h hrest ih =>
    apply ih
    rw [List.length_append, List.length_singleton]
    exact hroom

/-- While there is room a scan has looked at every token, and goes on with the next one. -/
theorem append (h : Scan taken front middle causes) (hroom : middle.length < maxEntries)
    (hback : Scan middle back final more) :
    Scan taken (front ++ back) final (causes ++ more) := by
  induction h with
  | done taken => exact hback
  | full hfull token rest => exact absurd hfull (Nat.ne_of_lt hroom)
  | refused hroom' h hrest ih => exact .refused hroom' h (ih hroom hback)
  | admitted hroom' h hrest ih => exact .admitted hroom' h (ih hroom hback)

/-- Where the room has come to its end, it does not matter whether a token was left to find that
out. -/
theorem append_of_full (h : Scan taken front middle causes) (hfull : middle.length = maxEntries)
    (back : List (Except Rejection Member)) :
    ∃ more, Scan taken (front ++ back) middle (causes ++ more) := by
  induction h with
  | done taken =>
    cases back with
    | nil => exact ⟨[], .done taken⟩
    | cons token rest => exact ⟨[.full], .full hfull token rest⟩
  | full hfull' token rest => exact ⟨[], .full hfull' token (rest ++ back)⟩
  | refused hroom h hrest ih =>
    obtain ⟨more, hscan⟩ := ih hfull
    exact ⟨more, .refused hroom h hscan⟩
  | admitted hroom h hrest ih =>
    obtain ⟨more, hscan⟩ := ih hfull
    exact ⟨more, .admitted hroom h hscan⟩

/-- Whatever tokens of a header follow, the account goes on from the one of those in front. -/
theorem exists_append {header : String} (h : Scan taken front middle causes)
    (htaken : taken.length ≤ maxEntries) (hback : ∀ token ∈ back, token ∈ tokenize header) :
    ∃ final more, Scan taken (front ++ back) final (causes ++ more) ∧ middle <+: final ∧
      (middle.length = maxEntries → final = middle) := by
  have hcount := h.length_le htaken
  rcases Nat.eq_or_lt_of_le hcount with hfull | hroom
  · obtain ⟨more, hscan⟩ := h.append_of_full hfull back
    exact ⟨middle, more, hscan, List.prefix_refl middle, fun _ => rfl⟩
  · obtain ⟨final, more, hrest⟩ := exists_of_mem_tokenize hcount hback
    exact ⟨final, more, h.append hroom hrest, hrest.isPrefix,
      fun hfull => absurd hfull (Nat.ne_of_lt hroom)⟩

end Scan

theorem exists_scan_longer {a : String} {taken : List Entry} {causes : List Rejection}
    (h : Scan [] (tokenize a) taken causes) (b : String) : ∃ final more,
      Scan [] (tokenize (a ++ "," ++ b)) final (causes ++ more) ∧ taken <+: final ∧
        (taken.length = maxEntries → final = taken) := by
  have htokens := tokenize_append a b
  have hback : ∀ token ∈ (tokenize b).map (·.map (Member.shift (a.utf8ByteSize + 1))),
      token ∈ tokenize (a ++ "," ++ b) := by
    intro token htoken
    rw [htokens]
    exact List.mem_append_right _ htoken
  rw [htokens]
  exact h.exists_append (Nat.zero_le _) hback

/-- A header that goes on behind a comma takes the entries that its front took, and behind them
perhaps others, unless they were as many as there may be. It reports the skips of its front before
any other. -/
theorem report_longer (a b : String) :
    (parse a).entries <+: (parse (a ++ "," ++ b)).entries ∧
    (report a).skipped <+: (report (a ++ "," ++ b)).skipped ∧
    (report a).skippedCount ≤ (report (a ++ "," ++ b)).skippedCount ∧
    ((parse a).length = 180 → parse (a ++ "," ++ b) = parse a) := by
  obtain ⟨taken, causes, h⟩ := exists_scan_tokenize a
  obtain ⟨final, more, hlonger, hbegins, hfull⟩ := exists_scan_longer h b
  rw [h.parse_eq, h.report_eq, hlonger.parse_eq, hlonger.report_eq]
  refine ⟨hbegins, ?_, ?_, ?_⟩
  · rw [List.take_append]
    exact List.prefix_append _ _
  · rw [List.length_append]
    exact Nat.le_add_right _ _
  · intro hcount
    rw [hfull hcount]

section Crowd

theorem wellFormed_crowd : (Baggage.ofEntries ((crowd 180).map Pair.entry)).WellFormed := by
  apply Baggage.wellFormed_ofEntries fits_crowd
  intro e he
  obtain ⟨p, hp, rfl⟩ := List.mem_map.mp he
  have hvalid : ∀ p ∈ crowd 180, p.fault? = none := by decide +kernel
  exact Pair.sound_entry (hvalid p hp)

theorem report_longer_of_crowd :
    (parse (Baggage.ofEntries ((crowd 180).map Pair.entry)).header).length = 180 ∧
    parse ((Baggage.ofEntries ((crowd 180).map Pair.entry)).header ++ "," ++ "x=1,y") =
      parse (Baggage.ofEntries ((crowd 180).map Pair.entry)).header := by
  have hcount : (parse (Baggage.ofEntries ((crowd 180).map Pair.entry)).header).length = 180 := by
    rw [parse_header wellFormed_crowd, Baggage.length, Baggage.entries_recharge, List.length_map,
      Baggage.ofEntries, List.length_map, length_crowd]
  exact ⟨hcount, (report_longer _ "x=1,y").2.2.2 hcount⟩

end Crowd

end ContextBaggage.Header
