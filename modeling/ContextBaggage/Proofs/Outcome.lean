import ContextBaggage.Proofs.WellFormed

/-!
# What comes of setting a pair

A pair may break several rules at once: those of its texts, and the limits, which it has to keep
together with the other entries. `Pair.Breaks` says what it means to break each rule, and
`Pair.firstBreach?` goes through the rules in their order. Setting the pair is refused for the
first rule it breaks, and succeeds if it breaks none.

Of the entry that is replaced neither the place nor the charge counts, so there is always room for
a pair that takes up no more than the entry it replaces.
-/

namespace ContextBaggage

open ContextBaggage.Text

/-- Not all of the text is printable ASCII. -/
def Unprintable (s : String) : Prop := ∃ c ∈ s.toList, c.toNat < 0x20 ∨ 0x7E < c.toNat

theorem unprintable_iff {s : String} : Unprintable s ↔ isPrintable s = false := by
  rw [← Bool.not_eq_true, isPrintable_iff]
  simp only [Unprintable, not_forall, not_and_or, Nat.not_le, exists_prop]

instance (s : String) : Decidable (Unprintable s) :=
  decidable_of_iff (isPrintable s = false) unprintable_iff.symm

namespace Pair
variable {p : Pair} {others : List Entry}

/-- The bytes that a pair takes up in a header, separators not counted. -/
def written (p : Pair) : Nat :=
  (Percent.encode p.key).utf8ByteSize + (Percent.encode p.value).utf8ByteSize +
    p.metadata.text.utf8ByteSize

theorem written_eq_size (p : Pair) : p.written = p.size := by
  rw [written, ← byteLength_toList, ← byteLength_toList, ← byteLength_toList,
    Percent.byteLength_encode, Percent.byteLength_encode]
  rfl

/-- What may be held against a pair that is to stand before other entries, in the order in which
it is looked into. -/
def objections (others : List Entry) (p : Pair) : List Rejection :=
  [.invalidKey, .invalidValue, .invalidMetadata, .entryTooLarge p.written, .full,
    .totalTooLarge (Baggage.charge others + p.written)]

/-- The pair breaks the rule that goes with a rejection. -/
def Breaks (others : List Entry) (p : Pair) : Rejection → Prop
  | .invalidKey => p.key = "" ∨ Unprintable p.key
  | .invalidValue => Unprintable p.value
  | .invalidMetadata => ',' ∈ p.metadata.text.toList ∨ Unprintable p.metadata.text
  | .entryTooLarge size => entrySizeBound ≤ size
  | .full => maxEntries ≤ others.length
  | .totalTooLarge size => totalSizeBound ≤ size
  | _ => False

instance (others : List Entry) (p : Pair) : DecidablePred (p.Breaks others)
  | .invalidKey => inferInstanceAs (Decidable (p.key = "" ∨ Unprintable p.key))
  | .invalidValue => inferInstanceAs (Decidable (Unprintable p.value))
  | .invalidMetadata =>
    inferInstanceAs (Decidable (',' ∈ p.metadata.text.toList ∨ Unprintable p.metadata.text))
  | .entryTooLarge size => inferInstanceAs (Decidable (entrySizeBound ≤ size))
  | .full => inferInstanceAs (Decidable (maxEntries ≤ others.length))
  | .totalTooLarge size => inferInstanceAs (Decidable (totalSizeBound ≤ size))
  | .noSeparator | .undecodable _ | .duplicateKey => .isFalse id

def firstBreach? (others : List Entry) (p : Pair) : Option Rejection :=
  (p.objections others).find? fun cause => p.Breaks others cause

theorem breaks_invalidKey : p.Breaks others .invalidKey ↔ isKey p.key = false := by
  rw [Breaks, unprintable_iff, isKey, Bool.and_eq_false_iff, Bool.not_eq_false',
    String.isEmpty_iff]

theorem breaks_invalidValue : p.Breaks others .invalidValue ↔ isPrintable p.value = false :=
  unprintable_iff

theorem breaks_invalidMetadata :
    p.Breaks others .invalidMetadata ↔ isMetadata p.metadata.text = false := by
  rw [Breaks, unprintable_iff, isMetadata, Bool.and_eq_false_iff, Bool.not_eq_false',
    List.contains_iff_mem]

theorem breaks_entryTooLarge {size : Nat} :
    p.Breaks others (.entryTooLarge size) ↔ entrySizeBound ≤ size := Iff.rfl

theorem breaks_full : p.Breaks others .full ↔ maxEntries ≤ others.length := Iff.rfl

theorem breaks_totalTooLarge {size : Nat} :
    p.Breaks others (.totalTooLarge size) ↔ totalSizeBound ≤ size := Iff.rfl

theorem find?_breaks_cons (cause : Rejection) (causes : List Rejection) :
    (cause :: causes).find? (fun cause => p.Breaks others cause) =
      if p.Breaks others cause then some cause
      else causes.find? fun cause => p.Breaks others cause := by
  split
  · next h => exact List.find?_cons_of_pos (decide_eq_true h)
  · next h => exact List.find?_cons_of_neg (by simpa using h)

theorem fault?_eq_find? (others : List Entry) (p : Pair) : p.fault? =
    [.invalidKey, .invalidValue, .invalidMetadata].find? fun cause => p.Breaks others cause := by
  rw [find?_breaks_cons, find?_breaks_cons, find?_breaks_cons, List.find?_nil, fault?]
  simp only [breaks_invalidKey, breaks_invalidValue, breaks_invalidMetadata, Bool.not_eq_eq_eq_not,
    Bool.not_true]

end Pair

namespace Baggage
variable {b : Baggage} {p : Pair}

/-- The texts of a pair are looked into first, and then the room that is left for it. -/
theorem trySet_eq (b : Baggage) (p : Pair) : b.trySet p =
    match p.firstBreach? (b.others p.key) with
    | some cause => .error cause
    | none => .ok ⟨p.entry :: b.others p.key, charge (b.others p.key) + p.size⟩ := by
  have hobjections : p.objections (b.others p.key) =
      [.invalidKey, .invalidValue, .invalidMetadata] ++
        [.entryTooLarge p.size, .full, .totalTooLarge (charge (b.others p.key) + p.size)] := by
    rw [Pair.objections, Pair.written_eq_size]
    rfl
  rw [Pair.firstBreach?, hobjections, List.find?_append, ← Pair.fault?_eq_find?, trySet]
  cases p.fault? with
  | some cause => rfl
  | none =>
    rw [Option.none_or]
    rw [Pair.find?_breaks_cons, Pair.find?_breaks_cons, Pair.find?_breaks_cons, List.find?_nil]
    simp only [Pair.breaks_entryTooLarge, Pair.breaks_full, Pair.breaks_totalTooLarge]
    split_ifs <;> rfl

theorem breaks_of_trySet_eq_error {cause : Rejection} (h : b.trySet p = .error cause) :
    p.Breaks (b.others p.key) cause := by
  rw [trySet_eq] at h
  cases hbreach : p.firstBreach? (b.others p.key) with
  | none =>
    rw [hbreach] at h
    cases h
  | some first =>
    rw [hbreach] at h
    obtain rfl := Except.error.inj h
    rw [Pair.firstBreach?] at hbreach
    simpa using List.find?_some hbreach

theorem trySet_of_fault? {cause : Rejection} (h : p.fault? = some cause) (b : Baggage) :
    b.trySet p = .error cause := by
  rw [trySet, h]

theorem set_of_trySet_eq_ok {updated : Baggage} (h : b.trySet p = .ok updated) :
    b.set p = ⟨updated, []⟩ := by
  rw [set, h]
  rfl

theorem afterRejection_eq (b : Baggage) (cause : Rejection) : b.afterRejection cause =
    if cause = .invalidKey ∨ cause = .invalidValue then empty else b := by
  cases cause <;> simp [afterRejection]

theorem set_of_trySet_eq_error {cause : Rejection} (h : b.trySet p = .error cause) :
    b.set p = ⟨if cause = .invalidKey ∨ cause = .invalidValue then empty else b,
      [.setRejected cause]⟩ := by
  rw [set, h, ← afterRejection_eq]

/-- An entry that is replaced leaves its place and its charge to its successor. -/
theorem WellFormed.exists_others (hb : b.WellFormed) {e : Entry} (he : e ∈ b.entries) :
    ∃ before after, b.entries = before ++ e :: after ∧ b.others e.key = before ++ after := by
  obtain ⟨before, after, hentries⟩ := List.append_of_mem he
  have hkeys := hb.fits.keys
  rw [hentries, List.map_append, List.map_cons, List.nodup_append, List.nodup_cons] at hkeys
  obtain ⟨_, ⟨hafter, _⟩, hbefore⟩ := hkeys
  refine ⟨before, after, hentries, ?_⟩
  rw [others, hentries, List.filter_append, List.filter_cons_of_neg (by simp)]
  congr 1
  · apply List.filter_eq_self.mpr
    intro d hd
    rw [bne_iff_ne]
    exact hbefore d.key (List.mem_map_of_mem hd) e.key List.mem_cons_self
  · apply List.filter_eq_self.mpr
    intro d hd
    rw [bne_iff_ne]
    intro hkey
    exact hafter (List.mem_map.mpr ⟨d, hd, hkey⟩)

/-- However full the baggage is, there is room for a pair that takes up no more than the entry it
replaces. -/
theorem WellFormed.trySet_replacing (hb : b.WellFormed) {e : Entry} (he : e ∈ b.entries)
    (hkey : p.key = e.key) (hfault : p.fault? = none) (hsize : p.size ≤ e.size) :
    ∃ updated, b.trySet p = .ok updated := by
  obtain ⟨before, after, hentries, hothers⟩ := hb.exists_others he
  have hcount := hb.fits.count
  have htotal := hb.fits.total
  rw [hentries, List.length_append, List.length_cons] at hcount
  rw [hentries, charge_append, charge_cons] at htotal
  have hlength : (b.others p.key).length = before.length + after.length := by
    rw [hkey, hothers, List.length_append]
  have hcharge : charge (b.others p.key) = charge before + charge after := by
    rw [hkey, hothers, charge_append]
  have hbound := hb.fits.sizes e he
  exact ⟨_, trySet_eq_ok_iff.mpr ⟨hfault, by omega, by omega, by omega, rfl⟩⟩

/-- A pair is refused for the first rule it breaks. If it breaks none, it stands before the other
entries and is charged what it takes up in a header. A refusal leaves one event, and everything
else as it was, unless the key or the value was at fault. -/
theorem set_outcome (b : Baggage) (key value text : String) :
    let p : Pair := ⟨key, value, .ofText text⟩
    let others := b.entries.filter fun e => e.key ≠ key
    let updated : Baggage := ⟨⟨p, p.written⟩ :: others, charge others + p.written⟩
    match p.firstBreach? others with
    | some cause => b.trySet p = .error cause ∧
        b.set p = ⟨if cause = .invalidKey ∨ cause = .invalidValue then empty else b,
          [.setRejected cause]⟩
    | none => b.trySet p = .ok updated ∧ b.set p = ⟨updated, []⟩ := by
  intro p others updated
  have hothers : b.others p.key = others := by
    apply List.filter_congr
    intro e _
    rw [Bool.eq_iff_iff, bne_iff_ne, decide_eq_true_iff]
  have houtcome := b.trySet_eq p
  rw [hothers] at houtcome
  have hentry : p.entry = ⟨p, p.written⟩ := by
    rw [Pair.written_eq_size]
    rfl
  rw [hentry, ← Pair.written_eq_size] at houtcome
  cases hbreach : p.firstBreach? others with
  | some cause =>
    rw [hbreach] at houtcome
    exact ⟨houtcome, set_of_trySet_eq_error houtcome⟩
  | none =>
    rw [hbreach] at houtcome
    exact ⟨houtcome, set_of_trySet_eq_ok houtcome⟩

example : (⟨"k", "v\n", .ofText " a,b "⟩ : Pair).firstBreach? [] = some .invalidValue := by
  decide +kernel

end Baggage

end ContextBaggage
