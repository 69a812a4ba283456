/-!
# UTF-8 bytes

Sizes and places in a header are counted in UTF-8 bytes, and an encoded text denotes bytes. Texts
are lists of characters here, and bytes are a list as well, so that both can be taken apart by
recursion.
-/

namespace ContextBaggage.Text

variable {cs ds : List Char}

def utf8 (cs : List Char) : List UInt8 := cs.flatMap String.utf8EncodeChar

def byteLength (cs : List Char) : Nat := cs.foldr (fun c n => c.utf8Size + n) 0

/-- The text that some bytes spell, if they are UTF-8. -/
def ofUtf8? (bytes : List UInt8) : Option String := String.fromUTF8? ⟨bytes.toArray⟩

@[simp] theorem utf8_nil : utf8 [] = [] := rfl

@[simp] theorem utf8_cons (c : Char) : utf8 (c :: cs) = String.utf8EncodeChar c ++ utf8 cs := rfl

@[simp] theorem utf8_append : utf8 (cs ++ ds) = utf8 cs ++ utf8 ds := List.flatMap_append

@[simp] theorem byteLength_nil : byteLength [] = 0 := rfl

@[simp] theorem byteLength_cons (c : Char) : byteLength (c :: cs) = c.utf8Size + byteLength cs :=
  rfl

@[simp] theorem byteLength_append : byteLength (cs ++ ds) = byteLength cs + byteLength ds := by
  induction cs with
  | nil => simp
  | cons c cs ih => simp [ih, Nat.add_assoc]

theorem byteLength_le_of_sublist (h : cs.Sublist ds) : byteLength cs ≤ byteLength ds := by
  induction h with
  | slnil => exact Nat.le_refl _
  | cons c _ ih =>
    rw [byteLength_cons]
    omega
  | cons_cons c _ ih =>
    rw [byteLength_cons, byteLength_cons]
    omega

theorem length_utf8 : (utf8 cs).length = byteLength cs := by
  induction cs with
  | nil => rfl
  | cons c cs ih => simp [ih]

theorem toNat_ofNat {n : Nat} (hn : n.isValidChar) : (Char.ofNat n).toNat = n := by
  rw [Char.ofNat, dif_pos hn]
  rfl

theorem utf8EncodeChar_of_lt {c : Char} (hc : c.toNat < 0x80) :
    String.utf8EncodeChar c = [UInt8.ofNat c.toNat] := by
  have hsize : c.utf8Size = 1 := by
    rw [Char.utf8Size_eq_one_iff]
    exact UInt32.le_iff_toNat_le.mpr (Nat.le_of_lt_succ hc)
  rw [String.utf8EncodeChar_eq_singleton hsize]
  rfl

/-- All bytes of a character beyond ASCII lie beyond ASCII. -/
theorem le_of_mem_utf8EncodeChar {c : Char} (hc : 0x80 ≤ c.toNat) {b : UInt8}
    (hb : b ∈ String.utf8EncodeChar c) : 0x80 ≤ b.toNat := by
  have hval : ¬ c.val.toNat ≤ 0x7F := Nat.not_le.mpr hc
  unfold String.utf8EncodeChar at hb
  simp only [if_neg hval] at hb
  split at hb
  · simp only [List.mem_cons, List.not_mem_nil, or_false] at hb
    rcases hb with rfl | rfl <;> rw [UInt8.toNat_ofNat'] <;> omega
  · split at hb
    · simp only [List.mem_cons, List.not_mem_nil, or_false] at hb
      rcases hb with rfl | rfl | rfl <;> rw [UInt8.toNat_ofNat'] <;> omega
    · simp only [List.mem_cons, List.not_mem_nil, or_false] at hb
      rcases hb with rfl | rfl | rfl | rfl <;> rw [UInt8.toNat_ofNat'] <;> omega

theorem mem_utf8_of_lt {c : Char} (hc : c.toNat < 0x80) : .ofNat c.toNat ∈ utf8 cs ↔ c ∈ cs := by
  have hnat : (UInt8.ofNat c.toNat).toNat = c.toNat := by
    rw [UInt8.toNat_ofNat']
    omega
  constructor
  · intro hmem
    obtain ⟨d, hd, hbyte⟩ := List.mem_flatMap.mp hmem
    have hlt : d.toNat < 0x80 := by
      apply Nat.lt_of_not_le
      intro hle
      have hbig := le_of_mem_utf8EncodeChar hle hbyte
      omega
    rw [utf8EncodeChar_of_lt hlt, List.mem_singleton] at hbyte
    have heq := congrArg UInt8.toNat hbyte
    rw [hnat, UInt8.toNat_ofNat'] at heq
    have hcd : c.toNat = d.toNat := by omega
    rwa [Char.toNat_inj.mp hcd]
  · intro hmem
    refine List.mem_flatMap.mpr ⟨c, hmem, ?_⟩
    rw [utf8EncodeChar_of_lt hc]
    exact List.mem_singleton_self _

theorem utf8_ofNat {b : UInt8} (hb : b < 0x80) : utf8 [Char.ofNat b.toNat] = [b] := by
  have hlt : b.toNat < 0x80 := UInt8.lt_iff_toNat_lt.mp hb
  have hnat : (Char.ofNat b.toNat).toNat = b.toNat := toNat_ofNat (Or.inl (by omega))
  rw [utf8_cons, utf8_nil, List.append_nil, utf8EncodeChar_of_lt (by omega), hnat,
    UInt8.ofNat_toNat]

theorem toArray_utf8 : (⟨(utf8 cs).toArray⟩ : ByteArray) = cs.utf8Encode := by
  ext1
  simp [utf8, List.utf8Encode, List.data_toByteArray]

theorem byteLength_toList (s : String) : byteLength s.toList = s.utf8ByteSize := by
  have hbytes : (⟨(utf8 s.toList).toArray⟩ : ByteArray) = s.toByteArray := by
    rw [toArray_utf8, String.utf8Encode_toList]
  rw [← length_utf8, ← String.size_toByteArray, ← hbytes]
  simp [ByteArray.size]

theorem ofUtf8?_eq_some_iff {bytes : List UInt8} {s : String} :
    ofUtf8? bytes = some s ↔ utf8 s.toList = bytes := by
  have hs : (⟨(utf8 s.toList).toArray⟩ : ByteArray) = s.toByteArray := by
    rw [toArray_utf8, String.utf8Encode_toList]
  unfold ofUtf8? String.fromUTF8?
  split
  · next h =>
    constructor
    · intro heq
      have hb : s.toByteArray = ⟨bytes.toArray⟩ := by
        rw [← Option.some.inj heq]; rfl
      rw [hb] at hs
      simpa using hs
    · rintro rfl
      congr 1
      exact String.toByteArray_inj.mp hs
  · next h =>
    simp only [reduceCtorEq, false_iff]
    rintro rfl
    exact h (hs ▸ s.isValidUTF8)

theorem ofUtf8?_eq_none_iff {bytes : List UInt8} :
    ofUtf8? bytes = none ↔ ∀ t : String, utf8 t.toList ≠ bytes := by
  rw [Option.eq_none_iff_forall_ne_some]
  exact forall_congr' fun t => not_congr ofUtf8?_eq_some_iff

theorem ofUtf8?_utf8 (s : String) : ofUtf8? (utf8 s.toList) = some s :=
  ofUtf8?_eq_some_iff.mpr rfl

theorem utf8_toList_inj {s t : String} (h : utf8 s.toList = utf8 t.toList) : s = t := by
  have hs := ofUtf8?_utf8 s
  rw [h, ofUtf8?_utf8] at hs
  exact (Option.some.inj hs).symm

end ContextBaggage.Text
