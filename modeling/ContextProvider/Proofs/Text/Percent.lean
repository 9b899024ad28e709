import ContextProvider.Proofs.Text.Utf8
import ContextProvider.Text.Percent

/-!
# Decoding what was encoded

Whatever bytes stand for themselves, as long as the percent sign is not one of them, decoding gives
the bytes back. The encoded form consists of characters that stand for themselves, percent signs
and hexadecimal digits, so that a separator that is none of these does not occur in it.
-/

namespace ContextProvider.Text

/-! ## Characters of one byte -/

/-- The byte of an ASCII character. -/
def asciiByte (c : Char) : UInt8 := UInt8.ofNat c.toNat

/-- The characters are all ASCII. -/
def IsAscii (s : List Char) : Prop := ∀ c ∈ s, c.toNat < 0x80

theorem utf8EncodeChar_of_ascii {c : Char} (h : c.toNat < 0x80) :
    String.utf8EncodeChar c = [asciiByte c] :=
  if_pos (Nat.le_of_lt_succ h)

theorem toUtf8_of_ascii {s : List Char} (h : IsAscii s) :
    toUtf8 (String.ofList s) = s.map asciiByte := by
  rw [toUtf8_eq_flatMap, String.toList_ofList]
  induction s with
  | nil => rfl
  | cons c rest ih =>
    rw [IsAscii, List.forall_mem_cons] at h
    rw [List.flatMap_cons, utf8EncodeChar_of_ascii h.1, ih h.2]
    rfl

theorem toNat_charOfByte (b : UInt8) : (Char.ofNat b.toNat).toNat = b.toNat := by
  have hvalid : b.toNat.isValidChar := .inl (Nat.lt_trans b.toNat_lt (by decide))
  rw [Char.ofNat, dif_pos hvalid]
  rfl

/-- A byte taken for a character is the byte of that character. -/
theorem asciiByte_charOfByte (b : UInt8) : asciiByte (Char.ofNat b.toNat) = b := by
  rw [asciiByte, toNat_charOfByte, UInt8.ofNat_toNat]

theorem charOfByte_asciiByte {c : Char} (h : c.toNat < 0x80) :
    Char.ofNat (asciiByte c).toNat = c := by
  rw [asciiByte, UInt8.toNat_ofNat_of_lt' (Nat.lt_trans h (by decide)), Char.ofNat_toNat]

/-! ## Encoded characters -/

section

variable {keep : UInt8 → Bool}

theorem percentEncode_cons (b : UInt8) (rest : List UInt8) : percentEncode keep (b :: rest) =
    (if keep b then [Char.ofNat b.toNat] else percentTriplet b) ++ percentEncode keep rest :=
  List.flatMap_cons

theorem percentEncode_append (front rest : List UInt8) : percentEncode keep (front ++ rest) =
    percentEncode keep front ++ percentEncode keep rest :=
  List.flatMap_append

/-- Every encoded character stands for itself or belongs to a triplet. -/
theorem forall_mem_percentEncode {p : Char → Prop} (hkeep : ∀ b, keep b → p (Char.ofNat b.toNat))
    (hpercent : p '%') (hdigit : ∀ n < 16, p (upperHexChar n)) (bytes : List UInt8) :
    ∀ c ∈ percentEncode keep bytes, p c := by
  intro c hc
  obtain ⟨b, -, hc⟩ := List.mem_flatMap.mp hc
  have hb := b.toNat_lt
  split at hc
  · rename_i hkept
    rw [List.mem_singleton.mp hc]
    exact hkeep b hkept
  · simp only [percentTriplet, List.mem_cons, List.not_mem_nil, or_false] at hc
    rcases hc with rfl | rfl | rfl
    · exact hpercent
    · exact hdigit _ (by omega)
    · exact hdigit _ (by omega)

theorem not_mem_percentEncode {c : Char} (hkeep : keep (asciiByte c) = false)
    (hc : c ≠ '%' ∧ ∀ n < 16, upperHexChar n ≠ c) (bytes : List UInt8) :
    c ∉ percentEncode keep bytes := by
  have hforall : ∀ d ∈ percentEncode keep bytes, d ≠ c := by
    apply forall_mem_percentEncode
    · rintro b hb rfl
      rw [asciiByte_charOfByte, hb] at hkeep
      cases hkeep
    · exact hc.1.symm
    · exact hc.2
  exact fun hmem ↦ hforall c hmem rfl

/-- Bytes that stand for themselves are left as they are. -/
theorem percentEncode_of_keep {bytes : List UInt8} (h : ∀ b ∈ bytes, keep b) :
    percentEncode keep bytes = bytes.map fun b ↦ Char.ofNat b.toNat := by
  induction bytes with
  | nil => rfl
  | cons b rest ih =>
    rw [List.forall_mem_cons] at h
    rw [percentEncode_cons, if_pos h.1, ih h.2]
    rfl

/-! ## Decoding -/

theorem toNat_upperHexChar_lt : ∀ n < 16, (upperHexChar n).toNat < 0x80 := by decide

theorem hexByteValue?_upperHexChar :
    ∀ n < 16, hexByteValue? (asciiByte (upperHexChar n)) = some (UInt8.ofNat n) := by decide

theorem percentDecode_cons_of_ne {b : UInt8} (h : b ≠ 0x25) (rest : List UInt8) :
    percentDecode (b :: rest) = b :: percentDecode rest := by
  match rest with
  | [] => rfl
  | [_] => rfl
  | h :: l :: more =>
    rw [percentDecode]
    split
    · rw [if_neg ‹_›]
    · rfl

theorem percentDecode_triplet (b : UInt8) (rest : List UInt8) :
    percentDecode ((percentTriplet b).map asciiByte ++ rest) = b :: percentDecode rest := by
  have hb := b.toNat_lt
  have hhigh := hexByteValue?_upperHexChar (b.toNat / 16) (by omega)
  have hlow := hexByteValue?_upperHexChar (b.toNat % 16) (by omega)
  have hvalue : UInt8.ofNat (b.toNat / 16) * 16 + UInt8.ofNat (b.toNat % 16) = b := by
    rw [← UInt8.toNat_inj]
    simp
    omega
  change percentDecode (0x25 :: asciiByte _ :: asciiByte _ :: rest) = _
  rw [percentDecode, hhigh, hlow]
  simp [hvalue]

/-- Decoding gives the encoded bytes back. -/
theorem percentDecode_percentEncode (hkeep : ∀ b, keep b → b < 0x80 ∧ b ≠ 0x25)
    (bytes : List UInt8) :
    percentDecode (toUtf8 (String.ofList (percentEncode keep bytes))) = bytes := by
  have hascii : IsAscii (percentEncode keep bytes) := by
    apply forall_mem_percentEncode
    · intro b hb
      rw [toNat_charOfByte]
      exact UInt8.lt_iff_toNat_lt.mp (hkeep b hb).1
    · decide
    · exact toNat_upperHexChar_lt
  rw [toUtf8_of_ascii hascii]
  clear hascii
  induction bytes with
  | nil => rfl
  | cons b rest ih =>
    rw [percentEncode_cons, List.map_append]
    split
    · rename_i hb
      rw [List.map_singleton, asciiByte_charOfByte, List.singleton_append,
        percentDecode_cons_of_ne (hkeep b hb).2, ih]
    · rw [percentDecode_triplet, ih]

end

/-! ## Texts -/

theorem isUnreservedByte_bounds {b : UInt8} (h : isUnreservedByte b) : b < 0x80 ∧ b ≠ 0x25 := by
  simp only [isUnreservedByte, isAlphanumericByte, Bool.or_eq_true, Bool.and_eq_true,
    decide_eq_true_eq, beq_iff_eq] at h
  grind

/-- A text comes back when it is encoded and decoded. -/
theorem percentDecodeText?_percentEncodeText (s : String) :
    percentDecodeText? (percentEncodeText s) = some s := by
  rw [percentDecodeText?, percentEncodeText,
    percentDecode_percentEncode fun _ ↦ isUnreservedByte_bounds]
  exact ofUtf8?_eq_some_iff.mpr rfl

/-- A character that a path or a query may end at. -/
theorem not_mem_percentEncodeText {c : Char} (hc : c ∈ ['/', '?', '#']) (s : String) :
    c ∉ (percentEncodeText s).toList := by
  rw [percentEncodeText, String.toList_ofList]
  simp only [List.mem_cons, List.not_mem_nil, or_false] at hc
  rcases hc with rfl | rfl | rfl <;> exact not_mem_percentEncode (by decide) (by decide) _

/-- A parameter is undecodable exactly if it stands for bytes that are not those of a text. -/
theorem percentDecodeText?_eq_some_iff {raw s : String} :
    percentDecodeText? raw = some s ↔ percentDecode (toUtf8 raw) = toUtf8 s := by
  rw [percentDecodeText?, ofUtf8?_eq_some_iff]

theorem percentDecodeText?_eq_none_iff {raw : String} :
    percentDecodeText? raw = none ↔ ∀ s, toUtf8 s ≠ percentDecode (toUtf8 raw) := by
  simp only [percentDecodeText?, Option.eq_none_iff_forall_not_mem, Option.mem_def,
    ofUtf8?_eq_some_iff, ne_eq]
  exact forall_congr' fun s ↦ not_congr eq_comm

end ContextProvider.Text
