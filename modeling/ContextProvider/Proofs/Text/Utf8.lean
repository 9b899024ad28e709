import ContextProvider.Text.Utf8
import Mathlib.Data.List.Basic

/-!
# Reading what was written

The well-formed sequences of bytes are those that spell a character, and each character is spelt
by one of them. Strict reading therefore undoes writing, and bytes that are read as a text are
the bytes of that text.
-/

namespace ContextProvider.Text

/-! ## Sequences -/

/-- A byte that goes on with a sequence. -/
def IsContinuation (b : UInt8) : Prop := 0x80 ≤ b.toNat ∧ b.toNat ≤ 0xBF

/-- A byte that may follow a leading byte: four leading bytes leave only a part of the range, so
that no sequence is overlong, a surrogate or beyond U+10FFFF. -/
def IsSecond (lead b : UInt8) : Prop :=
  IsContinuation b ∧ (lead.toNat = 0xE0 → 0xA0 ≤ b.toNat) ∧ (lead.toNat = 0xED → b.toNat ≤ 0x9F) ∧
    (lead.toNat = 0xF0 → 0x90 ≤ b.toNat) ∧ (lead.toNat = 0xF4 → b.toNat ≤ 0x8F)

/-- A well-formed sequence and the code of the character that it spells. -/
inductive Spells : List UInt8 → Nat → Prop
  | one {a : UInt8} (lead : a.toNat < 0x80) : Spells [a] a.toNat
  | two {a b : UInt8} (lead : 0xC2 ≤ a.toNat ∧ a.toNat ≤ 0xDF) (second : IsSecond a b) :
      Spells [a, b] (a.toNat % 32 * 64 + b.toNat % 64)
  | three {a b c : UInt8} (lead : 0xE0 ≤ a.toNat ∧ a.toNat ≤ 0xEF) (second : IsSecond a b)
      (third : IsContinuation c) :
      Spells [a, b, c] ((a.toNat % 16 * 64 + b.toNat % 64) * 64 + c.toNat % 64)
  | four {a b c d : UInt8} (lead : 0xF0 ≤ a.toNat ∧ a.toNat ≤ 0xF4) (second : IsSecond a b)
      (third : IsContinuation c) (fourth : IsContinuation d) :
      Spells [a, b, c, d]
        (((a.toNat % 8 * 64 + b.toNat % 64) * 64 + c.toNat % 64) * 64 + d.toNat % 64)

/-- The least second byte after a leading byte. -/
def leastSecond (lead : UInt8) : UInt8 :=
  if lead = 0xE0 then 0xA0 else if lead = 0xF0 then 0x90 else 0x80

/-- The greatest second byte after a leading byte. -/
def greatestSecond (lead : UInt8) : UInt8 :=
  if lead = 0xED then 0x9F else if lead = 0xF4 then 0x8F else 0xBF

theorem leadShape?_eq (a : UInt8) : leadShape? a =
    if 0xC2 ≤ a.toNat ∧ a.toNat ≤ 0xDF then some (1, leastSecond a, greatestSecond a)
    else if 0xE0 ≤ a.toNat ∧ a.toNat ≤ 0xEF then some (2, leastSecond a, greatestSecond a)
    else if 0xF0 ≤ a.toNat ∧ a.toNat ≤ 0xF4 then some (3, leastSecond a, greatestSecond a)
    else none := by
  have hbytes : leadShape? a =
      if 0xC2 ≤ a ∧ a ≤ 0xDF then some (1, leastSecond a, greatestSecond a)
      else if 0xE0 ≤ a ∧ a ≤ 0xEF then some (2, leastSecond a, greatestSecond a)
      else if 0xF0 ≤ a ∧ a ≤ 0xF4 then some (3, leastSecond a, greatestSecond a)
      else none := by
    unfold leadShape? leastSecond greatestSecond
    split_ifs <;> grind
  simpa only [UInt8.le_iff_toNat_le, UInt8.reduceToNat] using hbytes

theorem isContinuation_iff {b : UInt8} : IsContinuation b ↔ 0x80 ≤ b ∧ b ≤ 0xBF := by
  rw [UInt8.le_iff_toNat_le, UInt8.le_iff_toNat_le]
  exact Iff.rfl

theorem isSecond_iff {a b : UInt8} : IsSecond a b ↔ leastSecond a ≤ b ∧ b ≤ greatestSecond a := by
  simp only [IsSecond, IsContinuation, leastSecond, greatestSecond, ← UInt8.toNat_inj,
    UInt8.le_iff_toNat_le, UInt8.reduceToNat, apply_ite UInt8.toNat]
  split_ifs <;> omega

theorem Spells.stepAt_eq {a : UInt8} {tail : List UInt8} {n : Nat} (h : Spells (a :: tail) n)
    (rest : List UInt8) :
    stepAt a (tail ++ rest) = .character (Char.ofNat n) (tail.length + 1) := by
  simp only [stepAt, UInt8.lt_iff_toNat_lt, UInt8.reduceToNat]
  cases h with
  | one lead => rw [if_pos lead]; rfl
  | two lead second =>
    rw [if_neg (by omega), leadShape?_eq, if_pos lead]
    simp [continueSequence, leadBits, isSecond_iff.mp second]
  | three lead second third =>
    rw [if_neg (by omega), leadShape?_eq, if_neg (by omega), if_pos lead]
    simp [continueSequence, leadBits, isSecond_iff.mp second, isContinuation_iff.mp third]
  | four lead second third fourth =>
    rw [if_neg (by omega), leadShape?_eq, if_neg (by omega), if_neg (by omega), if_pos lead]
    simp [continueSequence, leadBits, isSecond_iff.mp second, isContinuation_iff.mp third,
      isContinuation_iff.mp fourth]

theorem exists_of_continueSequence {value length remaining total : Nat} {low high : UInt8}
    {bytes : List UInt8} {c : Char}
    (h : continueSequence value length (remaining + 1) low high bytes = .character c total) :
    ∃ b more, bytes = b :: more ∧ (low ≤ b ∧ b ≤ high) ∧
      continueSequence (value * 64 + b.toNat % 64) (length + 1) remaining 0x80 0xBF more =
        .character c total := by
  cases bytes with
  | nil => cases h
  | cons b more =>
    rw [continueSequence] at h
    split at h
    · exact ⟨b, more, rfl, ‹_›, h⟩
    · cases h

/-- A step that finds a character finds a well-formed sequence in front. -/
theorem exists_spells_of_stepAt {a : UInt8} {rest : List UInt8} {c : Char} {length : Nat}
    (h : stepAt a rest = .character c length) :
    ∃ tail more n, rest = tail ++ more ∧ Spells (a :: tail) n ∧ c = Char.ofNat n ∧
      length = tail.length + 1 := by
  unfold stepAt at h
  split at h
  · cases h
    exact ⟨[], rest, _, rfl, .one (UInt8.lt_iff_toNat_lt.mp ‹_›), rfl, rfl⟩
  · rw [leadShape?_eq] at h
    split_ifs at h with htwo hthree hfour
    · obtain ⟨b, more, rfl, hb, h⟩ := exists_of_continueSequence h
      cases h
      exact ⟨[b], more, _, rfl, .two htwo (isSecond_iff.mpr hb), rfl, rfl⟩
    · obtain ⟨b, _, rfl, hb, h⟩ := exists_of_continueSequence h
      obtain ⟨c, more, rfl, hc, h⟩ := exists_of_continueSequence h
      cases h
      exact ⟨[b, c], more, _, rfl,
        .three hthree (isSecond_iff.mpr hb) (isContinuation_iff.mpr hc), rfl, rfl⟩
    · obtain ⟨b, _, rfl, hb, h⟩ := exists_of_continueSequence h
      obtain ⟨c, _, rfl, hc, h⟩ := exists_of_continueSequence h
      obtain ⟨d, more, rfl, hd, h⟩ := exists_of_continueSequence h
      cases h
      exact ⟨[b, c, d], more, _, rfl, .four hfour (isSecond_iff.mpr hb)
        (isContinuation_iff.mpr hc) (isContinuation_iff.mpr hd), rfl, rfl⟩

/-! ## Characters -/

theorem toNat_continuation (n : Nat) : (UInt8.ofNat (n % 64 + 0x80)).toNat = n % 64 + 0x80 :=
  UInt8.toNat_ofNat_of_lt' (show _ < 256 by omega)

theorem isContinuation_ofNat (n : Nat) : IsContinuation (UInt8.ofNat (n % 64 + 0x80)) := by
  rw [IsContinuation, toNat_continuation]
  omega

theorem Spells.of_eq {bytes : List UInt8} {m n : Nat} (h : Spells bytes m) (hmn : m = n) :
    Spells bytes n :=
  hmn ▸ h

/-- The bytes of a character spell it. -/
theorem spells_utf8EncodeChar (c : Char) : Spells (String.utf8EncodeChar c) c.toNat := by
  have hvalid : c.toNat < 0xD800 ∨ 0xDFFF < c.toNat ∧ c.toNat < 0x110000 := c.valid
  have hval : c.val.toNat = c.toNat := rfl
  generalize c.toNat = n at hvalid hval
  have hlast := toNat_continuation n
  have hthird := toNat_continuation (n / 64)
  have hsecond := toNat_continuation (n / 4096)
  unfold String.utf8EncodeChar
  simp only [hval]
  split_ifs with hone htwo hthree
  · have hlead : (UInt8.ofNat n).toNat = n := UInt8.toNat_ofNat_of_lt' (show _ < 256 by omega)
    exact .of_eq (.one (by omega)) hlead
  · have hlead : (UInt8.ofNat (n / 64 % 32 + 0xC0)).toNat = n / 64 % 32 + 0xC0 :=
      UInt8.toNat_ofNat_of_lt' (show _ < 256 by omega)
    have hfits : IsSecond (UInt8.ofNat (n / 64 % 32 + 0xC0)) (UInt8.ofNat (n % 64 + 0x80)) :=
      ⟨isContinuation_ofNat n, by omega⟩
    exact .of_eq (.two (by omega) hfits) (by omega)
  · have hlead : (UInt8.ofNat (n / 4096 % 16 + 0xE0)).toNat = n / 4096 % 16 + 0xE0 :=
      UInt8.toNat_ofNat_of_lt' (show _ < 256 by omega)
    have hfits : IsSecond (UInt8.ofNat (n / 4096 % 16 + 0xE0)) (UInt8.ofNat (n / 64 % 64 + 0x80)) :=
      ⟨isContinuation_ofNat _, by omega⟩
    exact .of_eq (.three (by omega) hfits (isContinuation_ofNat n)) (by omega)
  · have hlead : (UInt8.ofNat (n / 262144 % 8 + 0xF0)).toNat = n / 262144 % 8 + 0xF0 :=
      UInt8.toNat_ofNat_of_lt' (show _ < 256 by omega)
    have hfits : IsSecond (UInt8.ofNat (n / 262144 % 8 + 0xF0))
        (UInt8.ofNat (n / 4096 % 64 + 0x80)) :=
      ⟨isContinuation_ofNat _, by omega⟩
    exact .of_eq (.four (by omega) hfits (isContinuation_ofNat _) (isContinuation_ofNat n))
      (by omega)

theorem Spells.isValidChar {bytes : List UInt8} {n : Nat} (h : Spells bytes n) :
    n.isValidChar := by
  unfold Nat.isValidChar
  cases h with
  | one lead => omega
  | two lead second => omega
  | three lead second third =>
    unfold IsSecond IsContinuation at *
    omega
  | four lead second third fourth =>
    unfold IsSecond IsContinuation at *
    omega

theorem eq_ofNat_of_toNat {b : UInt8} {n : Nat} (h : b.toNat = n) : b = UInt8.ofNat n := by
  rw [← h, UInt8.ofNat_toNat]

/-- No other bytes spell a character. -/
theorem Spells.eq_utf8EncodeChar {bytes : List UInt8} {n : Nat} (h : Spells bytes n) :
    bytes = String.utf8EncodeChar (Char.ofNat n) := by
  have hcode : (Char.ofNat n).val.toNat = n := by
    rw [Char.ofNat, dif_pos h.isValidChar]
    rfl
  unfold String.utf8EncodeChar
  simp only [hcode]
  cases h with
  | one lead =>
    rw [if_pos (by omega), ← eq_ofNat_of_toNat rfl]
  | two lead second =>
    unfold IsSecond IsContinuation at *
    rw [if_neg (by omega), if_pos (by omega)]
    congr <;> apply eq_ofNat_of_toNat <;> omega
  | three lead second third =>
    unfold IsSecond IsContinuation at *
    rw [if_neg (by omega), if_neg (by omega), if_pos (by omega)]
    congr <;> apply eq_ofNat_of_toNat <;> omega
  | four lead second third fourth =>
    unfold IsSecond IsContinuation at *
    rw [if_neg (by omega), if_neg (by omega), if_neg (by omega)]
    congr <;> apply eq_ofNat_of_toNat <;> omega

/-! ## Texts -/

theorem toList_loop_eq_drop (bytes : ByteArray) (i : Nat) (read : List UInt8) :
    ByteArray.toList.loop bytes i read = read.reverse ++ bytes.data.toList.drop i := by
  fun_induction ByteArray.toList.loop bytes i read with
  | case1 i read h ih =>
    have hi : i < bytes.data.toList.length := by simpa using h
    rw [ih, List.drop_eq_getElem_cons hi]
    simp [ByteArray.get!, h]
  | case2 i read h =>
    rw [List.drop_eq_nil_of_le (by simpa using Nat.le_of_not_lt h), List.append_nil]

/-- The bytes of a text are those of its characters. -/
theorem toUtf8_eq_flatMap (s : String) : toUtf8 s = s.toList.flatMap String.utf8EncodeChar := by
  conv_lhs => rw [← String.ofList_toList (s := s)]
  rw [toUtf8, ByteArray.toList, toList_loop_eq_drop, List.drop_zero]
  exact List.toList_data_toByteArray

theorem symbolsFrom_eq_append (read : List Symbol) (skip : Nat) (bytes : List UInt8) :
    symbolsFrom read skip bytes = read.reverse ++ symbolsFrom [] skip bytes := by
  induction bytes generalizing read skip with
  | nil => simp [symbolsFrom]
  | cons b rest ih =>
    cases skip with
    | succ skip => exact ih read skip
    | zero =>
      simp only [symbolsFrom]
      split
      · rw [ih, ih [_]]
        simp
      · rw [ih, ih [_]]
        simp

theorem symbolsFrom_skip (tail more : List UInt8) :
    symbolsFrom [] tail.length (tail ++ more) = symbols more := by
  induction tail with
  | nil => rfl
  | cons b tail ih => exact ih

theorem symbols_cons (b : UInt8) (rest : List UInt8) :
    (∃ c length, stepAt b rest = .character c length ∧
      symbols (b :: rest) = some c :: symbolsFrom [] (length - 1) rest) ∨
    ∃ more, symbols (b :: rest) = none :: more := by
  rw [symbols, symbolsFrom]
  split
  · rename_i c length hstep
    rw [symbolsFrom_eq_append]
    exact .inl ⟨c, length, hstep, rfl⟩
  · rw [symbolsFrom_eq_append]
    exact .inr ⟨_, rfl⟩

/-- A well-formed sequence is read as the character that it spells. -/
theorem Spells.symbols_append {bytes : List UInt8} {n : Nat} (h : Spells bytes n)
    (rest : List UInt8) : symbols (bytes ++ rest) = some (Char.ofNat n) :: symbols rest := by
  cases bytes with
  | nil => cases h
  | cons b tail =>
    rw [List.cons_append, symbols, symbolsFrom, h.stepAt_eq]
    change symbolsFrom [some (Char.ofNat n)] tail.length (tail ++ rest) = _
    rw [symbolsFrom_eq_append, symbolsFrom_skip]
    rfl

/-- Bytes are read as characters exactly if they are the bytes of these characters. -/
theorem symbols_eq_map_some_iff {bytes : List UInt8} {cs : List Char} :
    symbols bytes = cs.map some ↔ bytes = cs.flatMap String.utf8EncodeChar := by
  constructor
  · intro h
    induction cs generalizing bytes with
    | nil =>
      cases bytes with
      | nil => rfl
      | cons b rest =>
        rcases symbols_cons b rest with ⟨_, _, -, hs⟩ | ⟨_, hs⟩ <;> cases hs.symm.trans h
    | cons c cs ih =>
      cases bytes with
      | nil => cases h
      | cons b rest =>
        rcases symbols_cons b rest with ⟨found, length, hstep, -⟩ | ⟨_, hs⟩
        · obtain ⟨tail, more, n, rfl, hspells, rfl, rfl⟩ := exists_spells_of_stepAt hstep
          rw [← List.cons_append, hspells.symbols_append, List.map_cons, List.cons.injEq,
            Option.some_inj] at h
          rw [← List.cons_append, List.flatMap_cons, ← h.1, ← hspells.eq_utf8EncodeChar, ih h.2]
        · cases hs.symm.trans h
  · rintro rfl
    induction cs with
    | nil => rfl
    | cons c cs ih =>
      rw [List.flatMap_cons, (spells_utf8EncodeChar c).symbols_append, ih, Char.ofNat_toNat]
      rfl

theorem charsFrom_eq_some_iff {read : List Char} {s : List Symbol} {cs : List Char} :
    charsFrom read s = some cs ↔ ∃ more, s = more.map some ∧ cs = read.reverse ++ more := by
  induction s generalizing read with
  | nil =>
    rw [charsFrom, Option.some_inj]
    constructor
    · rintro rfl
      exact ⟨[], rfl, (List.append_nil _).symm⟩
    · rintro ⟨more, hmore, rfl⟩
      rw [List.map_eq_nil_iff.mp hmore.symm, List.append_nil]
  | cons symbol rest ih =>
    cases symbol with
    | none =>
      refine ⟨fun h ↦ (by cases h), ?_⟩
      rintro ⟨more, hmore, -⟩
      cases more <;> cases hmore
    | some c =>
      rw [charsFrom, ih]
      constructor
      · rintro ⟨more, rfl, rfl⟩
        exact ⟨c :: more, rfl, by simp⟩
      · rintro ⟨more, hmore, rfl⟩
        cases more with
        | nil => cases hmore
        | cons d more =>
          cases hmore
          exact ⟨more, rfl, by simp⟩

/-- Strict reading accepts the bytes of texts and nothing else. -/
theorem ofUtf8?_eq_some_iff {bytes : List UInt8} {s : String} :
    ofUtf8? bytes = some s ↔ bytes = toUtf8 s := by
  have hchars (cs : List Char) :
      chars? (symbols bytes) = some cs ↔ symbols bytes = cs.map some := by
    rw [chars?, charsFrom_eq_some_iff]
    simp [eq_comm]
  rw [ofUtf8?, Option.map_eq_some_iff, toUtf8_eq_flatMap, ← symbols_eq_map_some_iff, ← hchars]
  constructor
  · rintro ⟨cs, hcs, rfl⟩
    rwa [String.toList_ofList]
  · intro h
    exact ⟨s.toList, h, String.ofList_toList⟩

end ContextProvider.Text
