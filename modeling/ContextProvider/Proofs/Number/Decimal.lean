import ContextProvider.Number.Decimal
import ContextProvider.Proofs.Json.Grammar

/-!
# The grammar of decimal literals

A decimal literal has the parts of a JSON number but is written more freely: a plus may stand in
front, zeros may lead, and the digits may be missing on one side of the point. The reader accepts
these texts and no others, and it reads them as their exact value.
-/

namespace ContextProvider.Number

open Json

/-- The exact value of the parts of a number. -/
def decimalOf (n : Literal) : Decimal where
  negative := n.negative
  digits := naturalOf (n.whole ++ n.fraction.getD [])
  exponent := n.statedExponent - (n.fraction.getD []).length

/-- The characters that spell the parts of a number behind its sign: at least one digit, with at
most one point among the digits, and an exponent or none. -/
inductive SpellsMagnitude (n : Literal) : List Char → Prop
  | mk {exponent : List Char} (whole : ∀ c ∈ n.whole, isDigit c = true)
      (fraction : ∀ digits ∈ n.fraction, ∀ c ∈ digits, isDigit c = true)
      (nonempty : n.whole ++ n.fraction.getD [] ≠ [])
      (written : ExponentWritten n.exponent exponent) :
      SpellsMagnitude n (n.whole ++ (fractionChars n.fraction ++ exponent))

/-- The characters that spell the parts of a number as a decimal literal. -/
inductive Spells (n : Literal) : List Char → Prop
  | mk {sign s : List Char} (signed : SignWritten n.negative sign)
      (magnitude : SpellsMagnitude n s) : Spells n (sign ++ s)

/-! ## Signs, digits and exponents -/

theorem takeSign_append {negative : Bool} {sign rest : List Char} (h : SignWritten negative sign)
    (hplus : rest.head? ≠ some '+') (hminus : rest.head? ≠ some '-') :
    takeSign (sign ++ rest) = (negative, rest) := by
  cases h with
  | absent =>
    rw [List.nil_append]
    unfold takeSign
    split
    · exact absurd rfl hminus
    · exact absurd rfl hplus
    · rfl
  | plus => rfl
  | minus => rfl

theorem exists_sign_of_takeSign {negative : Bool} {s rest : List Char}
    (h : takeSign s = (negative, rest)) :
    ∃ sign, SignWritten negative sign ∧ s = sign ++ rest := by
  unfold takeSign at h
  split at h <;> cases h
  · exact ⟨_, .minus, rfl⟩
  · exact ⟨_, .plus, rfl⟩
  · exact ⟨_, .absent, rfl⟩

section

variable {digits rest : List Char} (hdigits : ∀ c ∈ digits, isDigit c = true)
  (hrest : ∀ c, rest.head? = some c → isDigit c = false)

include hdigits hrest

theorem takeWhile_digits_append : (digits ++ rest).takeWhile isDigit = digits := by
  rw [List.takeWhile_append_of_pos hdigits]
  cases rest with
  | nil => rw [List.takeWhile_nil, List.append_nil]
  | cons c rest => rw [List.takeWhile_cons_of_neg (by simp [hrest c rfl]), List.append_nil]

theorem dropWhile_digits_append : (digits ++ rest).dropWhile isDigit = rest := by
  rw [List.dropWhile_append_of_pos hdigits]
  cases rest with
  | nil => rfl
  | cons c rest => rw [List.dropWhile_cons_of_neg (by simp [hrest c rfl])]

end

theorem head?_ne_of_isDigit {digits : List Char} (h : ∀ c ∈ digits, isDigit c = true) {c : Char}
    (hc : isDigit c = false) : digits.head? ≠ some c := by
  intro hhead
  rw [h c (List.mem_of_mem_head? hhead)] at hc
  cases hc

theorem readExponent_of_written {n : Literal} {s : List Char}
    (h : ExponentWritten n.exponent s) : readExponent s = some n.statedExponent := by
  generalize hstated : n.exponent = stated at h
  cases h with
  | absent => simp only [readExponent, Literal.statedExponent, hstated]
  | @stated mark below sign digits mark_eq signed digits_wf =>
    have hsign : takeSign (sign ++ digits) = (below, digits) :=
      takeSign_append signed (head?_ne_of_isDigit digits_wf.2 rfl)
        (head?_ne_of_isDigit digits_wf.2 rfl)
    have hall : digits.all isDigit = true := List.all_eq_true.mpr digits_wf.2
    simp only [readExponent, if_pos mark_eq, hsign, digits_wf.isEmpty, hall,
      Literal.statedExponent, hstated]
    rfl

theorem exists_written_of_readExponent {s : List Char} {e : Int}
    (h : readExponent s = some e) : ∃ stated, ExponentWritten stated s ∧
      ∀ negative whole fraction,
        (Literal.mk negative whole fraction stated).statedExponent = e := by
  unfold readExponent at h
  split at h
  · cases h
    exact ⟨none, .absent, fun _ _ _ ↦ rfl⟩
  · split at h
    · rename_i hmark
      split at h
      rename_i negative digits hsign
      split at h
      · cases h
      · rename_i hdigits
        cases h
        simp only [Bool.or_eq_true, not_or, Bool.not_eq_true, Bool.not_eq_false',
          List.isEmpty_eq_false_iff, List.all_eq_true] at hdigits
        obtain ⟨sign, hwritten, rfl⟩ := exists_sign_of_takeSign hsign
        exact ⟨some (negative, digits), .stated hmark hwritten hdigits, fun _ _ _ ↦ rfl⟩
    · cases h

/-! ## Literals -/

theorem mark_of_written {stated : Option (Bool × List Char)} {s : List Char}
    (h : ExponentWritten stated s) {c : Char} (hc : s.head? = some c) : c = 'e' ∨ c = 'E' := by
  cases h with
  | absent => cases hc
  | stated mark_eq =>
    cases hc
    exact mark_eq

/-- The digits and the exponent of a literal, on either side of what ends them. -/
theorem readMagnitude_append {whole rest : List Char} (negative : Bool)
    (hwhole : ∀ c ∈ whole, isDigit c = true)
    (hrest : ∀ c, rest.head? = some c → isDigit c = false ∧ c ≠ '.') :
    readMagnitude negative (whole ++ rest) =
      if whole = [] then none
      else (readExponent rest).map fun exponent ↦ ⟨negative, naturalOf whole, exponent⟩ := by
  have hdigit : ∀ c, rest.head? = some c → isDigit c = false := fun c hc ↦ (hrest c hc).1
  rw [readMagnitude, takeWhile_digits_append hwhole hdigit, dropWhile_digits_append hwhole hdigit]
  split
  rename_i heq
  split at heq
  · exact absurd rfl (hrest '.' rfl).2
  · cases heq
    simp

theorem readMagnitude_append_point {whole fraction rest : List Char} (negative : Bool)
    (hwhole : ∀ c ∈ whole, isDigit c = true) (hfraction : ∀ c ∈ fraction, isDigit c = true)
    (hrest : ∀ c, rest.head? = some c → isDigit c = false) :
    readMagnitude negative (whole ++ '.' :: (fraction ++ rest)) =
      if whole ++ fraction = [] then none
      else (readExponent rest).map fun exponent ↦
        ⟨negative, naturalOf (whole ++ fraction), exponent - fraction.length⟩ := by
  have hpoint : ∀ c, ('.' :: (fraction ++ rest)).head? = some c → isDigit c = false := by
    rintro c ⟨⟩
    rfl
  rw [readMagnitude, takeWhile_digits_append hwhole hpoint, dropWhile_digits_append hwhole hpoint]
  simp only [takeWhile_digits_append hfraction hrest, dropWhile_digits_append hfraction hrest]
  simp [List.append_eq_nil_iff]

theorem SpellsMagnitude.readMagnitude_eq {n : Literal} {s : List Char}
    (h : SpellsMagnitude n s) : readMagnitude n.negative s = some (decimalOf n) := by
  obtain @⟨exponent, whole, fraction, nonempty, written⟩ := h
  have hmark : ∀ c, exponent.head? = some c → isDigit c = false ∧ c ≠ '.' := by
    intro c hc
    rcases mark_of_written written hc with rfl | rfl <;> decide
  cases hpoint : n.fraction with
  | none =>
    have hne : n.whole ≠ [] := by simpa [hpoint] using nonempty
    rw [fractionChars, List.nil_append, readMagnitude_append n.negative whole hmark, if_neg hne,
      readExponent_of_written written]
    simp [decimalOf, hpoint]
  | some digits =>
    have hne : n.whole ++ digits ≠ [] := by simpa [hpoint] using nonempty
    rw [fractionChars, List.cons_append, readMagnitude_append_point n.negative whole
      (fraction digits hpoint) (fun c hc ↦ (hmark c hc).1), if_neg hne,
      readExponent_of_written written]
    simp [decimalOf, hpoint]

theorem exists_spells_of_readMagnitude {negative : Bool} {s : List Char} {d : Decimal}
    (h : readMagnitude negative s = some d) :
    ∃ n, n.negative = negative ∧ SpellsMagnitude n s ∧ decimalOf n = d := by
  have hwhole : ∀ c ∈ s.takeWhile isDigit, isDigit c = true := fun c ↦ List.mem_takeWhile_imp
  have hs : s.takeWhile isDigit ++ s.dropWhile isDigit = s := List.takeWhile_append_dropWhile
  generalize s.takeWhile isDigit = whole at hwhole hs
  have hstop : ∀ c, (s.dropWhile isDigit).head? = some c → isDigit c = false := by
    intro c hc
    simpa [hc] using List.head?_dropWhile_not isDigit s
  generalize s.dropWhile isDigit = rest at hs hstop
  by_cases hpoint : rest.head? = some '.'
  · obtain ⟨tail, rfl⟩ := List.head?_eq_some_iff.mp hpoint
    have hfraction : ∀ c ∈ tail.takeWhile isDigit, isDigit c = true :=
      fun c ↦ List.mem_takeWhile_imp
    have htail : tail.takeWhile isDigit ++ tail.dropWhile isDigit = tail :=
      List.takeWhile_append_dropWhile
    have hend : ∀ c, (tail.dropWhile isDigit).head? = some c → isDigit c = false := by
      intro c hc
      simpa [hc] using List.head?_dropWhile_not isDigit tail
    generalize tail.takeWhile isDigit = fraction at hfraction htail
    generalize tail.dropWhile isDigit = exponent at htail hend
    rw [← hs, ← htail, readMagnitude_append_point negative hwhole hfraction hend] at h
    split at h
    · cases h
    · rename_i hne
      obtain ⟨e, he, rfl⟩ := Option.map_eq_some_iff.mp h
      obtain ⟨stated, hstated, hvalue⟩ := exists_written_of_readExponent he
      refine ⟨⟨negative, whole, some fraction, stated⟩, rfl, ?_, ?_⟩
      · rw [← hs, ← htail]
        exact .mk hwhole (by rintro _ ⟨⟩; exact hfraction) hne hstated
      · simp [decimalOf, hvalue]
  · have hother : ∀ c, rest.head? = some c → isDigit c = false ∧ c ≠ '.' :=
      fun c hc ↦ ⟨hstop c hc, by rintro rfl; exact hpoint hc⟩
    rw [← hs, readMagnitude_append negative hwhole hother] at h
    split at h
    · cases h
    · rename_i hne
      obtain ⟨e, he, rfl⟩ := Option.map_eq_some_iff.mp h
      obtain ⟨stated, hstated, hvalue⟩ := exists_written_of_readExponent he
      refine ⟨⟨negative, whole, none, stated⟩, rfl, ?_, ?_⟩
      · rw [← hs]
        exact .mk hwhole nofun (by simpa using hne) hstated
      · simp [decimalOf, hvalue]

theorem SpellsMagnitude.exists_cons {n : Literal} {s : List Char} (h : SpellsMagnitude n s) :
    ∃ c t, s = c :: t ∧ (isDigit c = true ∨ c = '.') := by
  obtain @⟨exponent, whole, fraction, nonempty, written⟩ := h
  cases hwhole : n.whole with
  | cons c t => exact ⟨c, _, rfl, .inl (whole c (by simp [hwhole]))⟩
  | nil =>
    cases hpoint : n.fraction with
    | none => simp [hwhole, hpoint] at nonempty
    | some digits => exact ⟨'.', _, rfl, .inr rfl⟩

theorem Spells.takeSign_eq {n : Literal} {s : List Char} (h : Spells n s) :
    ∃ t, takeSign s = (n.negative, t) ∧ SpellsMagnitude n t := by
  obtain @⟨sign, t, signed, magnitude⟩ := h
  obtain ⟨c, u, rfl, hc⟩ := magnitude.exists_cons
  refine ⟨_, takeSign_append signed ?_ ?_, magnitude⟩
  all_goals
    rintro ⟨⟩
    revert hc
    decide

theorem exists_spells_of_takeSign {negative : Bool} {s t : List Char} {d : Decimal}
    (hsign : takeSign s = (negative, t)) (h : readMagnitude negative t = some d) :
    ∃ n, Spells n s ∧ decimalOf n = d := by
  obtain ⟨sign, hsigned, rfl⟩ := exists_sign_of_takeSign hsign
  obtain ⟨n, rfl, hmagnitude, hd⟩ := exists_spells_of_readMagnitude h
  exact ⟨n, .mk hsigned hmagnitude, hd⟩

/-- A text is read as a decimal exactly if it spells the parts of it. -/
theorem Decimal.ofText?_eq_some_iff {s : String} {d : Decimal} :
    Decimal.ofText? s = some d ↔ ∃ n, Spells n s.toList ∧ decimalOf n = d := by
  constructor
  · exact exists_spells_of_takeSign rfl
  · rintro ⟨n, h, rfl⟩
    obtain ⟨t, hsign, hmagnitude⟩ := h.takeSign_eq
    rw [Decimal.ofText?, hsign]
    exact hmagnitude.readMagnitude_eq

/-- A text spells at most one decimal. -/
theorem Spells.decimalOf_eq {n n' : Literal} {s : String} (h : Spells n s.toList)
    (h' : Spells n' s.toList) : decimalOf n = decimalOf n' := by
  have hread := Decimal.ofText?_eq_some_iff.mpr ⟨n, h, rfl⟩
  have hread' := Decimal.ofText?_eq_some_iff.mpr ⟨n', h', rfl⟩
  exact Option.some.inj (hread.symm.trans hread')

/-! ## Characters of literals -/

theorem mem_of_signWritten {negative : Bool} {sign : List Char} (h : SignWritten negative sign)
    {c : Char} (hc : c ∈ sign) : c = '+' ∨ c = '-' := by
  cases h with
  | absent => cases hc
  | plus => exact .inl (List.mem_singleton.mp hc)
  | minus => exact .inr (List.mem_singleton.mp hc)

theorem mem_of_exponentWritten {stated : Option (Bool × List Char)} {s : List Char}
    (h : ExponentWritten stated s) {c : Char} (hc : c ∈ s) :
    isDigit c ∨ c ∈ ['+', '-', 'e', 'E'] := by
  cases h with
  | absent => cases hc
  | stated mark_eq signed digits_wf =>
    rcases List.mem_cons.mp hc with rfl | hc
    · rcases mark_eq with rfl | rfl <;> decide
    · rcases List.mem_append.mp hc with hc | hc
      · rcases mem_of_signWritten signed hc with rfl | rfl <;> decide
      · exact .inl (digits_wf.2 c hc)

/-- Only digits, signs, points and marks of exponents occur in a literal. -/
theorem Spells.mem {n : Literal} {s : List Char} (h : Spells n s) {c : Char} (hc : c ∈ s) :
    isDigit c ∨ c ∈ ['+', '-', '.', 'e', 'E'] := by
  obtain ⟨signed, whole, fraction, -, written⟩ := h
  simp only [List.mem_append] at hc
  rcases hc with hc | hc | hc | hc
  · rcases mem_of_signWritten signed hc with rfl | rfl <;> decide
  · exact .inl (whole c hc)
  · cases hpoint : n.fraction with
    | none => simp [hpoint, fractionChars] at hc
    | some digits =>
      rw [hpoint, fractionChars, List.mem_cons] at hc
      rcases hc with rfl | hc
      · decide
      · exact .inl (fraction digits hpoint c hc)
  · have := mem_of_exponentWritten written hc
    grind

/-- A literal has a digit. -/
theorem SpellsMagnitude.exists_digit {n : Literal} {s : List Char} (h : SpellsMagnitude n s) :
    ∃ c ∈ s, isDigit c := by
  obtain ⟨whole, fraction, nonempty, -⟩ := h
  obtain ⟨c, hc⟩ := List.exists_mem_of_ne_nil _ nonempty
  rcases List.mem_append.mp hc with hc | hc
  · exact ⟨c, by simp [hc], whole c hc⟩
  · cases hpoint : n.fraction with
    | none => simp [hpoint] at hc
    | some digits =>
      rw [hpoint, Option.getD_some] at hc
      exact ⟨c, by simp [fractionChars, hc], fraction digits hpoint c hc⟩

theorem Spells.exists_digit {n : Literal} {s : List Char} (h : Spells n s) :
    ∃ c ∈ s, isDigit c := by
  obtain ⟨-, magnitude⟩ := h
  obtain ⟨c, hc, hdigit⟩ := magnitude.exists_digit
  exact ⟨c, List.mem_append_right _ hc, hdigit⟩

/-! ## Words that are no literals -/

/-- The words for the doubles that are not finite, in lower case. -/
def specialWords : List (List Char) :=
  ["inf".toList, "infinity".toList, "nan".toList]

theorem isDigit_iff {c : Char} : isDigit c ↔ '0' ≤ c ∧ c ≤ '9' := by
  unfold isDigit digit?
  split <;> simp [*]

theorem toLower_of_isDigit {c : Char} (h : isDigit c) : c.toLower = c := by
  have hletter : ¬ (c.val ≥ 'A'.val ∧ c.val ≤ 'Z'.val) := fun hletter ↦
    absurd (UInt32.le_trans hletter.1 (isDigit_iff.mp h).2) (by decide)
  exact dif_neg hletter

theorem any_isDigit_of_mem_specialWords : ∀ word ∈ specialWords, word.any isDigit = false := by
  decide

/-- There is no digit in such a word, in whatever case. -/
theorem not_isDigit_of_special {word : List Char} (h : word.map Char.toLower ∈ specialWords)
    {c : Char} (hc : c ∈ word) : isDigit c = false := by
  by_contra hdigit
  have hlower := List.any_eq_false.mp (any_isDigit_of_mem_specialWords _ h) _
    (List.mem_map_of_mem hc)
  rw [toLower_of_isDigit (by simpa using hdigit)] at hlower
  exact hdigit (by simpa using hlower)

theorem SpellsMagnitude.not_mem_specialWords {n : Literal} {s : List Char}
    (h : SpellsMagnitude n s) : s.map Char.toLower ∉ specialWords := by
  intro hword
  obtain ⟨c, hc, hdigit⟩ := h.exists_digit
  rw [not_isDigit_of_special hword hc] at hdigit
  cases hdigit

theorem Double.ofText?_of_spells {n : Literal} {s : String} (h : Spells n s.toList) :
    Double.ofText? s = some (decimalOf n).toDouble := by
  obtain ⟨t, hsign, hmagnitude⟩ := h.takeSign_eq
  have hword := hmagnitude.not_mem_specialWords
  simp only [specialWords, List.mem_cons, List.not_mem_nil, or_false, not_or] at hword
  simp only [Double.ofText?, hsign, hword, or_self, if_false, hmagnitude.readMagnitude_eq,
    Option.map_some]

/-- The texts of finite doubles are decimal literals. -/
theorem Double.filter_ofText?_eq_some_iff {s : String} {x : Double} :
    (Double.ofText? s).filter Double.isFinite = some x ↔
      ∃ n, Spells n s.toList ∧ (decimalOf n).toDouble = x ∧ x.isFinite := by
  rw [Option.filter_eq_some_iff]
  constructor
  · rintro ⟨hread, hfinite⟩
    simp only [Double.ofText?] at hread
    split_ifs at hread with hinfinite hnan
    · cases hread
      cases hfinite
    · cases hread
      cases hfinite
    · obtain ⟨d, hd, rfl⟩ := Option.map_eq_some_iff.mp hread
      obtain ⟨n, hn, rfl⟩ := exists_spells_of_takeSign rfl hd
      exact ⟨n, hn, rfl, hfinite⟩
  · rintro ⟨n, hn, rfl, hfinite⟩
    exact ⟨Double.ofText?_of_spells hn, hfinite⟩

end ContextProvider.Number
