import ContextProvider.Proofs.Backend.Values
import ContextProvider.Proofs.Number.Magnitude
import ContextProvider.Proofs.Text.Separation

/-!
# Numbers spelled by texts

A text is a reading if it spells a decimal literal whose double is finite, with blanks around it and
with at most one percent sign behind it, between blanks as well. Everything else is refused, the
words for infinities among it. What a text is coerced to depends neither on the blanks nor on the
percent sign, and an integer is coerced to the same double as its digits.
-/

namespace ContextProvider.Observation

open Json Number Text

/-! ## The part that has to spell a number -/

theorem numericPart_eq_of_trim_eq {s t : String} (h : trim s = trim t) :
    numericPart s = numericPart t := by
  rw [trim, trim, String.ofList_inj] at h
  rw [numericPart, numericPart, h]

/-- A text that does not end in a percent sign is only trimmed. -/
theorem numericPart_of_getLast?_ne {s : String} (h : (trim s).toList.getLast? ≠ some '%') :
    numericPart s = trim s := by
  rw [trim, String.toList_ofList] at h
  rw [numericPart, dropPercent, if_neg h, trimChars_trimChars, trim]

theorem exists_eq_append_percent {s : String} (h : (trim s).toList.getLast? = some '%') :
    ∃ number after, isBlank after ∧ s = number ++ "%" ++ after := by
  obtain ⟨before, after, -, hafter, hs⟩ := exists_blanks_trimChars s.toList
  rw [trim, String.toList_ofList, List.getLast?_eq_some_iff] at h
  obtain ⟨core, hcore⟩ := h
  refine ⟨String.ofList (before ++ core), String.ofList after, by simpa [isBlank] using hafter, ?_⟩
  rw [← String.toList_inj, hs, hcore]
  simp

/-- The percent sign goes with the blanks on either side. -/
theorem numericPart_append_percent (number : String) {after : String} (h : isBlank after) :
    numericPart (number ++ "%" ++ after) = trim number := by
  have htrim : trimChars (number ++ "%" ++ after).toList = dropBlanks number.toList ++ ['%'] := by
    rw [String.toList_append, trimChars_append_blanks _ (forall_isBlankChar_of_isBlank h),
      String.toList_append]
    exact trimChars_concat_of_not_blank (by decide) _
  rw [numericPart, htrim, dropPercent, List.getLast?_concat, if_pos rfl, List.dropLast_concat,
    trimChars_dropBlanks, trim]

/-- All that is neither blank nor a percent sign stays. -/
theorem mem_numericPart {s : String} {c : Char} (hc : c ∈ s.toList) (hblank : isBlankChar c = false)
    (hpercent : c ≠ '%') : c ∈ (numericPart s).toList := by
  by_cases hlast : (trim s).toList.getLast? = some '%'
  · obtain ⟨number, after, hafter, rfl⟩ := exists_eq_append_percent hlast
    have hother : c ∉ after.toList := fun hmem ↦ by
      rw [forall_isBlankChar_of_isBlank hafter c hmem] at hblank
      cases hblank
    rw [numericPart_append_percent number hafter, trim, String.toList_ofList,
      mem_trimChars_iff hblank]
    simpa [hother, hpercent] using hc
  · rwa [numericPart_of_getLast?_ne hlast, trim, String.toList_ofList, mem_trimChars_iff hblank]

/-- Only one percent sign is taken off, and only with nothing but blanks behind it. -/
theorem percent_mem_numericPart {before after : String} (h : ¬ isBlank after) :
    '%' ∈ (numericPart (before ++ "%" ++ after)).toList := by
  have hpercent : isBlankChar '%' = false := by decide
  by_cases hlast : (trim (before ++ "%" ++ after)).toList.getLast? = some '%'
  · obtain ⟨number, blanks, hblanks, hs⟩ := exists_eq_append_percent hlast
    rw [hs, numericPart_append_percent number hblanks, trim, String.toList_ofList,
      mem_trimChars_iff hpercent]
    by_contra hnumber
    have hmem : '%' ∉ blanks.toList := fun hmem ↦ by
      rw [forall_isBlankChar_of_isBlank hblanks _ hmem] at hpercent
      cases hpercent
    have hchars : number.toList ++ '%' :: blanks.toList = before.toList ++ '%' :: after.toList := by
      simpa using congrArg String.toList hs.symm
    obtain ⟨-, -, hafter⟩ := (List.append_cons_inj_of_notMem hnumber hmem).mp hchars
    exact h (String.toList_inj.mp hafter ▸ hblanks)
  · rw [numericPart_of_getLast?_ne hlast, trim, String.toList_ofList, mem_trimChars_iff hpercent]
    simp

theorem getLast?_ne_of_spells {n : Literal} {s : List Char} (h : Spells n s) :
    s.getLast? ≠ some '%' := by
  intro hlast
  rcases h.mem (List.mem_of_getLast? hlast) with hdigit | hother
  · revert hdigit
    decide
  · revert hother
    decide

/-- A literal is the part that has to spell a number if it is all there is between blanks, or all
there is in front of a percent sign with nothing but blanks behind it. -/
theorem numericPart_eq_iff_of_spells {n : Literal} {literal : String}
    (h : Spells n literal.toList) {s : String} :
    numericPart s = literal ↔ trim s = literal ∨
      ∃ number after, isBlank after ∧ s = number ++ "%" ++ after ∧ trim number = literal := by
  constructor
  · rintro rfl
    by_cases hlast : (trim s).toList.getLast? = some '%'
    · obtain ⟨number, after, hafter, rfl⟩ := exists_eq_append_percent hlast
      exact .inr ⟨number, after, hafter, rfl, (numericPart_append_percent number hafter).symm⟩
    · exact .inl (numericPart_of_getLast?_ne hlast).symm
  · rintro (rfl | ⟨number, after, hafter, rfl, rfl⟩)
    · exact numericPart_of_getLast?_ne (getLast?_ne_of_spells h)
    · exact numericPart_append_percent number hafter

/-! ## Texts that are refused -/

/-- A text is coerced to the double of the literal that its part spells. -/
theorem coerceNumber_string_eq_some_iff {s : String} {x : Double} :
    coerceNumber (.string s) = some x ↔ ∃ n, Spells n (numericPart s).toList ∧
      (decimalOf n).magnitude < overflowBound ∧ (decimalOf n).toDouble = x := by
  rw [coerceNumber, Double.filter_ofText?_eq_some_iff]
  simp only [← Decimal.isFinite_toDouble_iff]
  constructor
  · rintro ⟨n, hn, rfl, hfinite⟩
    exact ⟨n, hn, hfinite, rfl⟩
  · rintro ⟨n, hn, hfinite, rfl⟩
    exact ⟨n, hn, rfl, hfinite⟩

theorem coerceNumber_string_eq_none {s : String} (h : ∀ n, Spells n (numericPart s).toList →
    ¬ (decimalOf n).magnitude < overflowBound) : coerceNumber (.string s) = none := by
  rw [Option.eq_none_iff_forall_ne_some]
  intro x hx
  obtain ⟨n, hn, hfinite, -⟩ := coerceNumber_string_eq_some_iff.mp hx
  exact h n hn hfinite

theorem coerceNumber_string_eq_none_of_mem {s : String} {c : Char}
    (hc : c ∈ (numericPart s).toList) (hdigit : isDigit c = false)
    (hother : c ∉ ['+', '-', '.', 'e', 'E']) : coerceNumber (.string s) = none := by
  refine coerceNumber_string_eq_none fun n hn ↦ ?_
  rcases hn.mem hc with h | h
  · rw [hdigit] at h
    cases h
  · exact absurd h hother

theorem coerceNumber_string_eq_none_of_no_digit {s : String}
    (h : ∀ c ∈ (numericPart s).toList, isDigit c = false) : coerceNumber (.string s) = none := by
  refine coerceNumber_string_eq_none fun n hn ↦ ?_
  obtain ⟨c, hc, hdigit⟩ := hn.exists_digit
  rw [h c hc] at hdigit
  cases hdigit

/-- Texts that come close to a reading and are none. -/
inductive Unreadable (s : String) : Prop
  /-- An infinity or "not a number", in any case and with a sign or without. -/
  | special {negative : Bool} {sign word : List Char} (signed : SignWritten negative sign)
      (special : word.map Char.toLower ∈ specialWords)
      (spelled : (numericPart s).toList = sign ++ word)
  /-- A literal that is too large for a double. -/
  | overflow {n : Literal} (spelled : Spells n (numericPart s).toList)
      (large : overflowBound ≤ (decimalOf n).magnitude)
  /-- A percent sign with no number in front. -/
  | percentAlone (alone : trim s = "%")
  /-- A second percent sign. -/
  | percentAgain {first second third : String}
      (twice : s = first ++ "%" ++ (second ++ "%" ++ third))
  /-- A character beyond ASCII, blanks apart, and so every digit of another script. -/
  | foreign {c : Char} (member : c ∈ s.toList) (visible : isBlankChar c = false)
      (beyond : 128 ≤ c.toNat)

theorem Unreadable.coerceNumber_eq_none {s : String} (h : Unreadable s) :
    coerceNumber (.string s) = none := by
  cases h with
  | special signed special spelled =>
    apply coerceNumber_string_eq_none_of_no_digit
    rw [spelled]
    intro c hc
    rcases List.mem_append.mp hc with hc | hc
    · rcases mem_of_signWritten signed hc with rfl | rfl <;> rfl
    · exact not_isDigit_of_special special hc
  | overflow spelled large =>
    refine coerceNumber_string_eq_none fun n hn ↦ ?_
    rw [hn.decimalOf_eq spelled]
    exact not_lt.mpr large
  | percentAlone alone =>
    apply coerceNumber_string_eq_none_of_no_digit
    have htrim : trim s = trim ("" ++ "%" ++ "") := by rw [← trim_trim, alone]; rfl
    rw [numericPart_eq_of_trim_eq htrim, numericPart_append_percent "" rfl]
    exact fun c hc ↦ by simp [trim, trimChars, dropBlanks] at hc
  | percentAgain twice =>
    subst twice
    refine coerceNumber_string_eq_none_of_mem (percent_mem_numericPart fun hblank ↦ ?_)
      (by decide) (by decide)
    have := forall_isBlankChar_of_isBlank hblank '%' (by simp)
    revert this
    decide
  | @foreign c member visible beyond =>
    have hascii : ∀ d ∈ ['%', '+', '-', '.', 'e', 'E'], d.toNat < 128 := by simp
    have hother : ∀ d ∈ ['%', '+', '-', '.', 'e', 'E'], c ≠ d := by
      rintro d hd rfl
      exact absurd (hascii c hd) (Nat.not_lt.mpr beyond)
    have hdigit : isDigit c = false := by
      by_contra hdigit
      have hnine : c.toNat ≤ '9'.toNat := (isDigit_iff.mp (by simpa using hdigit)).2
      exact absurd hnine (Nat.not_le.mpr (Nat.lt_of_lt_of_le (by decide) beyond))
    refine coerceNumber_string_eq_none_of_mem (mem_numericPart member visible (hother '%' ?_))
      hdigit (fun hc ↦ ?_)
    · simp
    · exact hother c (by grind) rfl

/-! ## Blanks and percent signs that make no difference -/

theorem coerceNumber_congr {s t : String} (h : numericPart s = numericPart t) :
    coerceNumber (.string s) = coerceNumber (.string t) := by
  rw [coerceNumber, coerceNumber, h]

theorem coerceNumber_blanks_append_append {before after : String} (hbefore : isBlank before)
    (hafter : isBlank after) (s : String) :
    coerceNumber (.string (before ++ s ++ after)) = coerceNumber (.string s) :=
  coerceNumber_congr (numericPart_eq_of_trim_eq (trim_blanks_append_append hbefore hafter s))

theorem coerceNumber_blanks_around_percent {left right : String} (hleft : isBlank left)
    (hright : isBlank right) (number rest : String) :
    coerceNumber (.string (number ++ left ++ "%" ++ (right ++ rest))) =
      coerceNumber (.string (number ++ "%" ++ rest)) := by
  have happend : isBlank (right ++ rest) = isBlank rest := by
    rw [isBlank, String.toList_append, List.all_append, ← isBlank, ← isBlank, hright, Bool.true_and]
  by_cases hrest : isBlank rest
  · apply coerceNumber_congr
    rw [numericPart_append_percent _ (happend.trans hrest), numericPart_append_percent _ hrest,
      trim, String.toList_append, trimChars_append_blanks _ (forall_isBlankChar_of_isBlank hleft),
      trim]
  · rw [coerceNumber_string_eq_none_of_mem (percent_mem_numericPart hrest) (by decide) (by decide),
      coerceNumber_string_eq_none_of_mem (percent_mem_numericPart (happend ▸ hrest)) (by decide)
        (by decide)]

theorem coerceNumber_append_percent {s : String} (h : (trim s).toList.getLast? ≠ some '%') :
    coerceNumber (.string (s ++ "%")) = coerceNumber (.string s) := by
  have hpercent : numericPart (s ++ "%" ++ "") = trim s := numericPart_append_percent s rfl
  rw [String.append_empty] at hpercent
  exact coerceNumber_congr (hpercent.trans (numericPart_of_getLast?_ne h).symm)

/-! ## Integers and their digits -/

theorem isBlankChar_of_isDigit {c : Char} (h : isDigit c) : isBlankChar c = false := by
  have hlow : 48 ≤ c.toNat := (isDigit_iff.mp h).1
  have hhigh : c.toNat ≤ 57 := (isDigit_iff.mp h).2
  simp only [isBlankChar, Bool.or_eq_false_iff, Bool.and_eq_false_imp, decide_eq_true_eq,
    decide_eq_false_iff_not, beq_eq_false_iff_ne]
  omega

theorem trim_of_spells {n : Literal} {s : String} (h : Spells n s.toList) : trim s = s := by
  have hsigns : ∀ c ∈ ['+', '-', '.', 'e', 'E'], isBlankChar c = false := by
    simp [isBlankChar]
  refine trim_of_no_blank fun c hc ↦ ?_
  rcases h.mem hc with hdigit | hother
  · exact isBlankChar_of_isDigit hdigit
  · exact hsigns c hother

/-- An integer of 64 bits is coerced to the same double as its digits. -/
theorem coerceNumber_toString {n : Int} (h : (Numeric.integer n).InRange) :
    coerceNumber (.string (toString n)) = coerceNumber (.number (.integer n)) := by
  have hspells := spells_toString_int n
  have hpart : numericPart (toString n) = toString n :=
    (numericPart_eq_iff_of_spells hspells).mpr (.inl (trim_of_spells hspells))
  obtain ⟨x, hx⟩ := h.exists_toDouble_eq_finite
  refine coerceNumber_string_eq_some_iff.mpr ⟨integerLiteral n, ?_, ?_, toDouble_integerLiteral n⟩
  · rwa [hpart]
  · rw [← Decimal.isFinite_toDouble_iff, toDouble_integerLiteral, Double.isFinite_iff]
    exact ⟨x, hx⟩

/-! ## What is coerced -/

/-- A text is coerced exactly if, trimmed and without one percent sign and the blanks in front of
it, it spells a decimal literal that is not too large for a double. Blanks around the text, blanks
around a percent sign and a percent sign behind a text that does not end in one change nothing.
What is coerced is finite, so that the attribute is a number and not null, and an integer of 64 bits
gives the same double as its digits. -/
theorem coercion_of_texts (s : String) :
    (∀ x, coerceNumber (.string s) = some x ↔ ∃ n, Spells n (numericPart s).toList ∧
      (decimalOf n).magnitude < overflowBound ∧ (decimalOf n).toDouble = x) ∧
    (∀ n (literal : String), Spells n literal.toList → (numericPart s = literal ↔ trim s = literal ∨
      ∃ number after, isBlank after ∧ s = number ++ "%" ++ after ∧ trim number = literal)) ∧
    (Unreadable s → coerceNumber (.string s) = none) ∧
    (∀ before after, isBlank before → isBlank after →
      coerceNumber (.string (before ++ s ++ after)) = coerceNumber (.string s)) ∧
    (∀ number left right rest, s = number ++ "%" ++ rest → isBlank left → isBlank right →
      coerceNumber (.string (number ++ left ++ "%" ++ (right ++ rest))) =
        coerceNumber (.string s)) ∧
    ((trim s).toList.getLast? ≠ some '%' →
      coerceNumber (.string (s ++ "%")) = coerceNumber (.string s)) ∧
    (∀ x, coerceNumber (.string s) = some x → ∃ value, x = .finite value ∧
      AttributeValue.number x = .scalar (.number (.double value))) ∧
    ∀ n : Int, -2 ^ 63 ≤ n → n < 2 ^ 64 → ∃ value,
      coerceNumber (.number (.integer n)) = some (.finite value) ∧
        coerceNumber (.string (toString n)) = some (.finite value) := by
  refine ⟨fun x ↦ coerceNumber_string_eq_some_iff,
    fun n literal h ↦ numericPart_eq_iff_of_spells h, Unreadable.coerceNumber_eq_none,
    fun before after hbefore hafter ↦ coerceNumber_blanks_append_append hbefore hafter s, ?_,
    coerceNumber_append_percent, ?_, ?_⟩
  · rintro number left right rest rfl hleft hright
    exact coerceNumber_blanks_around_percent hleft hright number rest
  · intro x hx
    obtain ⟨value, rfl⟩ := exists_eq_finite_of_coerceNumber (fun n hn ↦ by cases hn) hx
    exact ⟨value, rfl, rfl⟩
  · intro n hlow hhigh
    have hrange : (Numeric.integer n).InRange := ⟨hlow, hhigh⟩
    obtain ⟨value, hvalue⟩ := hrange.exists_toDouble_eq_finite
    have hnumber : coerceNumber (.number (.integer n)) = some (.finite value) :=
      congrArg some hvalue
    exact ⟨value, hnumber, (coerceNumber_toString hrange).trans hnumber⟩

/-- A humidity with blanks on both sides of its percent sign, the same in Arabic digits, and the
largest integer of 64 bits, which no double has exactly. -/
theorem coercion_of_humidity :
    coerceNumber (.string " 65 % ") = some (.ofInt 65) ∧
    coerceNumber (.string "٦٥%") = none ∧
    (isBlank " " ∧ isBlank "\t" ∧
      coerceNumber (.string ("65" ++ " " ++ "%" ++ ("\t" ++ ""))) = coerceNumber (.string "65%")) ∧
    ∃ value, coerceNumber (.number (.integer (2 ^ 64 - 1))) = some (.finite value) ∧
      coerceNumber (.string (toString (2 ^ 64 - 1 : Int))) = some (.finite value) := by
  obtain ⟨hreading, -, -, -, -, -, -, hinteger⟩ := coercion_of_texts " 65 % "
  have hmagnitude : SpellsMagnitude ⟨false, ['6', '5'], none, none⟩ ['6', '5'] :=
    .mk (List.all_eq_true.mp (by decide)) nofun (by decide) .absent
  have hspells : Spells ⟨false, ['6', '5'], none, none⟩ (numericPart " 65 % ").toList := by
    rw [show (numericPart " 65 % ").toList = [] ++ ['6', '5'] by decide]
    exact .mk .absent hmagnitude
  have hfinite : (decimalOf ⟨false, ['6', '5'], none, none⟩).magnitude < overflowBound :=
    Decimal.isFinite_toDouble_iff.mp (by decide)
  refine ⟨(hreading _).mpr ⟨_, hspells, hfinite, by decide⟩, ?_, ?_,
    hinteger (2 ^ 64 - 1) (by decide) (by decide)⟩
  · exact (coercion_of_texts "٦٥%").2.2.1 (.foreign (c := '٦') (by decide) (by decide) (by decide))
  · exact ⟨by decide, by decide, (coercion_of_texts "65%").2.2.2.2.1 "65" " " "\t" "" (by decide)
      (by decide) (by decide)⟩

end ContextProvider.Observation
