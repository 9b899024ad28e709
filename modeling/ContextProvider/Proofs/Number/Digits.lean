import ContextProvider.Json.Numeric

/-!
# Naturals in base ten

A natural is written with digits only, without a zero in front unless it is zero, and its digits
spell it.
-/

namespace ContextProvider.Number

open Json

/-- The last digit stands behind those of the rest. -/
theorem natChars_of_ten_le {n : Nat} (h : 10 ≤ n) :
    natChars n = natChars (n / 10) ++ [Nat.digitChar (n % 10)] :=
  Nat.toDigits_of_base_le (by decide) h

theorem natChars_of_lt_ten {n : Nat} (h : n < 10) : natChars n = [Nat.digitChar n] :=
  Nat.toDigits_of_lt_base h

theorem digit?_digitChar : ∀ n < 10, digit? (Nat.digitChar n) = some n := by
  decide

theorem digitChar_ne_zero : ∀ n < 10, 0 < n → Nat.digitChar n ≠ '0' := by
  decide

theorem isDigit_of_mem_natChars {n : Nat} {c : Char} (h : c ∈ natChars n) : isDigit c = true := by
  induction n using Nat.strongRecOn with
  | ind n ih =>
    rcases Nat.lt_or_ge n 10 with hn | hn
    · rw [natChars_of_lt_ten hn, List.mem_singleton] at h
      rw [h, isDigit, digit?_digitChar n hn]
      rfl
    · rw [natChars_of_ten_le hn, List.mem_append, List.mem_singleton] at h
      rcases h with h | rfl
      · exact ih (n / 10) (by omega) h
      · rw [isDigit, digit?_digitChar _ (Nat.mod_lt _ (by decide))]
        rfl

theorem natChars_ne_nil (n : Nat) : natChars n ≠ [] := by
  rcases Nat.lt_or_ge n 10 with hn | hn
  · rw [natChars_of_lt_ten hn]
    exact List.cons_ne_nil _ _
  · rw [natChars_of_ten_le hn]
    exact List.append_ne_nil_of_right_ne_nil _ (List.cons_ne_nil _ _)

theorem head?_natChars_ne {n : Nat} (h : 0 < n) : (natChars n).head? ≠ some '0' := by
  induction n using Nat.strongRecOn with
  | ind n ih =>
    rcases Nat.lt_or_ge n 10 with hn | hn
    · rw [natChars_of_lt_ten hn, List.head?_cons, ne_eq, Option.some.injEq]
      exact digitChar_ne_zero n hn h
    · obtain ⟨c, rest, hrest⟩ := List.exists_cons_of_ne_nil (natChars_ne_nil (n / 10))
      have hhead := ih (n / 10) (by omega) (by omega)
      rw [natChars_of_ten_le hn, hrest]
      rwa [hrest] at hhead

/-- The digits of a natural spell it. -/
theorem naturalOf_natChars (n : Nat) : naturalOf (natChars n) = n := by
  induction n using Nat.strongRecOn with
  | ind n ih =>
    rcases Nat.lt_or_ge n 10 with hn | hn
    · simp [natChars_of_lt_ten hn, naturalOf, naturalAfter, digit?_digitChar n hn]
    · have hlast := digit?_digitChar (n % 10) (Nat.mod_lt _ (by decide))
      have hrest := ih (n / 10) (by omega)
      unfold naturalOf naturalAfter at hrest ⊢
      rw [natChars_of_ten_le hn, List.foldl_append, hrest]
      simp [hlast]
      omega

end ContextProvider.Number
