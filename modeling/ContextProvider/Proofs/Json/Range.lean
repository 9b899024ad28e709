import ContextProvider.Json.Tree
import ContextProvider.Proofs.Number.Double

/-!
# Numbers that were read

An integer that is read fits 64 bits, with or without sign, since every longer one is kept as a
double. So it has a finite double. What a JSON value holds was read like the value itself, so that
this is true of every number in it.
-/

namespace ContextProvider.Json

open Number

/-- An integer that fits 64 bits, with or without sign. A double is always in range. -/
def Numeric.InRange : Numeric → Prop
  | .integer n => -2 ^ 63 ≤ n ∧ n < 2 ^ 64
  | .double _ => True

theorem Numeric.InRange.exists_toDouble_eq_finite {n : Numeric} (h : n.InRange) :
    ∃ x, n.toDouble = .finite x := by
  cases n with
  | integer n =>
    have hsmall : n.natAbs < 2 ^ 64 := by
      have := h.1
      have := h.2
      omega
    apply exists_ofQuotient_eq_finite _ Nat.one_ne_zero
    calc n.natAbs
      _ < 2 ^ 64 := hsmall
      _ ≤ 1 * 2 ^ 200 := by
        rw [Nat.one_mul]
        exact Nat.pow_le_pow_right Nat.two_pos (by decide)
  | double x => exact ⟨x, rfl⟩

/-! ## Literals -/

theorem absorbDigits_lt {significand : Nat} (h : significand < 2 ^ 64) (digits : List Char) :
    (absorbDigits significand digits).1 < 2 ^ 64 := by
  induction digits generalizing significand with
  | nil => exact h
  | cons c rest ih =>
    simp only [absorbDigits]
    split
    · exact ih ‹_›
    · exact h

/-- A literal stands for a number in range. -/
theorem Literal.inRange_of_value? {literal : Literal} {n : Numeric}
    (h : literal.value? = some n) : n.InRange := by
  have hleading : (absorbDigits 0 literal.whole).1 < 2 ^ 64 := absorbDigits_lt (by decide) _
  unfold value? at h
  generalize absorbDigits 0 literal.whole = absorbed at h hleading
  obtain ⟨leading, extra⟩ := absorbed
  dsimp only at h hleading
  split at h
  · rename_i hinteger
    cases h
    simp only [Bool.and_eq_true, Bool.or_eq_true, Bool.not_eq_true', decide_eq_true_eq] at hinteger
    obtain ⟨-, hsign⟩ := hinteger
    simp only [Numeric.InRange]
    cases hnegative : literal.negative with
    | false =>
      rw [if_neg Bool.false_ne_true]
      omega
    | true =>
      rw [hnegative] at hsign
      have hbounds := hsign.resolve_left (by decide)
      rw [if_pos rfl]
      omega
  · simp only [Option.bind_eq_bind, Option.bind_eq_some_iff] at h
    obtain ⟨_, _, _, _, h⟩ := h
    cases h
    trivial

/-! ## Members -/

/-- A value that was read from a text. -/
def IsRead (value : Json) : Prop :=
  ∃ room tree, Tree.toJson? room tree = some value

theorem Fields.mem_of_get? {fields : Fields} {key : String} {value : Json}
    (h : fields.get? key = some value) : ∃ member ∈ fields, member.2 = value := by
  obtain ⟨member, hmember, rfl⟩ := Option.map_eq_some_iff.mp h
  exact ⟨member, List.mem_of_find?_eq_some hmember, rfl⟩

theorem Fields.mem_insert {fields : Fields} {key : String} {value : Json}
    {member : String × Json} (h : member ∈ fields.insert key value) :
    member ∈ fields ∨ member = (key, value) := by
  induction fields with
  | nil => exact .inr (List.mem_singleton.mp h)
  | cons first rest ih =>
    obtain ⟨k, v⟩ := first
    rw [Fields.insert] at h
    grind

theorem Fields.mem_ofMembers (members : List (String × Json)) :
    ∀ member ∈ Fields.ofMembers members, member ∈ members := by
  apply List.foldlRecOn (motive := fun fields ↦ ∀ member ∈ fields, member ∈ members)
  · exact List.forall_mem_nil _
  · intro fields hfields next hnext member hmember
    rcases Fields.mem_insert hmember with hold | rfl
    · exact hfields member hold
    · exact hnext

theorem isRead_of_memberValues? {room : Nat} {members : List (Option String × Tree)}
    {values : List (String × Json)} (h : Tree.memberValues? room members = some values) :
    ∀ member ∈ values, IsRead member.2 := by
  induction members generalizing values with
  | nil =>
    cases h
    exact List.forall_mem_nil _
  | cons first rest ih =>
    obtain ⟨key, tree⟩ := first
    simp only [Tree.memberValues?, Option.bind_eq_bind, Option.bind_eq_some_iff, Option.pure_def,
      Option.some.injEq] at h
    obtain ⟨key, -, value, hvalue, more, hmore, rfl⟩ := h
    exact List.forall_mem_cons.mpr ⟨⟨room, tree, hvalue⟩, ih hmore⟩

/-- The members of an object that was read were read as well. -/
theorem IsRead.member {fields : Fields} (h : IsRead (.object fields)) {key : String} {value : Json}
    (hvalue : fields.get? key = some value) : IsRead value := by
  obtain ⟨room, tree, htree⟩ := h
  unfold Tree.toJson? at htree
  split at htree <;> simp only [Option.map_eq_some_iff, reduceCtorEq, and_false, exists_false,
    Option.some.injEq, Json.object.injEq] at htree
  obtain ⟨values, hvalues, rfl⟩ := htree
  obtain ⟨member, hmember, rfl⟩ := Fields.mem_of_get? hvalue
  exact isRead_of_memberValues? hvalues member (Fields.mem_ofMembers values member hmember)

/-- A number that was read is in range. -/
theorem IsRead.inRange {n : Numeric} (h : IsRead (.number n)) : n.InRange := by
  obtain ⟨room, tree, htree⟩ := h
  unfold Tree.toJson? at htree
  split at htree <;> simp only [Option.map_eq_some_iff, reduceCtorEq, and_false, exists_false,
    Option.some.injEq, Json.number.injEq] at htree
  obtain ⟨_, hliteral, rfl⟩ := htree
  exact Literal.inRange_of_value? hliteral

theorem isRead_of_ofJsonBytes? {bytes : List UInt8} {value : Json}
    (h : ofJsonBytes? bytes = some value) : IsRead value := by
  obtain ⟨tree, -, htree⟩ := Option.bind_eq_some_iff.mp h
  exact ⟨maxNesting, tree, htree⟩

end ContextProvider.Json
