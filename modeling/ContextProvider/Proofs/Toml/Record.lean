import ContextProvider.Proofs.Json.Record
import ContextProvider.Toml.Record

/-!
# Records read from tables

A declared field of a record that is read from a table is the table's member of that name. Members
with other names do not count: a table that has one more of them gives the same record.
-/

namespace ContextProvider.Toml

/-- The second table has one member more, under none of the names. -/
def Extends (names : List String) (fields extended : List (String × Toml)) : Prop :=
  ∃ before key value after, key ∉ names ∧ fields = before ++ after ∧
    extended = before ++ (key, value) :: after

section

variable {fields extended : List (String × Toml)} {names : List String} {name : String}

theorem lookup_cons_of_ne {key : String} {value : Toml} (h : name ≠ key) :
    List.lookup name ((key, value) :: fields) = fields.lookup name := by
  rw [List.lookup_cons, beq_eq_false_iff_ne.mpr h]

theorem lookup_append_cons {before after : List (String × Toml)} {key : String} {value : Toml} :
    (before ++ (key, value) :: after).lookup name =
      (before.lookup name).or (if name = key then some value else after.lookup name) := by
  rw [List.lookup_append]
  split
  · rw [‹name = key›, List.lookup_cons_self]
  · rw [lookup_cons_of_ne ‹name ≠ key›]

theorem record?_table :
    (table fields).record? names = some (fields.filter fun field ↦ names.contains field.1) :=
  rfl

theorem Record.get?_filter (h : name ∈ names) :
    Record.get? (fields.filter fun field ↦ names.contains field.1) name = fields.lookup name := by
  unfold Record.get?
  induction fields with
  | nil => rfl
  | cons first rest ih =>
    obtain ⟨key, value⟩ := first
    by_cases hkey : name = key
    · subst hkey
      simp [h]
    · rw [lookup_cons_of_ne hkey, ← ih, List.filter_cons]
      split
      · rw [lookup_cons_of_ne hkey]
      · rfl

theorem Extends.record? (h : Extends names fields extended) :
    (table extended).record? names = (table fields).record? names := by
  obtain ⟨before, key, value, after, hkey, rfl, rfl⟩ := h
  simp [record?_table, hkey]

theorem Extends.lookup (h : Extends names fields extended) (hname : name ∈ names) :
    extended.lookup name = fields.lookup name := by
  obtain ⟨before, key, value, after, hkey, rfl, rfl⟩ := h
  have hne : name ≠ key := by
    rintro rfl
    exact hkey hname
  rw [lookup_append_cons, if_neg hne, List.lookup_append]

end

/-! ## Fields -/

/-- The integer writes a natural below the bound. -/
def WritesNat (bound : Nat) (toml : Toml) (n : Nat) : Prop :=
  toml = .integer n ∧ n < bound

/-- The string writes its text. -/
def WritesText (toml : Toml) (text : String) : Prop :=
  toml = .string text

section

variable {α : Type*} {record : Record} {name : String} {read : Toml → Option α} {toml : Toml}

theorem Record.required_eq_some_iff {value : α} :
    record.required name read = some value ↔
      ∃ toml, record.get? name = some toml ∧ read toml = some value :=
  Option.bind_eq_some_iff

theorem Record.defaulted_eq_elim {usual : α} :
    record.defaulted name usual read = (record.get? name).elim (some usual) read := by
  unfold Record.defaulted
  cases record.get? name <;> rfl

theorem text?_eq_some_iff {text : String} : toml.text? = some text ↔ toml.WritesText text := by
  unfold text? WritesText
  split <;> simp_all

theorem natBelow?_eq_some_iff {bound n : Nat} :
    toml.natBelow? bound = some n ↔ toml.WritesNat bound n := by
  unfold natBelow? WritesNat
  split
  · rename_i value
    rw [Option.ite_none_right_eq_some, Option.some.injEq, integer.injEq]
    omega
  · simp_all

theorem list?_eq_some_iff {values : List α} :
    toml.list? read = some values ↔ ∃ items, toml = .array items ∧
      List.Forall₂ (fun item value ↦ read item = some value) items values := by
  unfold list?
  split
  · simp [Json.mapM_eq_some_iff]
  · simp_all

end

end ContextProvider.Toml
