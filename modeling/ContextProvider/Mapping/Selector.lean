import ContextProvider.Text.Blank

/-!
# Selectors

A selector tells a backend which data a request is about: a search term, a place. A blank one is
no selector; any other is kept exactly as it was given.
-/

namespace ContextProvider

/-- A selector that is not blank, or none. -/
structure Selector where
  value? : Option String
  not_blank : ∀ s ∈ value?, Text.isBlank s = false
  deriving DecidableEq

namespace Selector

/-- No selector. -/
def none : Selector := ⟨Option.none, by simp⟩

/-- The selector of a text. -/
def ofText (s : String) : Selector :=
  if h : Text.isBlank s then none else ⟨some s, by simpa using h⟩

/-- The selector of a text that may be missing. -/
def ofText? : Option String → Selector
  | Option.none => none
  | some s => ofText s

/-- A selector as messages show it; a dash stands for none. -/
def text (selector : Selector) : String :=
  selector.value?.getD "-"

theorem value?_ofText (s : String) :
    (ofText s).value? = if Text.isBlank s = true then Option.none else some s := by
  unfold ofText
  split <;> rfl

/-- Of the texts that may be given, the blank ones are left out. -/
theorem value?_ofText? (given : Option String) :
    (ofText? given).value? = given.filter fun s ↦ !Text.isBlank s := by
  cases given with
  | none => rfl
  | some s =>
    rw [ofText?, value?_ofText, Option.filter_some]
    cases Text.isBlank s <;> rfl

theorem value?_ofText?_eq_some_iff {given : Option String} {text : String} :
    (ofText? given).value? = some text ↔ given = some text ∧ Text.isBlank text = false := by
  simp [value?_ofText?, Option.filter_eq_some_iff]

theorem value?_ofText?_eq_none_iff {given : Option String} :
    (ofText? given).value? = Option.none ↔
      ∀ text, given = some text → Text.isBlank text = true := by
  simp [value?_ofText?, Option.filter_eq_none_iff]

end Selector

end ContextProvider
