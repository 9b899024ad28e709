import ContextProvider.Backend.Search
import ContextProvider.Proofs.Backend.Live

/-!
# Cells of a search

The results of a search and the attributes of a mapping span a table: one row for each result and
one column for each attribute. An attribute has a cell in every row, or the whole request fails for
the first cell that is missing, column by column and from top to bottom. So the columns have the
length of the search, and equal positions in two of them belong to the same result.

Only a row that lacks the field of an attribute can fall back to its text. A field that is there and
holds null or a structure makes its cell missing.
-/

namespace ContextProvider.Search

open Json

/-! ## Cells -/

/-- What may stand in a cell: a string, a number or a truth value. -/
inductive IsCell : Json → Prop
  | string (s : String) : IsCell (.string s)
  | number (n : Numeric) : IsCell (.number n)
  | bool (b : Bool) : IsCell (.bool b)

section

variable (spec : AttributeSpec) (item : Fields)

/-- The value that a result has for an attribute: that of its own field, or the text of a result
without this field if the attribute is not aliased. -/
inductive Selects : Json → Prop
  | own {value : Json} (held : item.get? spec.field = some value) : Selects value
  | text {value : Json} (lacking : item.get? spec.field = none) (plain : spec.field = spec.name)
      (held : item.get? "text" = some value) : Selects value

/-- The cell of an attribute and a result. -/
def HasCell (value : Json) : Prop :=
  Selects spec item value ∧ IsCell value

/-- Why an attribute has no cell for a result. -/
inductive LacksCell : String → Prop
  | missing (lacking : item.get? spec.field = none) (aliased : spec.field ≠ spec.name) :
      LacksCell ("search item has no '" ++ spec.field ++ "' field")
  | textless (lacking : item.get? spec.field = none) (plain : spec.field = spec.name)
      (textless : item.get? "text" = none) : LacksCell "search item has no 'text' field"
  | structured {value : Json} (selected : Selects spec item value) (structured : ¬ IsCell value) :
      LacksCell ("search item field '" ++ spec.field ++ "' is not a scalar")

/-- The reason for the topmost gap in the column of an attribute. -/
def FirstGap (items : List Fields) (reason : String) : Prop :=
  ∃ above item below, items = above ++ item :: below ∧
    (∀ other ∈ above, ∃ value, HasCell spec other value) ∧ LacksCell spec item reason

end

variable {spec : AttributeSpec} {item : Fields}

theorem isItem_iff_isCell {value : Json} : isItem value ↔ IsCell value := by
  cases value with
  | string s => exact iff_of_true rfl (.string s)
  | number n => exact iff_of_true rfl (.number n)
  | bool b => exact iff_of_true rfl (.bool b)
  | null | array | object => exact iff_of_false nofun nofun

theorem isAliased_eq_false_iff : spec.isAliased = false ↔ spec.field = spec.name := by
  simp [AttributeSpec.isAliased]

theorem isAliased_eq_true_iff : spec.isAliased = true ↔ spec.field ≠ spec.name := by
  simp [AttributeSpec.isAliased]

theorem selectedField_of_selects {value : Json} (h : Selects spec item value) :
    selectedField spec item = .ok value := by
  cases h with
  | own held => simp only [selectedField, held]
  | text lacking plain held =>
    simp only [selectedField, textField, lacking, isAliased_eq_false_iff.mpr plain,
      Bool.false_eq_true, if_false, held]

theorem extract_of_hasCell {value : Json} (h : HasCell spec item value) :
    extract spec item = .ok value := by
  simp only [extract, selectedField_of_selects h.1, if_pos (isItem_iff_isCell.mpr h.2)]

theorem extract_of_lacksCell {reason : String} (h : LacksCell spec item reason) :
    extract spec item = .error (.malformed reason) := by
  cases h with
  | missing lacking aliased =>
    simp only [extract, selectedField, lacking, isAliased_eq_true_iff.mpr aliased, if_true]
  | textless lacking plain textless =>
    simp only [extract, selectedField, textField, lacking, isAliased_eq_false_iff.mpr plain,
      Bool.false_eq_true, if_false, textless]
    rfl
  | structured selected structured =>
    simp only [extract, selectedField_of_selects selected,
      if_neg (mt isItem_iff_isCell.mp structured)]

/-- Every result either has a cell for an attribute or lacks it. -/
theorem hasCell_or_lacksCell (spec : AttributeSpec) (item : Fields) :
    (∃ value, HasCell spec item value) ∨ ∃ reason, LacksCell spec item reason := by
  have hselected {value : Json} (h : Selects spec item value) :
      (∃ value, HasCell spec item value) ∨ ∃ reason, LacksCell spec item reason := by
    by_cases hcell : IsCell value
    · exact .inl ⟨value, h, hcell⟩
    · exact .inr ⟨_, .structured h hcell⟩
  cases hown : item.get? spec.field with
  | some value => exact hselected (.own hown)
  | none =>
    by_cases hplain : spec.field = spec.name
    · cases htext : item.get? "text" with
      | some value => exact hselected (.text hown hplain htext)
      | none => exact .inr ⟨_, .textless hown hplain htext⟩
    · exact .inr ⟨_, .missing hown hplain⟩

theorem extract_eq_ok_iff {value : Json} :
    extract spec item = .ok value ↔ HasCell spec item value := by
  refine ⟨fun h ↦ ?_, extract_of_hasCell⟩
  rcases hasCell_or_lacksCell spec item with ⟨other, hother⟩ | ⟨reason, hreason⟩
  · cases h.symm.trans (extract_of_hasCell hother)
    exact hother
  · cases h.symm.trans (extract_of_lacksCell hreason)

theorem extract_eq_error_iff {error : FetchError} : extract spec item = .error error ↔
    ∃ reason, LacksCell spec item reason ∧ error = .malformed reason := by
  constructor
  · intro h
    rcases hasCell_or_lacksCell spec item with ⟨value, hvalue⟩ | ⟨reason, hreason⟩
    · cases h.symm.trans (extract_of_hasCell hvalue)
    · cases h.symm.trans (extract_of_lacksCell hreason)
      exact ⟨reason, hreason, rfl⟩
  · rintro ⟨reason, hreason, rfl⟩
    exact extract_of_lacksCell hreason

/-- A field that is there does not give way to the text. -/
theorem not_hasCell_of_own {value : Json} (hown : item.get? spec.field = some value)
    (hstructured : ¬ IsCell value) (other : Json) : ¬ HasCell spec item other := by
  rintro ⟨hselects, hcell⟩
  cases hselects with
  | own held =>
    cases hown.symm.trans held
    exact hstructured hcell
  | text lacking => cases hown.symm.trans lacking

/-! ## Columns -/

variable {items : List Fields}

theorem column_eq_ok_iff {value : AttributeValue} : column spec items = .ok value ↔
    ∃ cells, value = .list cells ∧ List.Forall₂ (HasCell spec) items cells := by
  simp only [column, map_eq_ok_iff, mapM_eq_ok_iff, extract_eq_ok_iff]
  exact exists_congr fun cells ↦ ⟨fun h ↦ ⟨h.2.symm, h.1⟩, fun h ↦ ⟨h.2, h.1.symm⟩⟩

theorem exists_column_eq_ok_iff : (∃ value, column spec items = .ok value) ↔
    ∀ item ∈ items, ∃ value, HasCell spec item value := by
  simp only [column, exists_map_eq_ok_iff, exists_mapM_eq_ok_iff, extract_eq_ok_iff]

theorem column_eq_error_iff {error : FetchError} : column spec items = .error error ↔
    ∃ reason, FirstGap spec items reason ∧ error = .malformed reason := by
  simp only [column, map_eq_error_iff, mapM_eq_error_iff, extract_eq_ok_iff, extract_eq_error_iff]
  constructor
  · rintro ⟨above, item, below, hitems, habove, reason, hlacks, herror⟩
    exact ⟨reason, ⟨above, item, below, hitems, habove, hlacks⟩, herror⟩
  · rintro ⟨reason, ⟨above, item, below, hitems, habove, hlacks⟩, herror⟩
    exact ⟨above, item, below, hitems, habove, reason, hlacks, herror⟩

/-- A search that answers in time gives every attribute its column of cells, if each attribute has a
cell for each result. Otherwise the data source counts as unavailable, because of the first missing
cell: in the first column with a gap, the topmost one. -/
theorem cells_or_first_gap {source : String → Arrival (List Fields)} {limit : Nat} {m : Mapping}
    {selector : Selector} {term : String} (hlist : ∀ spec ∈ m.specs, spec.shape = .list)
    (hterm : selector.value? = some term) (hitems : (source term).within limit = .ok items) :
    ((∃ values, ((backend source limit).fetch m selector).result = .ok values) ↔
      ∀ spec ∈ m.specs, ∀ item ∈ items, ∃ value, HasCell spec item value) ∧
    (∀ values, ((backend source limit).fetch m selector).result = .ok values ↔
      List.Forall₂ (fun spec raw ↦ raw.field = spec.field ∧
        ∃ cells, raw.value = .list cells ∧ List.Forall₂ (HasCell spec) items cells)
        m.specs values) ∧
    (∀ error, ((backend source limit).fetch m selector).result = .error error ↔
      ∃ before spec after, m.specs = before ++ spec :: after ∧
        (∀ other ∈ before, ∀ item ∈ items, ∃ value, HasCell other item value) ∧
        ∃ reason, FirstGap spec items reason ∧
          error = .unavailable .twitter (.malformed reason)) ∧
    ∀ spec ∈ m.specs, ∀ item ∈ items, ∀ value, item.get? spec.field = some value →
      ¬ IsCell value →
      ∃ error, ((backend source limit).fetch m selector).result = .error error := by
  have hvalues : (∃ values, ((backend source limit).fetch m selector).result = .ok values) ↔
      ∀ spec ∈ m.specs, ∀ item ∈ items, ∃ value, HasCell spec item value := by
    rw [backend, Live.exists_result_eq_ok_iff hlist hterm hitems]
    simp only [exists_column_eq_ok_iff]
  refine ⟨hvalues, fun values ↦ ?_, fun error ↦ ?_, ?_⟩
  · rw [backend, Live.result_eq_ok_iff hlist hterm hitems]
    simp only [column_eq_ok_iff, and_comm]
  · rw [backend, Live.result_eq_error_iff hlist hterm hitems]
    have hgap (spec : AttributeSpec) :
        (∃ cause, column spec items = .error cause ∧ error = .unavailable .twitter cause) ↔
          ∃ reason, FirstGap spec items reason ∧
            error = .unavailable .twitter (.malformed reason) := by
      simp only [column_eq_error_iff]
      constructor
      · rintro ⟨_, ⟨reason, hreason, rfl⟩, herror⟩
        exact ⟨reason, hreason, herror⟩
      · rintro ⟨reason, hreason, herror⟩
        exact ⟨_, ⟨reason, hreason, rfl⟩, herror⟩
    simp only [exists_column_eq_ok_iff, hgap]
  · intro spec hspec item hitem value hown hstructured
    cases hresult : ((backend source limit).fetch m selector).result with
    | error error => exact ⟨error, rfl⟩
    | ok values =>
      obtain ⟨other, hother⟩ := hvalues.mp ⟨values, hresult⟩ spec hspec item hitem
      exact absurd hother (not_hasCell_of_own hown hstructured other)

/-- A list of texts and a list of an aliased field. -/
def sampleMapping : Mapping where
  specs := [⟨"tweets", "tweets", .list⟩, ⟨"user", "name", .list⟩]
  nonempty := by decide
  named := by decide
  distinct := by decide

/-- Two results, the second of which has a field of its own beside its text. -/
def sampleRows : List Fields := [
  [("name", .string "ada"), ("text", .string "first")],
  [("name", .bool true), ("text", .ofNat 2), ("tweets", .string "own")]]

/-- A result without a name that holds null in place of its text. -/
def nullRow : Fields := [("text", .string "third"), ("tweets", .null)]

/-- The gap in the first column counts, although the second column has one too. -/
theorem sampleRows_cells :
    (∀ spec ∈ sampleMapping.specs, spec.shape = .list) ∧
    ((backend (fun _ ↦ .now (.ok sampleRows)) 0).fetch sampleMapping (.ofText "q")).result =
      .ok [⟨"tweets", .list [.string "first", .string "own"]⟩,
        ⟨"name", .list [.string "ada", .bool true]⟩] ∧
    ((backend (fun _ ↦ .now (.ok (nullRow :: sampleRows))) 0).fetch sampleMapping
        (.ofText "q")).result =
      .error (.unavailable .twitter (.malformed "search item field 'tweets' is not a scalar")) := by
  have hlist : ∀ spec ∈ sampleMapping.specs, spec.shape = .list := by decide
  have hterm : (Selector.ofText "q").value? = some "q" := rfl
  refine ⟨hlist, ?_, ?_⟩
  · apply ((cells_or_first_gap hlist hterm rfl).2.1 _).mpr
    refine .cons ⟨rfl, _, rfl, ?_⟩ (.cons ⟨rfl, _, rfl, ?_⟩ .nil)
    · exact .cons ⟨.text rfl rfl rfl, .string _⟩ (.cons ⟨.own rfl, .string _⟩ .nil)
    · exact .cons ⟨.own rfl, .string _⟩ (.cons ⟨.own rfl, .bool _⟩ .nil)
  · apply ((cells_or_first_gap hlist hterm rfl).2.2.1 _).mpr
    have hgap : LacksCell ⟨"tweets", "tweets", .list⟩ nullRow
        "search item field 'tweets' is not a scalar" := .structured (.own rfl) nofun
    exact ⟨[], _, _, rfl, List.forall_mem_nil _, _, ⟨[], nullRow, sampleRows, rfl,
      List.forall_mem_nil _, hgap⟩, rfl⟩

end ContextProvider.Search
