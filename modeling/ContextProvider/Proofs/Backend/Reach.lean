import ContextProvider.Proofs.Backend.Static
import ContextProvider.Proofs.Mapping.WrittenForm

/-!
# Which fixtures can be asked for

A table accepts fields that no mapping text can name. The fields of a mapping that was read are
words, trimmed and free of the separators, so a fixture is within reach exactly if its field is a
word. A fixture out of reach is as good as absent: without it, every mapping text gets the same
answer for every selector.

A word is reached by the mapping of the single attribute of that name, under the type of the
fixture's shape. It does not matter that the word may be `array`: in the place of a name that is a
name like any other.
-/

namespace ContextProvider

open Text

namespace FixtureTable

/-- Among the values that a mapping text and a selector are answered with is that of a definition,
read from its field for its selector. -/
def Yields (table : FixtureTable) (definition : FixtureDef) (type text : String)
    (selector : Option String) : Prop :=
  ∃ (m : Mapping) (values : List RawValue) (raw : RawValue), Mapping.parse type text = .ok m ∧
    (table.backend.fetch m (.ofText? selector)).result = .ok values ∧ raw ∈ values ∧
    definition.key = (raw.field, (Selector.ofText? selector).value?) ∧
    raw.value = definition.held

/-! ## Words are reached -/

/-- The attribute that asks for a definition by the name of its field. -/
def specFor (definition : FixtureDef) : AttributeSpec :=
  ⟨definition.field, definition.field, definition.held.shape⟩

/-- The mapping of that attribute alone. -/
def mappingFor {definition : FixtureDef} (named : definition.field ≠ "") : Mapping where
  specs := [specFor definition]
  nonempty := List.cons_ne_nil _ _
  named := List.forall_mem_singleton.mpr ⟨named, named⟩
  distinct := List.nodup_singleton _

variable {definitions : List FixtureDef} {table : FixtureTable} {definition : FixtureDef}

theorem field_ne_of_valid (h : definition.Valid) : definition.field ≠ "" := by
  intro hempty
  have hnamed := h.named
  rw [hempty] at hnamed
  cases hnamed

/-- A word can be written as a name, under the type of either shape. -/
theorem expressible_mappingFor (hword : IsWord definition.field) (named : definition.field ≠ "") :
    ∃ type, (mappingFor named).Expressible type := by
  cases hshape : definition.held.shape with
  | scalar =>
    refine ⟨"number", .number, by decide, List.forall_mem_singleton.mpr ?_⟩
    exact ⟨hword, hword, fun haliased ↦ absurd rfl haliased, fun _ _ ↦ rfl⟩
  | list =>
    refine ⟨"list", .list, by decide, List.forall_mem_singleton.mpr ?_⟩
    refine ⟨hword, hword, fun haliased ↦ absurd rfl haliased, fun _ hscalar ↦ ?_⟩
    cases hshape.symm.trans hscalar

theorem fetch_mappingFor (h : ofDefs definitions = .ok table) (hmem : definition ∈ definitions)
    (named : definition.field ≠ "") :
    (table.backend.fetch (mappingFor named) (.ofText? definition.selector)).result =
      .ok [⟨definition.field, definition.held⟩] := by
  have hanswers : Answers definitions (.ofText? definition.selector) (specFor definition)
      definition.held := ⟨⟨definition, hmem, definition.key_eq, rfl⟩, rfl⟩
  have hlookup := (lookup_eq_ok_iff_answers h).mpr hanswers
  rw [fetch_result, mapM_eq_ok_iff]
  exact .cons (map_lookup_eq_ok_iff.mpr ⟨rfl, hlookup⟩) .nil

theorem exists_yields_of_isWord (h : ofDefs definitions = .ok table)
    (hmem : definition ∈ definitions) (hword : IsWord definition.field) :
    ∃ type text selector, Yields table definition type text selector := by
  have named := field_ne_of_valid ((ofDefs_eq_ok_iff.mp h).1.valid definition hmem)
  obtain ⟨type, hexpressible⟩ := expressible_mappingFor hword named
  have hparsed := Mapping.parse_text_of_expressible hexpressible
  exact ⟨type, (mappingFor named).text, definition.selector, _, _, _, hparsed,
    fetch_mappingFor h hmem named, List.mem_singleton_self _, definition.key_eq, rfl⟩

/-! ## Other fields are out of reach -/

/-- The fields of a mapping that was read are words. -/
theorem isWord_field_of_parse {type text : String} {m : Mapping}
    (h : Mapping.parse type text = .ok m) {spec : AttributeSpec} (hspec : spec ∈ m.specs) :
    IsWord spec.field := by
  obtain ⟨t, -, hexpressible⟩ := Mapping.expressible_of_parse h
  exact (hexpressible spec hspec).field

theorem Yields.isWord {type text : String} {selector : Option String}
    (h : Yields table definition type text selector) : IsWord definition.field := by
  obtain ⟨m, values, raw, hparsed, hvalues, hraw, hkey, -⟩ := h
  obtain ⟨spec, hspec, hfield, -⟩ := exists_mem_of_forall₂ (answeredBy hvalues).flip hraw
  have hsame : definition.field = raw.field := congrArg Prod.fst hkey
  rw [hsame, hfield]
  exact isWord_field_of_parse hparsed hspec

section

variable {before after : List FixtureDef}

/-- Fewer definitions are acceptable too. -/
theorem acceptable_without (h : Acceptable (before ++ definition :: after)) :
    Acceptable (before ++ after) := by
  have hsub : (before ++ after).Sublist (before ++ definition :: after) :=
    (List.Sublist.refl before).append (List.sublist_cons_self definition after)
  exact ⟨fun other hother ↦ h.valid other (hsub.subset hother),
    h.distinct.sublist (hsub.map FixtureDef.key)⟩

/-- Without a definition, the look-ups of other fields find what they found. -/
theorem get?_without (h : ofDefs (before ++ definition :: after) = .ok table)
    {rest : FixtureTable} (hrest : ofDefs (before ++ after) = .ok rest) {field : String}
    (hfield : definition.field ≠ field) (selector : Selector) :
    rest.get? field selector = table.get? field selector := by
  apply Option.ext
  intro value
  rw [get?_eq_some_iff hrest, get?_eq_some_iff h]
  simp only [List.mem_append, List.mem_cons]
  constructor
  · rintro ⟨other, hother, hkey, rfl⟩
    exact ⟨other, hother.imp_right .inr, hkey, rfl⟩
  · rintro ⟨other, hbefore | rfl | hafter, hkey, rfl⟩
    · exact ⟨other, .inl hbefore, hkey, rfl⟩
    · exact absurd (congrArg Prod.fst hkey) hfield
    · exact ⟨other, .inr hafter, hkey, rfl⟩

theorem fetch_without (h : ofDefs (before ++ definition :: after) = .ok table)
    {rest : FixtureTable} (hrest : ofDefs (before ++ after) = .ok rest) {m : Mapping}
    (hfields : ∀ spec ∈ m.specs, definition.field ≠ spec.field) (selector : Selector) :
    (rest.backend.fetch m selector).result = (table.backend.fetch m selector).result := by
  rw [fetch_result, fetch_result]
  apply mapM_congr_of_mem
  intro spec hspec
  rw [lookup, lookup, get?_without h hrest (hfields spec hspec)]

/-- A definition of an accepted table can be asked for exactly if its field is a word. If it is
not, the table answers every mapping text as it would without the definition. -/
theorem reached_iff_isWord (h : ofDefs (before ++ definition :: after) = .ok table) :
    ((∃ type text selector, Yields table definition type text selector) ↔
      IsWord definition.field) ∧
    (¬ IsWord definition.field → ∃ rest, ofDefs (before ++ after) = .ok rest ∧
      ∀ type text m selector, Mapping.parse type text = .ok m →
        (table.backend.fetch m selector).result = (rest.backend.fetch m selector).result) := by
  refine ⟨⟨?_, exists_yields_of_isWord h (by simp)⟩, fun hother ↦ ?_⟩
  · rintro ⟨type, text, selector, hyields⟩
    exact hyields.isWord
  · have hrest := ofDefs_of_acceptable (acceptable_without (ofDefs_eq_ok_iff.mp h).1)
    refine ⟨_, hrest, fun type text m selector hparsed ↦ ?_⟩
    have hfields : ∀ spec ∈ m.specs, definition.field ≠ spec.field := by
      intro spec hspec hsame
      apply hother
      rw [hsame]
      exact isWord_field_of_parse hparsed hspec
    exact (fetch_without h hrest hfields selector).symm

end

/-- The samples, and a field that is named like the alias for lists. -/
def reachDefs : List FixtureDef := sampleDefs ++ [⟨"array", none, .ofNat 5⟩]

/-- A field named like the alias is reached, and one that is written with a blank is not. -/
theorem reachDefs_reached : ∃ table, ofDefs reachDefs = .ok table ∧
    (∃ type text selector, Yields table ⟨"array", none, .ofNat 5⟩ type text selector) ∧
    ¬ ∃ type text selector,
      Yields table ⟨" tweets", none, .array [.string "sun", .ofNat 2]⟩ type text selector := by
  have haccepted : ofDefs (sampleDefs ++ [⟨"array", none, .ofNat 5⟩]) =
      .ok (holding reachDefs) := rfl
  have hspaced : ofDefs (sampleDefs.take 2 ++ ⟨" tweets", none,
      .array [.string "sun", .ofNat 2]⟩ :: [⟨"array", none, .ofNat 5⟩]) =
      .ok (holding reachDefs) := rfl
  refine ⟨_, haccepted, (reached_iff_isWord haccepted).1.mpr ⟨?_, ?_, ?_⟩, fun hyields ↦ ?_⟩
  · decide
  · decide
  · decide
  · have hword := (reached_iff_isWord hspaced).1.mp hyields
    exact absurd hword.trimmed (by decide)

end FixtureTable

end ContextProvider
