import ContextProvider.Proofs.Mapping.Units

/-!
# The grammar of mapping texts

A mapping text is well formed when each of its units has one or two parts, none of them empty, and
the first parts differ from one another. These are the texts that are read, under either type word,
and what is read is what the units describe. The type word only chooses the shape of the attributes
that do not choose one: it decides neither which texts are read nor their names and fields. Blanks
at the edge of a part are no part of it, wherever they stand. A refusal may quote a unit with the
blanks inside it; it remains a refusal.
-/

namespace ContextProvider

open Text

namespace Mapping

/-- One or two parts, none of them empty. -/
def IsUnit (parts : List String) : Prop :=
  (parts.length = 1 ∨ parts.length = 2) ∧ ∀ part ∈ parts, part ≠ ""

/-- The texts of the grammar. -/
structure WellFormed (text : String) : Prop where
  formed : ∀ parts ∈ units text, IsUnit parts
  distinct : ((units text).map (·.headD "")).Nodup

/-- The names of a mapping, each with the field that it stands for. -/
def sources (m : Mapping) : List (String × String) :=
  m.specs.map fun spec ↦ (spec.name, spec.field)

/-! ## Which texts are read -/

/-- Well-formed parts describe an attribute, and no others do. -/
theorem isUnit_iff {parts : List String} (type : ValueType) :
    IsUnit parts ↔ ∃ spec, Describes type parts spec := by
  constructor
  · rintro ⟨hone | htwo, hnonempty⟩
    · obtain ⟨name, rfl⟩ := List.length_eq_one_iff.mp hone
      exact ⟨_, .name (hnonempty name (by simp))⟩
    · obtain ⟨name, target, rfl⟩ := List.length_eq_two.mp htwo
      have hname : name ≠ "" := hnonempty name (by simp)
      have htarget : target ≠ "" := hnonempty target (by simp)
      by_cases harray : target = "array"
      · rw [harray]
        exact ⟨_, .array hname⟩
      · exact ⟨_, .field hname htarget harray⟩
  · rintro ⟨spec, hspec⟩
    cases hspec with
    | name hname => exact ⟨.inl rfl, by simpa using hname⟩
    | array hname => exact ⟨.inr rfl, by simpa using hname⟩
    | field hname hfield _ => exact ⟨.inr rfl, by simpa using ⟨hname, hfield⟩⟩

/-- Units describe attributes if and only if each of them is well formed. -/
theorem exists_describes_iff (type : ValueType) {units : List (List String)} :
    (∃ specs, List.Forall₂ (Describes type) units specs) ↔ ∀ parts ∈ units, IsUnit parts := by
  induction units with
  | nil => simp
  | cons parts rest ih =>
    rw [List.forall_mem_cons, ← ih, isUnit_iff type]
    simp only [List.forall₂_cons_left_iff]
    constructor
    · rintro ⟨_, spec, specs, hspec, hspecs, -⟩
      exact ⟨⟨spec, hspec⟩, specs, hspecs⟩
    · rintro ⟨⟨spec, hspec⟩, specs, hspecs⟩
      exact ⟨_, spec, specs, hspec, hspecs, rfl⟩

theorem wellFormed_of_parse {type text : String} {m : Mapping} (h : parse type text = .ok m) :
    WellFormed text := by
  obtain ⟨t, -, hunits⟩ := parse_eq_ok_iff.mp h
  constructor
  · exact (exists_describes_iff t).mp ⟨_, hunits⟩
  · rw [← names_of_describes hunits]
    exact m.distinct

/-- A well-formed text is read under every type word. -/
theorem WellFormed.exists_parse {text : String} (h : WellFormed text) {type : String}
    {t : ValueType} (htype : trim type = t.word) : ∃ m, parse type text = .ok m := by
  obtain ⟨specs, hspecs⟩ := (exists_describes_iff t).mpr h.formed
  let m : Mapping :=
    { specs
      nonempty := ne_nil_of_describes hspecs
      named := named_of_describes hspecs
      distinct := by
        rw [names_of_describes hspecs]
        exact h.distinct }
  exact ⟨m, parse_eq_ok_iff.mpr ⟨t, htype, hspecs⟩⟩

theorem exists_parse_iff {type text : String} : (∃ m, parse type text = .ok m) ↔
    (trim type = "number" ∨ trim type = "list") ∧ WellFormed text := by
  constructor
  · rintro ⟨m, h⟩
    obtain ⟨t, htype, -⟩ := parse_eq_ok_iff.mp h
    refine ⟨?_, wellFormed_of_parse h⟩
    cases t with
    | number => exact .inl htype
    | list => exact .inr htype
  · rintro ⟨hnumber | hlist, htext⟩
    · exact htext.exists_parse (t := .number) hnumber
    · exact htext.exists_parse (t := .list) hlist

/-! ## What does not matter -/

theorem Describes.source_eq {t t' : ValueType} {parts : List String} {spec spec' : AttributeSpec}
    (h : Describes t parts spec) (h' : Describes t' parts spec') :
    (spec.name, spec.field) = (spec'.name, spec'.field) := by
  cases h with
  | name _ => cases h' with
    | name _ => rfl
  | array _ => cases h' with
    | array _ => rfl
    | field _ _ harray => exact absurd rfl harray
  | field _ _ harray => cases h' with
    | array _ => exact absurd rfl harray
    | field _ _ _ => rfl

theorem sources_eq_of_describes {t t' : ValueType} {units : List (List String)}
    {specs specs' : List AttributeSpec} (h : List.Forall₂ (Describes t) units specs)
    (h' : List.Forall₂ (Describes t') units specs') :
    specs.map (fun spec ↦ (spec.name, spec.field)) =
      specs'.map fun spec ↦ (spec.name, spec.field) := by
  induction h generalizing specs' with
  | nil =>
    cases h'
    rfl
  | cons hspec _ ih =>
    cases h' with
    | cons hspec' hrest' => rw [List.map_cons, List.map_cons, hspec.source_eq hspec', ih hrest']

theorem sources_eq_of_parse {type type' text : String} {m m' : Mapping}
    (h : parse type text = .ok m) (h' : parse type' text = .ok m') : m.sources = m'.sources := by
  obtain ⟨t, -, hunits⟩ := parse_eq_ok_iff.mp h
  obtain ⟨t', -, hunits'⟩ := parse_eq_ok_iff.mp h'
  exact sources_eq_of_describes hunits hunits'

theorem toOption_eq_of_ok_iff {ε α : Type*} {x y : Except ε α}
    (h : ∀ a, x = .ok a ↔ y = .ok a) : x.toOption = y.toOption := by
  cases x with
  | ok a => rw [(h a).mp rfl]
  | error e =>
    cases y with
    | ok a => exact absurd ((h a).mpr rfl) (by simp)
    | error e' => rfl

/-- The result depends on the trimmed parts alone. -/
theorem toOption_parse_congr {type text text' : String} (h : units text = units text') :
    (parse type text).toOption = (parse type text').toOption := by
  apply toOption_eq_of_ok_iff
  intro m
  rw [parse_eq_ok_iff, parse_eq_ok_iff, h]

theorem units_insert {before blanks after : String} (hblanks : isBlank blanks)
    (edge : Edge [',', ':'] before.toList after.toList) :
    units (before ++ blanks ++ after) = units (before ++ after) := by
  have hchars := map_map_trimChars_insert (by decide) (by decide)
    (forall_isBlankChar_of_isBlank hblanks) edge
  have htexts := congrArg (List.map (List.map String.ofList)) hchars
  simpa [units, pieces, unitParts, trim, Function.comp_def] using htexts

/-- A text is read exactly when the type word is one of the two and the text is well formed. It is
read as what its units describe, with the same names and fields under both type words, and blanks
around the type word or at the edge of a part do not change the result. -/
theorem parse_follows_grammar (type text : String) :
    ((∃ m, parse type text = .ok m) ↔
      (trim type = "number" ∨ trim type = "list") ∧ WellFormed text) ∧
    (∀ m, parse type text = .ok m ↔ ∃ t : ValueType, trim type = t.word ∧
      List.Forall₂ (Describes t) (units text) m.specs) ∧
    (parse "number" text).toOption.map sources = (parse "list" text).toOption.map sources ∧
    (∀ before after : String, isBlank before → isBlank after →
      parse (before ++ type ++ after) text = parse type text) ∧
    (∀ before blanks after : String, isBlank blanks →
      Edge [',', ':'] before.toList after.toList →
      (parse type (before ++ blanks ++ after)).toOption =
        (parse type (before ++ after)).toOption) := by
  refine ⟨exists_parse_iff, fun m ↦ parse_eq_ok_iff, ?_, ?_, ?_⟩
  · cases hnumber : parse "number" text with
    | ok m =>
      have hformed := wellFormed_of_parse hnumber
      have hword : trim "list" = ValueType.list.word := by decide
      obtain ⟨m', hlist⟩ := hformed.exists_parse hword
      rw [hlist]
      exact congrArg some (sources_eq_of_parse hnumber hlist)
    | error fault =>
      cases hlist : parse "list" text with
      | ok m' =>
        have hformed := wellFormed_of_parse hlist
        have hword : trim "number" = ValueType.number.word := by decide
        obtain ⟨m, hm⟩ := hformed.exists_parse hword
        cases hnumber.symm.trans hm
      | error fault' => rfl
  · intro before after hbefore hafter
    have htype : ValueType.ofWord (before ++ type ++ after) = ValueType.ofWord type := by
      simp only [ValueType.ofWord, trim_blanks_append_append hbefore hafter]
    rw [parse, parse, htype]
  · intro before blanks after hblanks edge
    exact toOption_parse_congr (units_insert hblanks edge)

example : (parse " number " " temperature : temp_c ,  humidity ").toOption.map sources =
    some [("temperature", "temp_c"), ("humidity", "humidity")] := by decide

end Mapping

end ContextProvider
