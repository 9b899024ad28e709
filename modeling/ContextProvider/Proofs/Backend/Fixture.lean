import ContextProvider.Backend.Fixture
import Mathlib.Data.List.Induction
import Mathlib.Data.List.Nodup

/-!
# Accepted fixtures

A list of definitions is accepted exactly if every definition is valid on its own and no two of
them are for the same field and selector. The table then holds each value as it is defined, and no
look-up depends on the order of the definitions. A list that is not accepted is refused for its
first definition that is invalid or repeats an earlier one.

The keys of a table are those of the definitions with blank selectors left out. Both sides of a
look-up go through the same rule, which is why a blank selector finds what was defined without one.
-/

namespace ContextProvider

open Text

/-! ## Values -/

/-- The values that a fixture may have. -/
inductive Json.IsFixtureValue : Json → Prop
  | number (n : Json.Numeric) : IsFixtureValue (.number n)
  | array {items : List Json}
      (flat : ∀ item ∈ items, (∃ n, item = .number n) ∨ ∃ s, item = .string s) :
      IsFixtureValue (.array items)

theorem Json.isNumber_iff {value : Json} : value.isNumber ↔ ∃ n, value = .number n := by
  cases value <;> simp [isNumber]

theorem Json.isString_iff {value : Json} : value.isString ↔ ∃ s, value = .string s := by
  cases value <;> simp [isString]

/-- A value that is accepted stays as it is. -/
theorem fixtureValue?_eq_some_iff {defined : Json} {value : AttributeValue} :
    fixtureValue? defined = some value ↔ defined.IsFixtureValue ∧ value = .ofJson defined := by
  cases defined with
  | number n =>
    rw [fixtureValue?, Option.some_inj, eq_comm]
    exact (and_iff_right (.number n)).symm
  | array items =>
    have hflat : (items.all fun item ↦ item.isNumber || item.isString) = true ↔
        (Json.array items).IsFixtureValue := by
      simp only [List.all_eq_true, Bool.or_eq_true, Json.isNumber_iff, Json.isString_iff]
      exact ⟨.array, fun | .array flat => flat⟩
    rw [fixtureValue?, ← hflat]
    split
    · rename_i hitems
      rw [Option.some_inj, eq_comm]
      exact (and_iff_right hitems).symm
    · rename_i hitems
      exact iff_of_false nofun fun h ↦ hitems h.1
  | null | bool | string | object =>
    refine iff_of_false nofun ?_
    rintro ⟨hvalue, -⟩
    cases hvalue

namespace FixtureDef

/-! ## Definitions -/

/-- What a definition is found by: its field, and its selector unless that is blank. -/
def key (definition : FixtureDef) : FixtureKey :=
  (definition.field, definition.selector.filter fun s ↦ !isBlank s)

/-- The attribute value that is defined. -/
def held (definition : FixtureDef) : AttributeValue := .ofJson definition.value

/-- The definition is for the field and for the selector of the text: the same text, or a blank
one or none if the text is blank. -/
def Serves (definition : FixtureDef) (field s : String) : Prop :=
  definition.field = field ∧
    (definition.selector = some s ∨ isBlank s ∧ ∀ t ∈ definition.selector, isBlank t)

instance (definition : FixtureDef) (field s : String) : Decidable (definition.Serves field s) :=
  inferInstanceAs (Decidable (_ ∧ _))

/-- A definition that is accepted on its own. -/
structure Valid (definition : FixtureDef) : Prop where
  named : isBlank definition.field = false
  fits : definition.value.IsFixtureValue

/-- Why a definition is refused behind others that were accepted. -/
inductive Refused (before : List FixtureDef) (definition : FixtureDef) : FixtureError → Prop
  | unnamed (blank : isBlank definition.field) : Refused before definition .emptyField
  | unfit (named : isBlank definition.field = false) (unfit : ¬ definition.value.IsFixtureValue) :
      Refused before definition (.invalidValue definition.field definition.value)
  | repeated (valid : definition.Valid) (known : definition.key ∈ before.map key) :
      Refused before definition (.duplicate definition.key.1 definition.key.2)

theorem key_eq (definition : FixtureDef) :
    definition.key = (definition.field, definition.effectiveSelector.value?) := by
  rw [key, effectiveSelector, Selector.value?_ofText?]

/-- A text finds exactly the definitions that serve it. -/
theorem key_eq_iff_serves {definition : FixtureDef} {field s : String} :
    definition.key = (field, (Selector.ofText s).value?) ↔ definition.Serves field s := by
  rw [key, Prod.mk.injEq, Serves, Selector.value?_ofText]
  apply and_congr_right
  intro _
  cases definition.selector with
  | none => cases isBlank s <;> simp
  | some t =>
    by_cases hsame : t = s
    · cases hblank : isBlank s <;> simp [hsame, hblank]
    · cases hblank : isBlank s <;> simp [hsame, hblank]

end FixtureDef

namespace FixtureTable

/-! ## Accepted definitions -/

/-- Valid definitions, no two of them for the same field and selector. -/
structure Acceptable (definitions : List FixtureDef) : Prop where
  valid : ∀ definition ∈ definitions, definition.Valid
  distinct : (definitions.map FixtureDef.key).Nodup

theorem acceptable_concat_iff {before : List FixtureDef} {definition : FixtureDef} :
    Acceptable (before ++ [definition]) ↔
      Acceptable before ∧ definition.Valid ∧ definition.key ∉ before.map FixtureDef.key := by
  have hvalid : (∀ other ∈ before ++ [definition], other.Valid) ↔
      (∀ other ∈ before, other.Valid) ∧ definition.Valid := by
    rw [List.forall_mem_append, List.forall_mem_singleton]
  have hdistinct : ((before ++ [definition]).map FixtureDef.key).Nodup ↔
      (before.map FixtureDef.key).Nodup ∧ definition.key ∉ before.map FixtureDef.key := by
    rw [List.map_append, List.map_singleton, List.nodup_append_comm, List.singleton_append,
      List.nodup_cons, and_comm]
  constructor
  · rintro ⟨valid, distinct⟩
    exact ⟨⟨(hvalid.mp valid).1, (hdistinct.mp distinct).1⟩, (hvalid.mp valid).2,
      (hdistinct.mp distinct).2⟩
  · rintro ⟨⟨valid, distinct⟩, last, fresh⟩
    exact ⟨hvalid.mpr ⟨valid, last⟩, hdistinct.mpr ⟨distinct, fresh⟩⟩

theorem Acceptable.perm {definitions permuted : List FixtureDef} (h : Acceptable definitions)
    (hperm : permuted.Perm definitions) : Acceptable permuted where
  valid definition hmem := h.valid definition (hperm.subset hmem)
  distinct := (hperm.map FixtureDef.key).nodup_iff.mpr h.distinct

/-! ## The table of definitions -/

/-- The table that holds the definitions as they are. -/
def holding (definitions : List FixtureDef) : FixtureTable :=
  ⟨definitions.map fun definition ↦ (definition.key, definition.held)⟩

theorem find?_holding (definitions : List FixtureDef) (key : FixtureKey) :
    (holding definitions).find? key =
      (definitions.find? fun definition ↦ definition.key == key).map FixtureDef.held := by
  rw [find?, holding, List.find?_map, Option.map_map]
  rfl

theorem isSome_find?_holding {definitions : List FixtureDef} {key : FixtureKey} :
    ((holding definitions).find? key).isSome ↔ key ∈ definitions.map FixtureDef.key := by
  simp [find?_holding]

/-- With distinct keys there is one definition under a key, or none. -/
theorem toList_find?_holding {definitions : List FixtureDef}
    (distinct : (definitions.map FixtureDef.key).Nodup) (key : FixtureKey) :
    ((holding definitions).find? key).toList =
      (definitions.filter fun definition ↦ definition.key = key).map FixtureDef.held := by
  rw [find?_holding]
  induction definitions with
  | nil => rfl
  | cons definition rest ih =>
    rw [List.map_cons, List.nodup_cons] at distinct
    by_cases hkey : definition.key = key
    · have hrest : (rest.filter fun other ↦ other.key = key) = [] := by
        rw [List.filter_eq_nil_iff]
        intro other hother hsame
        apply distinct.1
        rw [hkey, ← of_decide_eq_true hsame]
        exact List.mem_map_of_mem hother
      simp [hkey, hrest]
    · simpa [hkey] using ih distinct.2

section

variable {before : List FixtureDef} {definition : FixtureDef}

theorem refused_or_fresh (before : List FixtureDef) (definition : FixtureDef) :
    (∃ error, definition.Refused before error) ∨
      definition.Valid ∧ definition.key ∉ before.map FixtureDef.key := by
  by_cases named : isBlank definition.field = false
  · by_cases fits : definition.value.IsFixtureValue
    · by_cases known : definition.key ∈ before.map FixtureDef.key
      · exact .inl ⟨_, .repeated ⟨named, fits⟩ known⟩
      · exact .inr ⟨⟨named, fits⟩, known⟩
    · exact .inl ⟨_, .unfit named fits⟩
  · exact .inl ⟨_, .unnamed (Bool.not_eq_false _ ▸ named)⟩

theorem add_of_valid (table : FixtureTable) (h : definition.Valid) : table.add definition =
    if (table.find? definition.key).isSome then
      .error (.duplicate definition.key.1 definition.key.2)
    else .ok ⟨table.entries ++ [(definition.key, definition.held)]⟩ := by
  have hvalue := fixtureValue?_eq_some_iff.mpr ⟨h.fits, rfl⟩
  simp only [add, h.named, Bool.false_eq_true, if_false, hvalue, definition.key_eq]
  rfl

theorem add_of_refused {error : FixtureError} (h : definition.Refused before error) :
    (holding before).add definition = .error error := by
  cases h with
  | unnamed blank => rw [add, if_pos blank]
  | unfit named unfit =>
    have hnone : fixtureValue? definition.value = none := by
      rw [Option.eq_none_iff_forall_ne_some]
      intro value hvalue
      exact unfit (fixtureValue?_eq_some_iff.mp hvalue).1
    simp only [add, named, Bool.false_eq_true, if_false, hnone]
  | repeated valid known => rw [add_of_valid _ valid, if_pos (isSome_find?_holding.mpr known)]

theorem add_of_fresh (valid : definition.Valid)
    (fresh : definition.key ∉ before.map FixtureDef.key) :
    (holding before).add definition = .ok (holding (before ++ [definition])) := by
  rw [add_of_valid _ valid, if_neg (mt isSome_find?_holding.mp fresh), holding, holding,
    List.map_append, List.map_singleton]

end

/-! ## Reading the definitions in order -/

theorem ofDefs_append (before after : List FixtureDef) :
    ofDefs (before ++ after) = (ofDefs before).bind fun table ↦ after.foldlM add table :=
  List.foldlM_append

/-- The table of acceptable definitions holds them as they are. -/
theorem ofDefs_of_acceptable {definitions : List FixtureDef} (h : Acceptable definitions) :
    ofDefs definitions = .ok (holding definitions) := by
  induction definitions using List.reverseRecOn with
  | nil => rfl
  | append_singleton before definition ih =>
    obtain ⟨hbefore, valid, fresh⟩ := acceptable_concat_iff.mp h
    calc ofDefs (before ++ [definition])
      _ = [definition].foldlM add (holding before) := by
        rw [ofDefs_append, ih hbefore]
        rfl
      _ = .ok (holding (before ++ [definition])) := by
        rw [List.foldlM_cons, add_of_fresh valid fresh]
        rfl

/-- The error of a refused definition ends the reading, whatever comes behind it. -/
theorem ofDefs_of_refused {before after : List FixtureDef} {definition : FixtureDef}
    {error : FixtureError} (hbefore : Acceptable before)
    (hrefused : definition.Refused before error) :
    ofDefs (before ++ definition :: after) = .error error := by
  calc ofDefs (before ++ definition :: after)
    _ = (definition :: after).foldlM add (holding before) := by
      rw [ofDefs_append, ofDefs_of_acceptable hbefore]
      rfl
    _ = .error error := by
      rw [List.foldlM_cons, add_of_refused hrefused]
      rfl

/-- Either all definitions are acceptable, or there is a first one that is refused. -/
theorem acceptable_or_refused (definitions : List FixtureDef) :
    Acceptable definitions ∨ ∃ before definition after error,
      definitions = before ++ definition :: after ∧ Acceptable before ∧
        definition.Refused before error := by
  induction definitions using List.reverseRecOn with
  | nil => exact .inl ⟨List.forall_mem_nil _, List.nodup_nil⟩
  | append_singleton front last ih =>
    rcases ih with hfront | ⟨before, definition, after, error, rfl, hbefore, hrefused⟩
    · rcases refused_or_fresh front last with ⟨error, hrefused⟩ | hfresh
      · exact .inr ⟨front, last, [], error, rfl, hfront, hrefused⟩
      · exact .inl (acceptable_concat_iff.mpr ⟨hfront, hfresh⟩)
    · exact .inr ⟨before, definition, after ++ [last], error, by simp, hbefore, hrefused⟩

theorem ofDefs_eq_ok_iff {definitions : List FixtureDef} {table : FixtureTable} :
    ofDefs definitions = .ok table ↔ Acceptable definitions ∧ table = holding definitions := by
  constructor
  · intro h
    rcases acceptable_or_refused definitions with haccepted |
        ⟨before, definition, after, error, rfl, hbefore, hrefused⟩
    · exact ⟨haccepted, Except.ok.inj (h.symm.trans (ofDefs_of_acceptable haccepted))⟩
    · cases h.symm.trans (ofDefs_of_refused hbefore hrefused)
  · rintro ⟨haccepted, rfl⟩
    exact ofDefs_of_acceptable haccepted

theorem ofDefs_eq_error_iff {definitions : List FixtureDef} {error : FixtureError} :
    ofDefs definitions = .error error ↔ ∃ before definition after,
      definitions = before ++ definition :: after ∧ Acceptable before ∧
        definition.Refused before error := by
  constructor
  · intro h
    rcases acceptable_or_refused definitions with haccepted |
        ⟨before, definition, after, fault, rfl, hbefore, hrefused⟩
    · cases h.symm.trans (ofDefs_of_acceptable haccepted)
    · cases h.symm.trans (ofDefs_of_refused hbefore hrefused)
      exact ⟨before, definition, after, rfl, hbefore, hrefused⟩
  · rintro ⟨before, definition, after, rfl, hbefore, hrefused⟩
    exact ofDefs_of_refused hbefore hrefused

/-! ## Look-ups -/

section

variable {definitions : List FixtureDef} {table : FixtureTable}

theorem size_of_ofDefs (h : ofDefs definitions = .ok table) : table.size = definitions.length := by
  obtain ⟨-, rfl⟩ := ofDefs_eq_ok_iff.mp h
  exact List.length_map _

/-- A look-up finds what is held by the one definition with the field and the selector. -/
theorem toList_get?_of_ofDefs (h : ofDefs definitions = .ok table) (field : String)
    (selector : Selector) : (table.get? field selector).toList =
      (definitions.filter fun definition ↦ definition.key = (field, selector.value?)).map
        FixtureDef.held := by
  obtain ⟨haccepted, rfl⟩ := ofDefs_eq_ok_iff.mp h
  exact toList_find?_holding haccepted.distinct _

theorem get?_eq_some_iff (h : ofDefs definitions = .ok table) {field : String}
    {selector : Selector} {value : AttributeValue} : table.get? field selector = some value ↔
      ∃ definition ∈ definitions, definition.key = (field, selector.value?) ∧
        definition.held = value := by
  rw [← Option.mem_toList, toList_get?_of_ofDefs h, List.mem_map]
  simp only [List.mem_filter, decide_eq_true_eq, and_assoc]

/-- The order of the definitions does not matter. -/
theorem exists_ofDefs_perm (h : ofDefs definitions = .ok table) {permuted : List FixtureDef}
    (hperm : permuted.Perm definitions) : ∃ table', ofDefs permuted = .ok table' ∧
      ∀ field selector, table'.get? field selector = table.get? field selector := by
  have hpermuted := ofDefs_of_acceptable ((ofDefs_eq_ok_iff.mp h).1.perm hperm)
  refine ⟨holding permuted, hpermuted, fun field selector ↦ ?_⟩
  apply Option.ext
  intro value
  rw [get?_eq_some_iff hpermuted, get?_eq_some_iff h]
  simp only [hperm.mem_iff]

end

/-- A list of definitions is accepted exactly if it is acceptable. Then every look-up gives what the
one definition for the field and the selector holds, or nothing if there is none, in any order of
the definitions. A list that is not accepted has the error of its first definition that is refused
behind acceptable ones. -/
theorem definitions_kept_or_refused (definitions : List FixtureDef) :
    ((∃ table, ofDefs definitions = .ok table) ↔ Acceptable definitions) ∧
    (∀ table, ofDefs definitions = .ok table →
      table.size = definitions.length ∧
      (∀ field s, (table.get? field (.ofText s)).toList =
        (definitions.filter fun definition ↦ definition.Serves field s).map FixtureDef.held) ∧
      ∀ permuted, permuted.Perm definitions → ∃ table', ofDefs permuted = .ok table' ∧
        ∀ field selector, table'.get? field selector = table.get? field selector) ∧
    ∀ error, ofDefs definitions = .error error ↔ ∃ before definition after,
      definitions = before ++ definition :: after ∧ Acceptable before ∧
        definition.Refused before error := by
  refine ⟨?_, fun table h ↦ ⟨size_of_ofDefs h, fun field s ↦ ?_, fun permuted hperm ↦ ?_⟩,
    fun error ↦ ofDefs_eq_error_iff⟩
  · simp only [ofDefs_eq_ok_iff, exists_and_left, exists_eq, and_true]
  · simp only [toList_get?_of_ofDefs h, FixtureDef.key_eq_iff_serves]
  · exact exists_ofDefs_perm h hperm

/-- Fixtures for no selector, for a place, and for a field that is written with a blank. -/
def sampleDefs : List FixtureDef := [
  ⟨"temperature", some " ", .ofNat 21⟩,
  ⟨"temperature", some "Germany/Berlin", .ofNat 18⟩,
  ⟨" tweets", none, .array [.string "sun", .ofNat 2]⟩]

/-- A definition without a selector repeats the one whose selector is blank. -/
theorem sampleDefs_kept : ∃ table,
    (ofDefs sampleDefs = .ok table ∧ Acceptable sampleDefs) ∧
    table.size = 3 ∧
    (table.get? "temperature" (.ofText "\t")).toList = [.scalar (.ofNat 21)] ∧
    (table.get? "temperature" (.ofText "Germany/Berlin ")).toList = [] ∧
    (∃ table', ofDefs sampleDefs.reverse = .ok table' ∧
      ∀ field selector, table'.get? field selector = table.get? field selector) ∧
    ofDefs (sampleDefs ++ [⟨"temperature", none, .ofNat 3⟩, ⟨"", none, .null⟩]) =
      .error (.duplicate "temperature" none) := by
  have haccepted : ofDefs sampleDefs = .ok (holding sampleDefs) := rfl
  have hacceptable := (definitions_kept_or_refused sampleDefs).1.mp ⟨_, haccepted⟩
  obtain ⟨hsize, hfound, hperm⟩ := (definitions_kept_or_refused sampleDefs).2.1 _ haccepted
  have hrepeated : (FixtureDef.mk "temperature" none (.ofNat 3)).Refused sampleDefs
      (.duplicate "temperature" none) :=
    .repeated ⟨rfl, .number _⟩ (by decide)
  exact ⟨_, ⟨haccepted, hacceptable⟩, hsize, hfound "temperature" "\t",
    hfound "temperature" "Germany/Berlin ", hperm _ sampleDefs.reverse_perm,
    ((definitions_kept_or_refused _).2.2 _).mpr ⟨_, _, _, rfl, hacceptable, hrepeated⟩⟩

end FixtureTable

end ContextProvider
