import ContextProvider.Proofs.Backend.Pointwise
import ContextProvider.Proofs.Query.Completeness
import Mathlib.Data.List.Perm.Subperm

/-!
# Attributes by themselves

Except for random values, what is reported for a unit of a mapping text depends on that unit alone.
A request succeeds exactly if each unit of its mapping does when it is asked for by itself, and any
choice of the units, in any order, succeeds with the attributes of these units. The units of one
mapping have different names, which is all that they have to agree on.
-/

namespace ContextProvider

open Text

section

variable (registry : Registry) (kind : BackendKind) (type : String) (selector : Selector)
  (body : List UInt8)

/-- The request for a mapping succeeds and reports these attributes. -/
def Reports (mapping : String) (shown : List ContextAttribute) : Prop :=
  (queryContext registry kind type mapping selector body).result.envelope.statusNumber = 200 ∧
    (queryContext registry kind type mapping selector body).result.envelope.attributes = shown

variable {registry kind type selector body}

theorem Reports.unique {mapping : String} {shown other : List ContextAttribute}
    (h : Reports registry kind type selector body mapping shown)
    (hother : Reports registry kind type selector body mapping other) : shown = other :=
  h.2.symm.trans hother.2

/-- A request succeeds exactly if it is served, with a report of each value. -/
theorem reports_iff_served {mapping : String} {shown : List ContextAttribute} :
    Reports registry kind type selector body mapping shown ↔
      ∃ m values, Served registry kind type mapping selector body m values ∧
        (m.specs.zip values).map (fun (spec, raw) ↦ spec.report raw) = shown := by
  constructor
  · rintro ⟨hstatus, hshown⟩
    rcases queryContext_served_or_failed registry kind type mapping selector body with
      ⟨m, values, hserved⟩ | ⟨entity, error, hanswer⟩
    · obtain ⟨entity, hanswer⟩ := queryContext_of_served hserved
      rw [hanswer] at hshown
      exact ⟨m, values, hserved, hshown⟩
    · rw [hanswer] at hstatus
      exact absurd hstatus (entity.statusNumber_failed_ne error)
  · rintro ⟨m, values, hserved, rfl⟩
    obtain ⟨entity, hanswer⟩ := queryContext_of_served hserved
    rw [Reports, hanswer]
    exact ⟨entity.statusNumber_complete m values, rfl⟩

/-! ## Units -/

/-- A unit describes an attribute that has a value, and this is how it is reported. -/
inductive UnitReported (t : ValueType) (value? : AttributeSpec → Option RawValue) (unit : String) :
    ContextAttribute → Prop
  | intro {spec : AttributeSpec} {raw : RawValue}
      (described : Mapping.Describes t (Mapping.unitParts unit) spec)
      (given : value? spec = some raw) :
      UnitReported t value? unit (spec.report raw)

theorem UnitReported.name_eq {t : ValueType} {value? : AttributeSpec → Option RawValue}
    {unit : String} {shown : ContextAttribute} (h : UnitReported t value? unit shown) :
    shown.name = Mapping.unitName unit := by
  cases h with
  | intro described _ => exact described.name_eq

theorem forall₂_unitReported_iff {t : ValueType} {value? : AttributeSpec → Option RawValue}
    {units : List String} {shown : List ContextAttribute} :
    List.Forall₂ (UnitReported t value?) units shown ↔ ∃ specs values,
      List.Forall₂ (Mapping.Describes t) (units.map Mapping.unitParts) specs ∧
        List.Forall₂ (fun spec raw ↦ value? spec = some raw) specs values ∧
          (specs.zip values).map (fun (spec, raw) ↦ spec.report raw) = shown := by
  constructor
  · intro h
    induction h with
    | nil => exact ⟨[], [], .nil, .nil, rfl⟩
    | cons hfirst _ ih =>
      obtain ⟨specs, values, hspecs, hvalues, rfl⟩ := ih
      cases hfirst with
      | intro described given => exact ⟨_, _, .cons described hspecs, .cons given hvalues, rfl⟩
  · rintro ⟨specs, values, hspecs, hvalues, rfl⟩
    induction hvalues generalizing units with
    | nil =>
      rw [List.forall₂_nil_right_iff, List.map_eq_nil_iff] at hspecs
      rw [hspecs]
      exact .nil
    | cons given _ ih =>
      rw [List.forall₂_map_left_iff] at hspecs
      cases hspecs with
      | cons described hrest =>
        exact .cons (.intro described given) (ih (List.forall₂_map_left_iff.mpr hrest))

/-! ## Requests for several units -/

/-- A request in the same circumstances can be answered attribute by attribute. -/
structure Answerable (registry : Registry) (kind : BackendKind) (type : String)
    (selector : Selector) (body : List UInt8) (t : ValueType)
    (value? : AttributeSpec → Option RawValue) : Prop where
  readable : ∃ entity, readEntity body = .ok entity
  typed : trim type = t.word
  found : ∃ backend, registry.find? kind = some backend ∧ backend.AnswersEach selector value? ∧
    ∀ m values, (backend.fetch m selector).result = .ok values → m.AnsweredBy values

theorem ValueType.word_injective : Function.Injective word := by
  intro t t' h
  cases t <;> cases t' <;> simp [word] at h ⊢

/-- Where attributes are answered one by one, a request for distinct units reports each of them. -/
theorem Answerable.reports_iff {t : ValueType} {value? : AttributeSpec → Option RawValue}
    (h : Answerable registry kind type selector body t value?) {units : List String}
    (hne : units ≠ []) (hcomma : ∀ unit ∈ units, ',' ∉ unit.toList)
    (hdistinct : (units.map Mapping.unitName).Nodup) {shown : List ContextAttribute} :
    Reports registry kind type selector body (joined "," units) shown ↔
      List.Forall₂ (UnitReported t value?) units shown := by
  obtain ⟨backend, hfound, heach, hanswered⟩ := h.found
  have hunits : Mapping.units (joined "," units) = units.map Mapping.unitParts := by
    exact congrArg (List.map Mapping.unitParts) (pieces_joined hne hcomma)
  rw [reports_iff_served, forall₂_unitReported_iff]
  constructor
  · rintro ⟨m, values, hserved, rfl⟩
    obtain ⟨t', htype, hspecs⟩ := Mapping.parse_eq_ok_iff.mp hserved.parsed
    obtain ⟨backend', hfound', hfetch⟩ := hserved.fetched
    cases ValueType.word_injective (htype.symm.trans h.typed)
    cases hfound.symm.trans hfound'
    rw [hunits] at hspecs
    exact ⟨m.specs, values, hspecs, (heach m values).mp hfetch, rfl⟩
  · rintro ⟨specs, values, hspecs, hvalues, rfl⟩
    let m : Mapping :=
      { specs
        nonempty := by
          rintro rfl
          exact hne (by simpa using hspecs)
        named := by
          intro spec hspec
          obtain ⟨_, -, hdescribes⟩ := exists_mem_of_forall₂ hspecs.flip hspec
          exact hdescribes.named
        distinct := by
          rw [Mapping.names_of_describes hspecs, List.map_map]
          exact hdistinct }
    have hparsed : Mapping.parse type (joined "," units) = .ok m :=
      Mapping.parse_eq_ok_iff.mpr ⟨t, h.typed, hunits ▸ hspecs⟩
    have hfetch : (backend.fetch m selector).result = .ok values := (heach m values).mpr hvalues
    exact ⟨m, values, ⟨h.readable, hparsed, ⟨backend, hfound, hfetch⟩, hanswered m values hfetch⟩,
      rfl⟩

theorem Answerable.reports_unit_iff {t : ValueType} {value? : AttributeSpec → Option RawValue}
    (h : Answerable registry kind type selector body t value?) {unit : String}
    (hcomma : ',' ∉ unit.toList) {shown : List ContextAttribute} :
    Reports registry kind type selector body unit shown ↔
      List.Forall₂ (UnitReported t value?) [unit] shown := by
  have hone : Reports registry kind type selector body (joined "," [unit]) shown ↔
      List.Forall₂ (UnitReported t value?) [unit] shown :=
    h.reports_iff (List.cons_ne_nil _ _) (List.forall_mem_singleton.mpr hcomma)
      (by rw [List.map_singleton]; exact List.pairwise_singleton _ _)
  rwa [joined, String.intercalate_singleton] at hone

theorem Answerable.forall₂_reports_iff {t : ValueType} {value? : AttributeSpec → Option RawValue}
    (h : Answerable registry kind type selector body t value?) {units : List String}
    (hcomma : ∀ unit ∈ units, ',' ∉ unit.toList) {shown : List ContextAttribute} :
    List.Forall₂ (fun unit reported ↦
      Reports registry kind type selector body unit [reported]) units shown ↔
      List.Forall₂ (UnitReported t value?) units shown := by
  apply forall₂_congr_of_mem
  intro unit hunit reported
  rw [h.reports_unit_iff (hcomma unit hunit), List.forall₂_cons]
  exact and_iff_left .nil

section

variable (shipped : ∀ backend, registry.find? kind = some backend → backend.Shipped)
  (hkind : kind ≠ .random)

include shipped hkind

/-- If one request succeeds, every one in the same circumstances is answered attribute by
attribute. -/
theorem Reports.exists_answerable {mapping : String} {shown : List ContextAttribute}
    (h : Reports registry kind type selector body mapping shown) :
    ∃ t value?, Answerable registry kind type selector body t value? := by
  obtain ⟨m, values, hserved, -⟩ := reports_iff_served.mp h
  obtain ⟨t, htype, -⟩ := Mapping.parse_eq_ok_iff.mp hserved.parsed
  obtain ⟨backend, hfound, -⟩ := hserved.fetched
  have hnotrandom : backend.kind ≠ .random := Registry.kind_of_find? hfound ▸ hkind
  obtain ⟨value?, heach⟩ := (shipped backend hfound).exists_answersEach hnotrandom selector
  exact ⟨t, value?, hserved.readable, htype, backend, hfound, heach,
    fun _ _ hfetch ↦ (shipped backend hfound).answeredBy hfetch⟩

/-- What is reported for several units is what is reported for each of them by itself. -/
theorem reports_joined_iff {units : List String} (hne : units ≠ [])
    (hcomma : ∀ unit ∈ units, ',' ∉ unit.toList) (hdistinct : (units.map Mapping.unitName).Nodup)
    {shown : List ContextAttribute} :
    Reports registry kind type selector body (joined "," units) shown ↔
      List.Forall₂ (fun unit reported ↦
        Reports registry kind type selector body unit [reported]) units shown := by
  constructor
  · intro h
    obtain ⟨t, value?, hcontext⟩ := h.exists_answerable shipped hkind
    exact (hcontext.forall₂_reports_iff hcomma).mpr
      ((hcontext.reports_iff hne hcomma hdistinct).mp h)
  · intro h
    obtain ⟨unit, hunit⟩ := List.exists_mem_of_ne_nil units hne
    obtain ⟨reported, -, hfirst⟩ := exists_mem_of_forall₂ h hunit
    obtain ⟨t, value?, hcontext⟩ := hfirst.exists_answerable shipped hkind
    exact (hcontext.reports_iff hne hcomma hdistinct).mpr
      ((hcontext.forall₂_reports_iff hcomma).mp h)

variable (registry kind type selector body) in
/-- The attribute that is reported for a unit by itself, if one is. -/
def reportOf (unit : String) : ContextAttribute :=
  (queryContext registry kind type unit selector body).result.envelope.attributes.headD
    ⟨unit, "", .null⟩

theorem reports_reportOf {unit : String} (hcomma : ',' ∉ unit.toList)
    (h : ∃ shown, Reports registry kind type selector body unit shown) :
    Reports registry kind type selector body unit
        [reportOf registry kind type selector body unit] ∧
      (reportOf registry kind type selector body unit).name = Mapping.unitName unit := by
  obtain ⟨shown, hshown⟩ := h
  obtain ⟨t, value?, hcontext⟩ := hshown.exists_answerable shipped hkind
  obtain ⟨reported, _, hunit, hnil, rfl⟩ :=
    List.forall₂_cons_left_iff.mp ((hcontext.reports_unit_iff hcomma).mp hshown)
  rw [List.forall₂_nil_left_iff] at hnil
  subst hnil
  have hreport : reportOf registry kind type selector body unit = reported := by
    rw [reportOf, hshown.2, List.headD_cons]
  rw [hreport]
  exact ⟨hshown, hunit.name_eq⟩

/-- Units that succeed by themselves succeed together. -/
theorem reports_joined_map {units : List String} (hne : units ≠ [])
    (hcomma : ∀ unit ∈ units, ',' ∉ unit.toList) (hdistinct : (units.map Mapping.unitName).Nodup)
    (h : ∀ unit ∈ units, ∃ shown, Reports registry kind type selector body unit shown) :
    Reports registry kind type selector body (joined "," units)
      (units.map (reportOf registry kind type selector body)) := by
  rw [reports_joined_iff shipped hkind hne hcomma hdistinct, List.forall₂_map_right_iff,
    List.forall₂_same]
  exact fun unit hunit ↦ (reports_reportOf shipped hkind (hcomma unit hunit) (h unit hunit)).1

/-- Except for random values, a request succeeds exactly if each unit of its mapping does by
itself. Then every choice of its units, in any order, succeeds with the attributes that the whole
request reports for them. -/
theorem attributes_independent {mapping : String} {m : Mapping}
    (hparsed : Mapping.parse type mapping = .ok m) :
    ((∃ shown, Reports registry kind type selector body mapping shown) ↔
      ∀ unit ∈ pieces ',' mapping, ∃ shown, Reports registry kind type selector body unit shown) ∧
    ((∃ shown, Reports registry kind type selector body mapping shown) →
      ∃ report : String → ContextAttribute,
        (∀ unit ∈ pieces ',' mapping, (report unit).name = Mapping.unitName unit) ∧
        Reports registry kind type selector body mapping ((pieces ',' mapping).map report) ∧
        ∀ chosen : List String, chosen ≠ [] → chosen.Subperm (pieces ',' mapping) →
          Reports registry kind type selector body (joined "," chosen) (chosen.map report)) := by
  have hne : pieces ',' mapping ≠ [] := by simp [pieces, piecesChars_ne_nil]
  have hcomma : ∀ unit ∈ pieces ',' mapping, ',' ∉ unit.toList :=
    fun unit hunit hmem ↦ (mem_of_mem_pieces hunit hmem).2 rfl
  have hdistinct : ((pieces ',' mapping).map Mapping.unitName).Nodup := by
    rw [← Mapping.names_of_parse hparsed]
    exact m.distinct
  have hjoined : joined "," (pieces ',' mapping) = mapping := joined_pieces ',' mapping
  have halone : (∃ shown, Reports registry kind type selector body mapping shown) →
      ∀ unit ∈ pieces ',' mapping, ∃ shown,
        Reports registry kind type selector body unit shown := by
    rintro ⟨shown, h⟩ unit hunit
    rw [← hjoined, reports_joined_iff shipped hkind hne hcomma hdistinct] at h
    obtain ⟨reported, -, hreported⟩ := exists_mem_of_forall₂ h hunit
    exact ⟨[reported], hreported⟩
  have htogether : (∀ unit ∈ pieces ',' mapping, ∃ shown,
      Reports registry kind type selector body unit shown) →
        Reports registry kind type selector body mapping
          ((pieces ',' mapping).map (reportOf registry kind type selector body)) := by
    intro h
    conv => arg 6; rw [← hjoined]
    exact reports_joined_map shipped hkind hne hcomma hdistinct h
  refine ⟨⟨halone, fun h ↦ ⟨_, htogether h⟩⟩, fun h ↦ ?_⟩
  refine ⟨reportOf registry kind type selector body, fun unit hunit ↦ ?_, htogether (halone h), ?_⟩
  · exact (reports_reportOf shipped hkind (hcomma unit hunit) (halone h unit hunit)).2
  · intro chosen hchosen hsub
    have hmem : ∀ unit ∈ chosen, unit ∈ pieces ',' mapping := fun unit hunit ↦ hsub.subset hunit
    have hnames : (chosen.map Mapping.unitName).Nodup := by
      obtain ⟨units, hperm, hsublist⟩ := hsub
      exact (hperm.map Mapping.unitName).nodup_iff.mp
        (hdistinct.sublist (hsublist.map Mapping.unitName))
    exact reports_joined_map shipped hkind hchosen (fun unit hunit ↦ hcomma unit (hmem unit hunit))
      hnames fun unit hunit ↦ halone h unit (hmem unit hunit)

end

end

/-- A search that finds two results, the second of which has no language. -/
def foundTwice : Registry where
  backends := [Search.backend (fun _ ↦ .now (.ok [
    [("lang", .string "es"), ("text", .string "hola"), ("user", .number (.integer 7))],
    [("text", .string "hello"), ("user", .bool true)]])) 5]

/-- Two of three attributes in another order, one of them standing in for a missing field. -/
theorem foundTwice_independent :
    (∀ backend, foundTwice.find? .twitter = some backend → backend.Shipped) ∧
      BackendKind.twitter ≠ .random ∧
      (∃ m, Mapping.parse "list" " who : user,tweets, text" = .ok m) ∧
      List.Subperm ["tweets", " who : user"] (pieces ',' " who : user,tweets, text") ∧
      Reports foundTwice .twitter "list" (.ofText "sol") [] "tweets, who : user"
        [⟨"tweets", "array", .array [.string "hola", .string "hello"]⟩,
          ⟨"who", "array", .array [.number (.integer 7), .bool true]⟩] := by
  have hshipped : ∀ backend, foundTwice.find? .twitter = some backend → backend.Shipped := by
    intro backend h
    cases h
    exact .search _ _
  have hparsed : Mapping.parse "list" " who : user,tweets, text" =
      .ok ⟨[⟨"who", "user", .list⟩, .list "tweets", .list "text"],
        by decide, by decide, by decide⟩ := rfl
  have hpieces : pieces ',' " who : user,tweets, text" = [" who : user", "tweets", " text"] := by
    decide
  have hsub : List.Subperm ["tweets", " who : user"] (pieces ',' " who : user,tweets, text") := by
    decide
  have hwhole : Reports foundTwice .twitter "list" (.ofText "sol") [] " who : user,tweets, text"
      [⟨"who", "array", .array [.number (.integer 7), .bool true]⟩,
        ⟨"tweets", "array", .array [.string "hola", .string "hello"]⟩,
        ⟨"text", "array", .array [.string "hola", .string "hello"]⟩] :=
    ⟨by decide +kernel, rfl⟩
  obtain ⟨report, -, hreport, hchosen⟩ :=
    (attributes_independent hshipped (by decide) hparsed).2 ⟨_, hwhole⟩
  have hunits := hreport.unique hwhole
  rw [hpieces] at hunits
  simp only [List.map_cons, List.map_nil, List.cons.injEq] at hunits
  have hanswer := hchosen _ (by simp) hsub
  rw [List.map_cons, List.map_cons, List.map_nil, hunits.1, hunits.2.1] at hanswer
  exact ⟨hshipped, by decide, ⟨_, hparsed⟩, hsub, hanswer⟩

end ContextProvider
