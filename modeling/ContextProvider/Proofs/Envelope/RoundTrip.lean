import ContextProvider.Envelope.Wire
import ContextProvider.Proofs.Json.Printed
import ContextProvider.Proofs.Json.Record

/-!
# Envelopes read back

The text of an envelope is read as the same envelope, whatever stands in its texts, provided the
values of its attributes are flat. An identifier and details that are absent have no member in the
text.
-/

namespace ContextProvider

open Json Text

/-! ## Flat values -/

/-- A value without items: null, a boolean, a text or an integer of 64 bits. -/
inductive Json.IsScalar : Json → Prop
  | null : IsScalar .null
  | bool (value : Bool) : IsScalar (.bool value)
  | string (value : String) : IsScalar (.string value)
  | integer {n : Int} (range : -2 ^ 63 ≤ n ∧ n < 2 ^ 64) : IsScalar (.number (.integer n))

/-- A value without items, or an array of such values. -/
inductive Json.IsFlat : Json → Prop
  | scalar {value : Json} (value_scalar : value.IsScalar) : IsFlat value
  | array {items : List Json} (items_scalar : ∀ item ∈ items, item.IsScalar) :
      IsFlat (.array items)

theorem Json.IsScalar.exists_tree {value : Json} (h : value.IsScalar) :
    ∃ tree, value.PrintsAs tree ∧ ∀ room, Tree.toJson? room tree = some value := by
  cases h with
  | null => exact ⟨_, printsAs_null, fun room ↦ by rw [Tree.toJson?]⟩
  | bool value => exact ⟨_, printsAs_bool value, fun room ↦ by rw [Tree.toJson?]⟩
  | string value =>
    exact ⟨_, printsAs_string value, fun room ↦ by rw [Tree.toJson?, Option.map_some]⟩
  | integer range =>
    refine ⟨_, printsAs_integer _, fun room ↦ ?_⟩
    rw [Tree.toJson?, integerLiteral_value? range, Option.map_some]

theorem exists_forall₂ {R : α → β → Prop} {items : List α}
    (h : ∀ item ∈ items, ∃ value, R item value) : ∃ values, List.Forall₂ R items values := by
  induction items with
  | nil => exact ⟨[], .nil⟩
  | cons item items ih =>
    rw [List.forall_mem_cons] at h
    obtain ⟨value, hvalue⟩ := h.1
    obtain ⟨values, hvalues⟩ := ih h.2
    exact ⟨value :: values, .cons hvalue hvalues⟩

theorem Json.IsFlat.exists_tree {value : Json} (h : value.IsFlat) :
    ∃ tree, value.PrintsAs tree ∧ ∀ room, Tree.toJson? (room + 1) tree = some value := by
  cases h with
  | scalar value_scalar =>
    obtain ⟨tree, hprints, hreads⟩ := value_scalar.exists_tree
    exact ⟨tree, hprints, fun room ↦ hreads (room + 1)⟩
  | array items_scalar =>
    obtain ⟨trees, htrees⟩ := exists_forall₂ fun item hitem ↦ (items_scalar item hitem).exists_tree
    refine ⟨_, printsAs_array (htrees.imp fun _ _ h ↦ h.1), fun room ↦ ?_⟩
    have hvalues := mapM_eq_some_iff.mpr (htrees.imp fun _ _ h ↦ h.2 room).flip
    rw [Tree.toJson?, Tree.itemValues?_eq_mapM, hvalues, Option.map_some]

/-! ## Optional members -/

/-- The tree of a member that is left out when there is no text for it. -/
def optionalTree (name : String) (text : Option String) : Members :=
  text.toList.map fun s ↦ (some name, .string (some s))

theorem memberPrintsAs_string (name text : String) :
    MemberPrintsAs (name, .string text) (some name, .string (some text)) :=
  ⟨rfl, printsAs_string text⟩

theorem optionalMember_printsAs (name : String) (text : Option String) :
    List.Forall₂ MemberPrintsAs (optionalMember name text) (optionalTree name text) := by
  cases text with
  | none => exact .nil
  | some s => exact .cons (memberPrintsAs_string name s) .nil

/-! ## Parts of an envelope -/

/-- The names of the members of a written status. -/
def StatusCode.memberNames (status : StatusCode) : List String :=
  ["code", "reasonPhrase"] ++ if status.details.isSome then ["details"] else []

/-- The names of the members of a written element. -/
def ContextElement.memberNames (element : ContextElement) : List String :=
  ["type", "isPattern"] ++ (if element.id.isSome then ["id"] else []) ++ ["attributes"]

/-- A written response: its members and those of its element and its status, by name. -/
inductive ContextResponse.Named (response : ContextResponse) : Tree → Prop
  | mk {element status : Members}
      (element_names : element.map Prod.fst = response.element.memberNames.map some)
      (status_names : status.map Prod.fst = response.status.memberNames.map some) :
      Named response (.object [(some "contextElement", .object element),
        (some "statusCode", .object status)])

theorem StatusCode.exists_members (status : StatusCode) : ∃ members : Members,
    status.toJson.PrintsAs (.object members) ∧
      (∀ room, StatusCode.ofTree? (room + 1) (.object members) = some status) ∧
      members.map Prod.fst = status.memberNames.map some := by
  refine ⟨[(some "code", .string (some status.code)),
    (some "reasonPhrase", .string (some status.reasonPhrase))] ++
    optionalTree "details" status.details, ?_, fun room ↦ ?_, ?_⟩
  · exact printsAs_object (List.rel_append
      (.cons (memberPrintsAs_string _ _) (.cons (memberPrintsAs_string _ _) .nil))
      (optionalMember_printsAs _ _))
  · obtain ⟨code, reasonPhrase, details⟩ := status
    cases details <;> simp [StatusCode.ofTree?, Tree.record?, declaredMembers?, optionalTree,
      Record.get?, Record.required, Record.defaulted, Tree.text?, Tree.optionalText?]
  · cases h : status.details <;> simp [StatusCode.memberNames, optionalTree, h]

theorem ContextAttribute.exists_tree {reported : ContextAttribute} (h : reported.value.IsFlat) :
    ∃ tree, reported.toJson.PrintsAs tree ∧
      ∀ room, ContextAttribute.ofTree? (room + 2) tree = some reported := by
  obtain ⟨tree, hprints, hreads⟩ := h.exists_tree
  refine ⟨.object [(some "name", .string (some reported.name)),
    (some "type", .string (some reported.type)), (some "value", tree)], ?_, fun room ↦ ?_⟩
  · exact printsAs_object (.cons (memberPrintsAs_string _ _) (.cons (memberPrintsAs_string _ _)
      (.cons ⟨rfl, hprints⟩ .nil)))
  · simp [ContextAttribute.ofTree?, Tree.record?, declaredMembers?, Record.get?, Record.required,
      Tree.text?, hreads]

theorem ContextElement.exists_members {element : ContextElement}
    (h : ∀ reported ∈ element.attributes, reported.value.IsFlat) : ∃ members : Members,
    element.toJson.PrintsAs (.object members) ∧
      (∀ room, ContextElement.ofTree? (room + 4) (.object members) = some element) ∧
      members.map Prod.fst = element.memberNames.map some := by
  obtain ⟨trees, htrees⟩ := exists_forall₂ fun reported hreported ↦
    ContextAttribute.exists_tree (h reported hreported)
  have hprints : PrintsAs (.array (element.attributes.map ContextAttribute.toJson))
      (.array trees) :=
    printsAs_array (List.forall₂_map_left_iff.mpr (htrees.imp fun _ _ h ↦ h.1))
  have hreads (room : Nat) : Tree.list? (room + 3) ContextAttribute.ofTree? (.array trees) =
      some element.attributes :=
    Tree.list?_eq_some_iff.mpr ⟨trees, rfl, (htrees.imp fun _ _ h ↦ h.2 room).flip⟩
  refine ⟨[(some "type", .string (some element.type)),
    (some "isPattern", .string (some element.isPattern))] ++ optionalTree "id" element.id ++
    [(some "attributes", .array trees)], ?_, fun room ↦ ?_, ?_⟩
  · exact printsAs_object (List.rel_append (List.rel_append
      (.cons (memberPrintsAs_string _ _) (.cons (memberPrintsAs_string _ _) .nil))
      (optionalMember_printsAs _ _)) (.cons ⟨rfl, hprints⟩ .nil))
  · obtain ⟨type, isPattern, id, attributes⟩ := element
    cases id <;> simp [ContextElement.ofTree?, Tree.record?, declaredMembers?, optionalTree,
      Record.get?, Record.required, Record.defaulted, Tree.text?, Tree.optionalText?, hreads]
  · cases h : element.id <;> simp [ContextElement.memberNames, optionalTree, h]

theorem ContextResponse.exists_tree {response : ContextResponse}
    (h : ∀ reported ∈ response.element.attributes, reported.value.IsFlat) :
    ∃ tree, response.toJson.PrintsAs tree ∧
      (∀ room, ContextResponse.ofTree? (room + 5) tree = some response) ∧ response.Named tree := by
  obtain ⟨element, helement, hreadElement, element_names⟩ := ContextElement.exists_members h
  obtain ⟨status, hstatus, hreadStatus, status_names⟩ := response.status.exists_members
  refine ⟨_, ?_, fun room ↦ ?_, .mk element_names status_names⟩
  · exact printsAs_object (.cons ⟨rfl, helement⟩ (.cons ⟨rfl, hstatus⟩ .nil))
  · simp [ContextResponse.ofTree?, Tree.record?, declaredMembers?, Record.get?, Record.required,
      hreadElement, hreadStatus]

/-- An envelope of flat values comes back from its text, and what is absent in it has no member
there. -/
theorem Envelope.ofBytes?_text (envelope : Envelope)
    (h : ∀ response ∈ envelope.responses, ∀ reported ∈ response.element.attributes,
      reported.value.IsFlat) :
    Envelope.ofBytes? (toUtf8 envelope.text) = some envelope ∧
      ∃ trees, Tree.ofBytes? (toUtf8 envelope.text) =
          some (.object [(some "contextResponses", .array trees)]) ∧
        List.Forall₂ ContextResponse.Named envelope.responses trees := by
  obtain ⟨trees, htrees⟩ := exists_forall₂ fun response hresponse ↦
    ContextResponse.exists_tree (h response hresponse)
  have hprints : PrintsAs (.array (envelope.responses.map ContextResponse.toJson)) (.array trees) :=
    printsAs_array (List.forall₂_map_left_iff.mpr (htrees.imp fun _ _ h ↦ h.1))
  have htext : Tree.ofBytes? (toUtf8 envelope.text) =
      some (.object [(some "contextResponses", .array trees)]) :=
    (printsAs_object (.cons ⟨rfl, hprints⟩ .nil)).ofBytes?_eq
  have hreads : Tree.list? 126 ContextResponse.ofTree? (.array trees) = some envelope.responses :=
    Tree.list?_eq_some_iff.mpr ⟨trees, rfl, (htrees.imp fun _ _ h ↦ h.2.1 120).flip⟩
  refine ⟨?_, trees, htext, htrees.imp fun _ _ h ↦ h.2.2⟩
  rw [Envelope.ofBytes?, htext]
  simp [Envelope.ofTree?, maxNesting, Tree.record?, declaredMembers?, Record.get?, Record.required,
    hreads]

/-- A success and a failure with texts that need escapes, and texts that are empty. -/
def escapedEnvelope : Envelope where
  responses :=
    [⟨⟨"Room\\", "false", none, [⟨"\"a\"", "\x00😀", .array [.null, .number (.integer (-2 ^ 63)),
      .string "\u007f\n"]⟩, ⟨"", "number", .number (.integer (2 ^ 64 - 1))⟩]⟩, .ok⟩,
    ⟨⟨"", "false", some "", []⟩, ⟨"500", "Internal Server Error", some "\t/"⟩⟩]

theorem escapedEnvelope_flat : ∀ response ∈ escapedEnvelope.responses,
    ∀ reported ∈ response.element.attributes, reported.value.IsFlat := by
  have hitems : ∀ item ∈ [Json.null, .number (.integer (-2 ^ 63)), .string "\u007f\n"],
      item.IsScalar := by
    simp only [List.forall_mem_cons]
    exact ⟨.null, .integer (by decide), .string _, List.forall_mem_nil _⟩
  simp only [escapedEnvelope, List.forall_mem_cons]
  exact ⟨⟨.array hitems, .scalar (.integer (by decide)), List.forall_mem_nil _⟩,
    List.forall_mem_nil _, List.forall_mem_nil _⟩

theorem escapedEnvelope_readBack :
    (∀ response ∈ escapedEnvelope.responses, ∀ reported ∈ response.element.attributes,
      reported.value.IsFlat) ∧
    Envelope.ofBytes? (toUtf8 escapedEnvelope.text) = some escapedEnvelope ∧
      ∃ trees, Tree.ofBytes? (toUtf8 escapedEnvelope.text) =
          some (.object [(some "contextResponses", .array trees)]) ∧
        List.Forall₂ ContextResponse.Named escapedEnvelope.responses trees :=
  ⟨escapedEnvelope_flat, Envelope.ofBytes?_text escapedEnvelope escapedEnvelope_flat⟩

end ContextProvider
