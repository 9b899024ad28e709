import ContextProvider.Proofs.Json.Recognition
import ContextProvider.Proofs.Json.Record
import ContextProvider.Proofs.Query.Course
import ContextProvider.Proofs.Text.Utf8

/-!
# The entity of the answer

A body describes the entities that it names. What it says beside them does not count, and of the
entities only the first does: every answer to a body is about that entity, whatever becomes of the
request. A body that describes nothing is refused before anything else is looked at.
-/

namespace ContextProvider

open Json Text

/-! ## What a body describes -/

/-- The type of an entity, from the tree that gives it. -/
inductive TypeGiven : Option Tree → String → Prop
  | absent : TypeGiven none "Thing"
  | text (type : String) : TypeGiven (some (.string (some type))) type

/-- The identifier of an entity, from the tree that gives it. -/
inductive IdGiven : Option Tree → Option String → Prop
  | absent : IdGiven none none
  | null : IdGiven (some .null) none
  | text (id : String) : IdGiven (some (.string (some id))) (some id)

/-- The trees that describe an entity: an object with any further members, or its type and its
identifier by position. -/
inductive Entity.DescribedBy (entity : Entity) : Tree → Prop
  | object {members : Members} (once : members.DeclareOnce ["type", "id"])
      (type : TypeGiven (members.get? "type") entity.type)
      (id : IdGiven (members.get? "id") entity.id) : DescribedBy entity (.object members)
  | positional {items : List Tree} (length : items.length ≤ 2)
      (type : TypeGiven items[0]? entity.type) (id : IdGiven items[1]? entity.id) :
      DescribedBy entity (.array items)

/-- The entities of a request, from the tree that gives them. -/
inductive EntitiesGiven : Option Tree → List Entity → Prop
  | absent : EntitiesGiven none []
  | listed {items : List Tree} {entities : List Entity}
      (described : List.Forall₂ (fun item entity ↦ entity.DescribedBy item) items entities) :
      EntitiesGiven (some (.array items)) entities

/-- The trees that describe a request for entities: an object with any further members, or the
entities by position. -/
inductive RequestDescribedBy (entities : List Entity) : Tree → Prop
  | object {members : Members} (once : members.DeclareOnce ["entities"])
      (given : EntitiesGiven (members.get? "entities") entities) :
      RequestDescribedBy entities (.object members)
  | positional {items : List Tree} (length : items.length ≤ 1)
      (given : EntitiesGiven items[0]? entities) : RequestDescribedBy entities (.array items)

/-- A body that is the text of a request for the given entities. -/
def Requests (body : List UInt8) (entities : List Entity) : Prop :=
  ∃ tree, tree.WrittenText (symbols body) ∧ RequestDescribedBy entities tree

/-! ## What is read from a body -/

theorem typeGiven_iff {record : Record} {type : String} :
    record.defaulted "type" defaultEntityType Tree.text? = some type ↔
      TypeGiven (record.get? "type") type := by
  rw [Record.defaulted_eq_some_iff]
  simp only [Tree.text?_eq_some_iff]
  constructor
  · rintro (⟨hget, rfl⟩ | ⟨_, hget, rfl⟩)
    · exact hget ▸ .absent
    · exact hget ▸ .text type
  · intro h
    generalize record.get? "type" = given at h
    cases h with
    | absent => exact .inl ⟨rfl, rfl⟩
    | text => exact .inr ⟨_, rfl, rfl⟩

theorem idGiven_iff {record : Record} {id : Option String} :
    record.defaulted "id" none Tree.optionalText? = some id ↔ IdGiven (record.get? "id") id := by
  rw [Record.defaulted_eq_some_iff]
  simp only [Tree.optionalText?_eq_some_iff]
  constructor
  · rintro (⟨hget, rfl⟩ | ⟨_, hget, ⟨rfl, rfl⟩ | ⟨id, rfl, rfl⟩⟩)
    · exact hget ▸ .absent
    · exact hget ▸ .null
    · exact hget ▸ .text id
  · intro h
    generalize record.get? "id" = given at h
    cases h with
    | absent => exact .inl ⟨rfl, rfl⟩
    | null => exact .inr ⟨_, rfl, .inl ⟨rfl, rfl⟩⟩
    | text id => exact .inr ⟨_, rfl, .inr ⟨id, rfl, rfl⟩⟩

theorem Entity.ofTree?_eq_some_iff {room : Nat} {tree : Tree} {entity : Entity} :
    Entity.ofTree? (room + 1) tree = some entity ↔ entity.DescribedBy tree := by
  have hfields : Entity.ofTree? (room + 1) tree = some entity ↔
      ∃ record, tree.record? ["type", "id"] (room + 1) = some record ∧
        TypeGiven (record.get? "type") entity.type ∧ IdGiven (record.get? "id") entity.id := by
    simp only [Entity.ofTree?, Option.bind_eq_bind, Option.bind_eq_some_iff, typeGiven_iff,
      idGiven_iff, Option.pure_def, Option.some.injEq]
    constructor
    · rintro ⟨record, hrecord, type, htype, id, hid, rfl⟩
      exact ⟨record, hrecord, htype, hid⟩
    · rintro ⟨record, hrecord, htype, hid⟩
      exact ⟨record, hrecord, _, htype, _, hid, rfl⟩
  rw [hfields]
  constructor
  · rintro ⟨record, hrecord, htype, hid⟩
    obtain ⟨members, rfl, honce, rfl⟩ | ⟨items, rfl, hlength, rfl⟩ :=
      Tree.record?_eq_some_iff.mp hrecord
    · rw [Members.get?_declared (by decide)] at htype hid
      exact .object honce htype hid
    · rw [Record.get?_zip (by decide) (i := 0) rfl] at htype
      rw [Record.get?_zip (by decide) (i := 1) rfl] at hid
      exact .positional hlength htype hid
  · intro h
    cases h with
    | object once type id =>
      refine ⟨_, Tree.record?_eq_some_iff.mpr (.inl ⟨_, rfl, once, rfl⟩), ?_, ?_⟩
      · rwa [Members.get?_declared (by decide)]
      · rwa [Members.get?_declared (by decide)]
    | positional length type id =>
      refine ⟨_, Tree.record?_eq_some_iff.mpr (.inr ⟨_, rfl, length, rfl⟩), ?_, ?_⟩
      · rwa [Record.get?_zip (by decide) (i := 0) rfl]
      · rwa [Record.get?_zip (by decide) (i := 1) rfl]

theorem entitiesGiven_iff {room : Nat} {record : Record} {entities : List Entity} :
    record.defaulted "entities" [] (Tree.list? (room + 2) Entity.ofTree?) = some entities ↔
      EntitiesGiven (record.get? "entities") entities := by
  rw [Record.defaulted_eq_some_iff]
  simp only [Tree.list?_eq_some_iff, Entity.ofTree?_eq_some_iff]
  constructor
  · rintro (⟨hget, rfl⟩ | ⟨_, hget, items, rfl, hitems⟩)
    · exact hget ▸ .absent
    · exact hget ▸ .listed hitems
  · intro h
    generalize record.get? "entities" = given at h
    cases h with
    | absent => exact .inl ⟨rfl, rfl⟩
    | listed described => exact .inr ⟨_, rfl, _, rfl, described⟩

theorem QueryRequest.ofTree?_eq_some_iff {room : Nat} {tree : Tree} {request : QueryRequest} :
    QueryRequest.ofTree? (room + 3) tree = some request ↔
      RequestDescribedBy request.entities tree := by
  have hfields : QueryRequest.ofTree? (room + 3) tree = some request ↔
      ∃ record, tree.record? ["entities"] (room + 3) = some record ∧
        EntitiesGiven (record.get? "entities") request.entities := by
    simp only [QueryRequest.ofTree?, Nat.add_one_sub_one, Option.bind_eq_bind,
      Option.bind_eq_some_iff, entitiesGiven_iff, Option.pure_def, Option.some.injEq]
    constructor
    · rintro ⟨record, hrecord, entities, hentities, rfl⟩
      exact ⟨record, hrecord, hentities⟩
    · rintro ⟨record, hrecord, hentities⟩
      exact ⟨record, hrecord, _, hentities, rfl⟩
  rw [hfields]
  constructor
  · rintro ⟨record, hrecord, hgiven⟩
    obtain ⟨members, rfl, honce, rfl⟩ | ⟨items, rfl, hlength, rfl⟩ :=
      Tree.record?_eq_some_iff.mp hrecord
    · rw [Members.get?_declared (by decide)] at hgiven
      exact .object honce hgiven
    · rw [Record.get?_zip (by decide) (i := 0) rfl] at hgiven
      exact .positional hlength hgiven
  · intro h
    cases h with
    | object once given =>
      refine ⟨_, Tree.record?_eq_some_iff.mpr (.inl ⟨_, rfl, once, rfl⟩), ?_⟩
      rwa [Members.get?_declared (by decide)]
    | positional length given =>
      refine ⟨_, Tree.record?_eq_some_iff.mpr (.inr ⟨_, rfl, length, rfl⟩), ?_⟩
      rwa [Record.get?_zip (by decide) (i := 0) rfl]

/-- A body is read as a request exactly if it is the text of one. -/
theorem requests_iff {body : List UInt8} {entities : List Entity} :
    Requests body entities ↔ QueryRequest.ofBytes? body = some ⟨entities⟩ := by
  simp only [Requests, QueryRequest.ofBytes?, Tree.ofBytes?, Option.bind_eq_some_iff,
    Tree.ofSymbols?_eq_some_iff]
  exact exists_congr fun tree ↦ and_congr_right fun _ ↦
    (@QueryRequest.ofTree?_eq_some_iff 124 tree ⟨entities⟩).symm

/-! ## Blank bodies -/

theorem symbols_of_blank {body : List UInt8} (h : body.all isBodyBlank) :
    ∀ s ∈ symbols body, s ∈ [some ' ', some '\t', some '\n', some '\x0c', some '\r'] := by
  induction body with
  | nil => exact List.forall_mem_nil _
  | cons b rest ih =>
    rw [List.all_cons, Bool.and_eq_true] at h
    obtain ⟨hb, hrest⟩ := h
    have hb : b = 0x20 ∨ b = 0x09 ∨ b = 0x0A ∨ b = 0x0C ∨ b = 0x0D := by
      simpa [isBodyBlank, or_assoc] using hb
    have hspells : Spells [b] b.toNat := by
      rcases hb with rfl | rfl | rfl | rfl | rfl <;> exact .one (by decide)
    rw [← List.singleton_append, hspells.symbols_append]
    refine List.forall_mem_cons.mpr ⟨?_, ih hrest⟩
    rcases hb with rfl | rfl | rfl | rfl | rfl <;> decide

/-- A blank body is no text of a tree, since a tree begins with something else. -/
theorem not_requests_of_blank {body : List UInt8} (h : body.all isBodyBlank)
    (entities : List Entity) : ¬ Requests body entities := by
  rintro ⟨tree, ⟨before, t, after, -, ht, -, hs⟩, -⟩
  obtain ⟨c, t, rfl, hc⟩ := ht.exists_cons
  have hmem := symbols_of_blank h (some c) (by simp [hs])
  simp only [List.mem_cons, Option.some.injEq, List.not_mem_nil, or_false] at hmem
  rcases hmem with rfl | rfl | rfl | rfl | rfl <;> exact absurd hc (by unfold BeginsValue; decide)

theorem readEntity_of_requests {body : List UInt8} {entities : List Entity}
    (h : Requests body entities) : readEntity body = .ok (entities.headD .unnamed) := by
  rw [readEntity, if_neg fun hblank ↦ not_requests_of_blank hblank entities h, requests_iff.mp h]
  rfl

theorem readEntity_of_blank {body : List UInt8} (h : body.all isBodyBlank) :
    readEntity body = .ok .unnamed := by
  rw [readEntity, if_pos h]

theorem readEntity_of_refused {body : List UInt8} (hblank : ¬ body.all isBodyBlank)
    (h : ∀ entities, ¬ Requests body entities) :
    readEntity body = .error (.invalidRequest (bodyRefused ++ bodyFault)) := by
  have hnone : QueryRequest.ofBytes? body = none :=
    Option.eq_none_iff_forall_ne_some.mpr fun request hrequest ↦
      h request.entities (requests_iff.mpr hrequest)
  rw [readEntity, if_neg hblank, hnone]

/-! ## What the answer is about -/

theorem assemble_about (entity : Entity) (m : Mapping)
    (values : Except QueryError (List RawValue)) : ∃ attributes status,
    (assemble entity m values).envelope = .single (entity.element attributes) status := by
  unfold assemble
  split
  · exact ⟨_, _, rfl⟩
  · split <;> exact ⟨_, _, rfl⟩

variable (registry : Registry) (kind : BackendKind) (type mapping : String) (selector : Selector)

theorem queryContext_about {body : List UInt8} {entity : Entity}
    (h : readEntity body = .ok entity) : ∃ attributes status,
    (queryContext registry kind type mapping selector body).result.envelope =
      .single (entity.element attributes) status := by
  have hcourse := queryContext_course registry kind type mapping selector body
  generalize queryContext registry kind type mapping selector body = answer at hcourse
  cases hcourse with
  | unreadable read => cases read.symm.trans h
  | unparsed read | unregistered read =>
    cases read.symm.trans h
    exact ⟨_, _, rfl⟩
  | fetched read =>
    cases read.symm.trans h
    exact assemble_about _ _ _

theorem queryContext_congr {body body' : List UInt8} (h : readEntity body = readEntity body') :
    queryContext registry kind type mapping selector body =
      queryContext registry kind type mapping selector body' := by
  simp only [queryContext, h]

/-- The answer to a request is about the first entity of its body, whatever the outcome, and depends
on nothing else in the body. A blank body requests no entity, and any other body is refused. -/
theorem first_entity_echoed :
    (∀ body entities, Requests body entities → ∃ response,
      (queryContext registry kind type mapping selector body).result.envelope.responses =
        [response] ∧
      response.element.type = (entities.map Entity.type).headD "Thing" ∧
      response.element.id = (entities.map Entity.id).headD none) ∧
    (∀ body body' entities entities', Requests body entities → Requests body' entities' →
      entities.head? = entities'.head? →
      queryContext registry kind type mapping selector body =
        queryContext registry kind type mapping selector body') ∧
    (∀ blank body, blank.all isBodyBlank → Requests body [] →
      queryContext registry kind type mapping selector blank =
        queryContext registry kind type mapping selector body) ∧
    ∀ body, ¬ body.all isBodyBlank → (∀ entities, ¬ Requests body entities) → ∃ reason,
      (queryContext registry kind type mapping selector body).result.envelope.responses =
        [⟨⟨"Thing", "false", none, []⟩, ⟨"400", "Bad Request",
          some ("Invalid request: queryContext body is not valid: " ++ reason)⟩⟩] ∧
      (queryContext registry kind type mapping selector body).questions = [] := by
  refine ⟨?_, ?_, ?_, ?_⟩
  · intro body entities h
    obtain ⟨attributes, status, henvelope⟩ :=
      queryContext_about registry kind type mapping selector (readEntity_of_requests h)
    refine ⟨⟨_, status⟩, congrArg Envelope.responses henvelope, ?_, ?_⟩ <;> cases entities <;> rfl
  · intro body body' entities entities' h h' hhead
    apply queryContext_congr
    rw [readEntity_of_requests h, readEntity_of_requests h', List.headD_eq_head?_getD,
      List.headD_eq_head?_getD, hhead]
  · intro blank body hblank h
    apply queryContext_congr
    rw [readEntity_of_blank hblank, readEntity_of_requests h]
    rfl
  · intro body hblank h
    refine ⟨bodyFault, ?_⟩
    rw [queryContext, readEntity_of_refused hblank h]
    exact ⟨rfl, rfl⟩

/-- A request with a member that nobody asks for, a name in escapes and two entities. -/
def roomBody : List UInt8 :=
  toUtf8 (" \x7b\"u\":[[1e999,\"\\ud800\"]],\"\\u0065ntities\":" ++
    "[\x7b\"id\":null,\"type\":\"Room\"\x7d,\x7b\"id\":\"7\"\x7d]\x7d")

theorem roomBody_requests : Requests roomBody [⟨"Room", none⟩, ⟨"Thing", some "7"⟩] :=
  requests_iff.mpr (by decide +kernel)

/-- Without a backend and with a mapping that is refused, the answers are still about the room, and
a body that gives no list of entities is told apart from one that gives none. -/
theorem roomBody_echoed :
    let answer := queryContext ⟨[]⟩ .weather "number" "a::b" .none
    let positional := toUtf8 "[[[\"Room\"]]]"
    let empty := toUtf8 "\x7b\x7d"
    let null := toUtf8 "\x7b\"entities\":null\x7d"
    (Requests roomBody [⟨"Room", none⟩, ⟨"Thing", some "7"⟩] ∧ ∃ response,
      (answer roomBody).result.envelope.responses = [response] ∧
      response.element.type = "Room" ∧ response.element.id = none) ∧
    (Requests positional [⟨"Room", none⟩] ∧ answer roomBody = answer positional) ∧
    (Requests empty [] ∧ answer [0x20, 0x0C] = answer empty) ∧
    (∀ entities, ¬ Requests null entities) ∧ ∃ reason,
      (answer null).result.envelope.responses =
        [⟨⟨"Thing", "false", none, []⟩, ⟨"400", "Bad Request",
          some ("Invalid request: queryContext body is not valid: " ++ reason)⟩⟩] ∧
      (answer null).questions = [] := by
  intro answer positional empty null
  obtain ⟨echoed, congr, blank, refused⟩ :=
    first_entity_echoed ⟨[]⟩ .weather "number" "a::b" .none
  have hpositional : Requests positional [⟨"Room", none⟩] := requests_iff.mpr (by decide +kernel)
  have hempty : Requests empty [] := requests_iff.mpr (by decide +kernel)
  have hnone : QueryRequest.ofBytes? null = none := by decide +kernel
  have hnull (entities : List Entity) : ¬ Requests null entities := by
    rw [requests_iff, hnone]
    exact (Option.some_ne_none _).symm
  exact ⟨⟨roomBody_requests, echoed _ _ roomBody_requests⟩,
    ⟨hpositional, congr _ _ _ _ roomBody_requests hpositional rfl⟩,
    ⟨hempty, blank _ _ (by decide) hempty⟩, hnull, refused _ (by decide +kernel) hnull⟩

end ContextProvider
