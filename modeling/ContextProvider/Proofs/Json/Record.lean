import ContextProvider.Json.Record
import Mathlib.Data.List.Forall2

/-!
# Records read from objects

A record is read from an object if every key is a text and no declared name is given twice. Its
fields are then the members with the declared names, wherever they stand, and nothing else in the
object counts.
-/

namespace ContextProvider.Json

/-- The members of an object as written: keys that may stand for no text, and trees. -/
abbrev Members := List (Option String × Tree)

/-- The value of the first member with the given name. -/
def Members.get? (members : Members) (name : String) : Option Tree :=
  (members.find? fun member ↦ member.1 == some name).map (·.2)

/-- Every key is a text, and no declared name is given twice. -/
structure Members.DeclareOnce (members : Members) (names : List String) : Prop where
  texts : ∀ member ∈ members, member.1.isSome
  once : ∀ name ∈ names, (members.map Prod.fst).count (some name) ≤ 1

/-- The members with declared names. -/
def Members.declared (members : Members) (names : List String) : Record :=
  members.filterMap fun (key, tree) ↦ (key.filter (· ∈ names)).map fun name ↦ (name, tree)

section

variable {members : Members} {names : List String} {name : String} {tree : Tree}

theorem Members.get?_cons_self : Members.get? ((some name, tree) :: members) name = some tree := by
  simp [Members.get?]

theorem Members.get?_cons_of_ne {key : Option String} (h : key ≠ some name) :
    Members.get? ((key, tree) :: members) name = members.get? name := by
  simp [Members.get?, h]

theorem Members.get?_eq_none_iff :
    members.get? name = none ↔ (members.map Prod.fst).count (some name) = 0 := by
  rw [Members.get?, Option.map_eq_none_iff, List.find?_eq_none, List.count_eq_zero, List.mem_map,
    not_exists]
  exact forall_congr' fun member ↦ by simp

theorem Members.declared_cons : Members.declared ((some name, tree) :: members) names =
    if name ∈ names then (name, tree) :: members.declared names else members.declared names := by
  split <;> simp [Members.declared, *]

theorem Members.get?_declared (h : name ∈ names) :
    Record.get? (members.declared names) name = members.get? name := by
  induction members with
  | nil => rfl
  | cons first rest ih =>
    obtain ⟨key, tree⟩ := first
    by_cases hkey : key = some name
    · rw [hkey, Members.get?_cons_self]
      simp [Members.declared, Record.get?, h]
    · rw [Members.get?_cons_of_ne hkey, ← ih]
      unfold Members.declared Record.get?
      rw [List.filterMap_cons]
      split
      · rfl
      · rename_i field hfield
        obtain ⟨other, hother, rfl⟩ := Option.map_eq_some_iff.mp hfield
        have hne : other ≠ name := by
          rintro rfl
          exact hkey (Option.filter_eq_some_iff.mp hother).1
        rw [List.find?_cons_of_neg (by simpa using hne)]

theorem Members.declareOnce_cons {key : Option String} :
    Members.DeclareOnce ((key, tree) :: members) names ↔
      members.DeclareOnce names ∧ ∃ name, key = some name ∧
        (name ∈ names → members.get? name = none) := by
  simp only [Members.get?_eq_none_iff]
  constructor
  · rintro ⟨texts, once⟩
    obtain ⟨hkey, hrest⟩ := List.forall_mem_cons.mp texts
    obtain ⟨name, rfl⟩ := Option.isSome_iff_exists.mp hkey
    refine ⟨⟨hrest, fun other hother ↦ ?_⟩, name, rfl, fun hname ↦ ?_⟩
    · exact Nat.le_trans List.count_le_count_cons (once other hother)
    · have := once name hname
      rw [List.map_cons, List.count_cons_self] at this
      omega
  · rintro ⟨⟨texts, once⟩, name, rfl, hname⟩
    refine ⟨List.forall_mem_cons.mpr ⟨rfl, texts⟩, fun other hother ↦ ?_⟩
    rw [List.map_cons, List.count_cons]
    split
    · rename_i heq
      cases Option.some.inj (beq_iff_eq.mp heq)
      exact Nat.succ_le_succ (Nat.le_of_eq (hname hother))
    · exact once other hother

/-- The record of the members is that of the declared ones. -/
theorem declaredMembers?_eq_some_iff {record : Record} :
    declaredMembers? names members = some record ↔
      members.DeclareOnce names ∧ members.declared names = record := by
  induction members generalizing record with
  | nil =>
    have hnil : Members.DeclareOnce [] names := ⟨List.forall_mem_nil _, fun _ _ ↦ Nat.zero_le _⟩
    simp [declaredMembers?, Members.declared, hnil]
  | cons first rest ih =>
    obtain ⟨key, tree⟩ := first
    rw [Members.declareOnce_cons]
    cases key with
    | none => simp [declaredMembers?]
    | some key =>
      simp only [declaredMembers?, Option.bind_eq_bind, Option.bind_eq_some_iff, ih,
        List.contains_iff_mem]
      by_cases hkey : key ∈ names
      · simp [hkey, Members.declared_cons, Members.get?_declared, and_assoc]
      · simp [hkey, Members.declared_cons]

/-- A field that was read by position. -/
theorem Record.get?_zip {items : List Tree} (h : names.Nodup) {i : Nat}
    (hi : names[i]? = some name) : Record.get? (names.zip items) name = items[i]? := by
  induction names generalizing items i with
  | nil => cases hi
  | cons first rest ih =>
    cases items with
    | nil => rfl
    | cons item more =>
      rw [List.zip_cons_cons]
      cases i with
      | zero =>
        cases hi
        simp [Record.get?]
      | succ i =>
        have hne : first ≠ name := by
          rintro rfl
          exact (List.nodup_cons.mp h).1 (List.mem_of_getElem? hi)
        rw [List.getElem?_cons_succ, ← ih (List.nodup_cons.mp h).2 hi]
        simp [Record.get?, hne]

/-- A record is read from an object by name and from an array by position. -/
theorem Tree.record?_eq_some_iff {room : Nat} {record : Record} :
    tree.record? names (room + 1) = some record ↔
      (∃ members : Members, tree = .object members ∧ members.DeclareOnce names ∧
        members.declared names = record) ∨
      ∃ items, tree = .array items ∧ items.length ≤ names.length ∧ names.zip items = record := by
  unfold Tree.record?
  split
  · simp [declaredMembers?_eq_some_iff]
  · simp
  · simp_all

end

/-! ## Fields -/

section

variable {α : Type*} {record : Record} {name : String} {read : Tree → Option α} {value : α}

theorem Record.defaulted_eq_some_iff {fallback : α} :
    record.defaulted name fallback read = some value ↔
      (record.get? name = none ∧ fallback = value) ∨
        ∃ tree, record.get? name = some tree ∧ read tree = some value := by
  unfold Record.defaulted
  cases record.get? name <;> simp

/-- A record with one declared field, which has to be there: an object that gives the field once, or
the field by position. -/
theorem Tree.record?_required_eq_some_iff {room : Nat} {tree : Tree} :
    ((tree.record? [name] (room + 1)).bind fun record ↦ record.required name read) = some value ↔
      (∃ (members : Members) (field : Tree), tree = .object members ∧
        members.DeclareOnce [name] ∧ members.get? name = some field ∧ read field = some value) ∨
      ∃ field, tree = .array [field] ∧ read field = some value := by
  have hnodup : [name].Nodup := by simp
  simp only [Option.bind_eq_some_iff, Record.required, Tree.record?_eq_some_iff]
  constructor
  · rintro ⟨_, ⟨members, rfl, honce, rfl⟩ | ⟨items, rfl, hlength, rfl⟩, field, hfield, hread⟩
    · rw [Members.get?_declared (List.mem_singleton_self name)] at hfield
      exact .inl ⟨members, field, rfl, honce, hfield, hread⟩
    · rw [Record.get?_zip hnodup (i := 0) rfl] at hfield
      obtain ⟨item, rfl⟩ : ∃ item, items = [item] := by
        cases items with
        | nil => cases hfield
        | cons item rest =>
          exact ⟨item, by simpa using hlength⟩
      cases hfield
      exact .inr ⟨_, rfl, hread⟩
  · rintro (⟨members, field, rfl, honce, hfield, hread⟩ | ⟨field, rfl, hread⟩)
    · refine ⟨_, .inl ⟨members, rfl, honce, rfl⟩, field, ?_, hread⟩
      rwa [Members.get?_declared (List.mem_singleton_self name)]
    · exact ⟨_, .inr ⟨[field], rfl, Nat.le_refl 1, rfl⟩, field, by simp [Record.get?], hread⟩

theorem Tree.text?_eq_some_iff {tree : Tree} {text : String} :
    tree.text? = some text ↔ tree = .string (some text) := by
  unfold Tree.text?
  split <;> simp_all

theorem Tree.optionalText?_eq_some_iff {tree : Tree} {text : Option String} :
    tree.optionalText? = some text ↔
      (tree = .null ∧ text = none) ∨ ∃ s, tree = .string (some s) ∧ text = some s := by
  unfold Tree.optionalText?
  split
  · simp [eq_comm]
  · have hnull : tree ≠ .null := by assumption
    simp only [Option.map_eq_some_iff, Tree.text?_eq_some_iff, hnull, false_and, false_or]
    exact exists_congr fun s ↦ and_congr_right fun _ ↦ eq_comm

theorem mapM_eq_some_iff {β : Type*} {f : β → Option α} {items : List β} {values : List α} :
    items.mapM f = some values ↔
      List.Forall₂ (fun item value ↦ f item = some value) items values := by
  induction items generalizing values with
  | nil => simp [eq_comm]
  | cons item rest ih =>
    simp only [List.mapM_cons, Option.bind_eq_bind, Option.bind_eq_some_iff, ih,
      List.forall₂_cons_left_iff, Option.pure_def, Option.some.injEq, exists_and_left,
      eq_comm (a := values)]

theorem Tree.itemValues?_eq_mapM (room : Nat) (items : List Tree) :
    Tree.itemValues? room items = items.mapM (Tree.toJson? room) := by
  induction items with
  | nil => rfl
  | cons item rest ih => rw [Tree.itemValues?, ih, List.mapM_cons]

theorem Tree.list?_eq_some_iff {tree : Tree} {room : Nat} {read : Nat → Tree → Option α}
    {values : List α} :
    tree.list? (room + 1) read = some values ↔ ∃ items, tree = .array items ∧
      List.Forall₂ (fun item value ↦ read room item = some value) items values := by
  unfold Tree.list?
  split
  · simp [mapM_eq_some_iff]
  · simp_all

end

end ContextProvider.Json
