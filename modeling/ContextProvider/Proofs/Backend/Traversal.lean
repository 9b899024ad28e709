import ContextProvider.Proofs.Backend.Schedule
import Mathlib.Data.List.Forall2

/-!
# Fetching the attributes one after another

A traversal of the attributes stops at the first failure and otherwise has one value for each of
them, in their order. Sub-fetches that all answer at once are joined to the same result, whatever
their number, so that the two ways of joining cannot be told apart by them.
-/

namespace ContextProvider

/-! ## Traversals that may fail -/

section

variable {ε α β : Type*}

theorem map_eq_ok_iff {x : Except ε α} {g : α → β} {b : β} :
    x.map g = .ok b ↔ ∃ a, x = .ok a ∧ g a = b := by
  cases x <;> simp [Except.map]

theorem exists_map_eq_ok_iff {x : Except ε α} {g : α → β} :
    (∃ b, x.map g = .ok b) ↔ ∃ a, x = .ok a := by
  cases x <;> simp [Except.map]

theorem map_eq_error_iff {x : Except ε α} {g : α → β} {error : ε} :
    x.map g = .error error ↔ x = .error error := by
  cases x <;> simp [Except.map]

theorem mapM_cons_of_error {f : α → Except ε β} {item : α} {error : ε}
    (h : f item = .error error) (rest : List α) : (item :: rest).mapM f = .error error := by
  rw [List.mapM_cons, h]
  rfl

theorem mapM_cons_of_ok {f : α → Except ε β} {item : α} {value : β} (h : f item = .ok value)
    (rest : List α) : (item :: rest).mapM f = (rest.mapM f).map (value :: ·) := by
  rw [List.mapM_cons, h]
  cases rest.mapM f <;> rfl

/-- A traversal succeeds with the values of all its elements. -/
theorem mapM_eq_ok_iff {f : α → Except ε β} {items : List α} {values : List β} :
    items.mapM f = .ok values ↔
      List.Forall₂ (fun item value ↦ f item = .ok value) items values := by
  induction items generalizing values with
  | nil =>
    rw [List.mapM_nil, List.forall₂_nil_left_iff]
    exact ⟨fun h ↦ (Except.ok.inj h).symm, fun h ↦ congrArg Except.ok h.symm⟩
  | cons item rest ih =>
    rw [List.forall₂_cons_left_iff]
    cases hitem : f item with
    | error error => simp [mapM_cons_of_error hitem]
    | ok value =>
      rw [mapM_cons_of_ok hitem, map_eq_ok_iff]
      constructor
      · rintro ⟨more, hmore, rfl⟩
        exact ⟨value, more, rfl, ih.mp hmore, rfl⟩
      · rintro ⟨_, more, hvalue, hmore, rfl⟩
        cases hvalue
        exact ⟨more, ih.mpr hmore, rfl⟩

theorem exists_mem_of_forall₂ {R : α → β → Prop} {items : List α} {values : List β}
    (h : List.Forall₂ R items values) {item : α} (hitem : item ∈ items) :
    ∃ value ∈ values, R item value := by
  induction h with
  | nil => cases hitem
  | cons hfirst _ ih =>
    rcases List.mem_cons.mp hitem with rfl | hrest
    · exact ⟨_, List.mem_cons_self, hfirst⟩
    · obtain ⟨value, hvalue, hR⟩ := ih hrest
      exact ⟨value, List.mem_cons_of_mem _ hvalue, hR⟩

/-- Relations that agree on the elements of a list agree on the whole list. -/
theorem forall₂_congr_of_mem {R S : α → β → Prop} {items : List α} {values : List β}
    (h : ∀ item ∈ items, ∀ value, R item value ↔ S item value) :
    List.Forall₂ R items values ↔ List.Forall₂ S items values := by
  induction items generalizing values with
  | nil => simp only [List.forall₂_nil_left_iff]
  | cons item rest ih =>
    rw [List.forall_mem_cons] at h
    simp only [List.forall₂_cons_left_iff, h.1, ih h.2]

theorem exists_of_mapM_eq_ok {f : α → Except ε β} {items : List α} {values : List β}
    (h : items.mapM f = .ok values) {item : α} (hitem : item ∈ items) :
    ∃ value ∈ values, f item = .ok value :=
  exists_mem_of_forall₂ (mapM_eq_ok_iff.mp h) hitem

theorem exists_of_mem_of_mapM_eq_ok {f : α → Except ε β} {items : List α} {values : List β}
    (h : items.mapM f = .ok values) {value : β} (hvalue : value ∈ values) :
    ∃ item ∈ items, f item = .ok value :=
  exists_mem_of_forall₂ (mapM_eq_ok_iff.mp h).flip hvalue

/-- A traversal uses its function on the elements only. -/
theorem mapM_congr_of_mem {f g : α → Except ε β} {items : List α}
    (h : ∀ item ∈ items, f item = g item) : items.mapM f = items.mapM g := by
  induction items with
  | nil => rfl
  | cons item rest ih =>
    obtain ⟨hitem, hrest⟩ := List.forall_mem_cons.mp h
    rw [List.mapM_cons, List.mapM_cons, hitem, ih hrest]

/-- A traversal fails with the failure of the first element that has one. -/
theorem mapM_eq_error_iff {f : α → Except ε β} {items : List α} {error : ε} :
    items.mapM f = .error error ↔ ∃ before item after, items = before ++ item :: after ∧
      (∀ other ∈ before, ∃ value, f other = .ok value) ∧ f item = .error error := by
  induction items with
  | nil => simp [pure, Except.pure]
  | cons first rest ih =>
    cases hfirst : f first with
    | error fault =>
      rw [mapM_cons_of_error hfirst]
      constructor
      · intro h
        cases h
        exact ⟨[], first, rest, rfl, by simp, hfirst⟩
      · rintro ⟨before, item, after, hitems, hbefore, hitem⟩
        cases before with
        | nil =>
          cases hitems
          cases hfirst.symm.trans hitem
          rfl
        | cons other before =>
          cases hitems
          obtain ⟨value, hvalue⟩ := hbefore first List.mem_cons_self
          cases hfirst.symm.trans hvalue
    | ok value =>
      rw [mapM_cons_of_ok hfirst, map_eq_error_iff, ih]
      constructor
      · rintro ⟨before, item, after, rfl, hbefore, hitem⟩
        exact ⟨first :: before, item, after, rfl,
          List.forall_mem_cons.mpr ⟨⟨value, hfirst⟩, hbefore⟩, hitem⟩
      · rintro ⟨before, item, after, hitems, hbefore, hitem⟩
        cases before with
        | nil =>
          cases hitems
          cases hfirst.symm.trans hitem
        | cons other before =>
          cases hitems
          exact ⟨before, item, after, rfl, (List.forall_mem_cons.mp hbefore).2, hitem⟩

/-- A traversal succeeds exactly if every element does. -/
theorem exists_mapM_eq_ok_iff {f : α → Except ε β} {items : List α} :
    (∃ values, items.mapM f = .ok values) ↔ ∀ item ∈ items, ∃ value, f item = .ok value := by
  constructor
  · rintro ⟨values, hvalues⟩ item hitem
    obtain ⟨value, -, hvalue⟩ := exists_of_mapM_eq_ok hvalues hitem
    exact ⟨value, hvalue⟩
  · intro hall
    cases hrun : items.mapM f with
    | ok values => exact ⟨values, rfl⟩
    | error error =>
      obtain ⟨before, item, after, rfl, -, hitem⟩ := mapM_eq_error_iff.mp hrun
      obtain ⟨value, hvalue⟩ := hall item (by simp)
      cases hvalue.symm.trans hitem

end

/-! ## Sub-fetches that all answer at once -/

namespace Join

theorem deliver_map_some (outcomes : List (Except QueryError α)) :
    deliver (outcomes.map some) = some (outcomes.mapM id) := by
  induction outcomes with
  | nil => rfl
  | cons outcome rest ih =>
    cases outcome with
    | error error => rfl
    | ok value =>
      rw [mapM_cons_of_ok (f := id) rfl, List.map_cons, deliver, ih]
      cases rest.mapM id <;> rfl

theorem firstError?_map_some (outcomes : List (Except QueryError α)) :
    firstError? (outcomes.map some) =
      match outcomes.mapM id with
      | .error error => some error
      | .ok _ => none := by
  induction outcomes with
  | nil => rfl
  | cons outcome rest ih =>
    cases outcome with
    | error error => rfl
    | ok value =>
      rw [mapM_cons_of_ok (f := id) rfl]
      refine Eq.trans (show _ = firstError? (rest.map some) from rfl) (ih.trans ?_)
      cases rest.mapM id <;> rfl

theorem settleEagerly_map_some (outcomes : List (Except QueryError α)) :
    settleEagerly (outcomes.map some) = some (outcomes.mapM id) := by
  rw [settleEagerly, firstError?_map_some, deliver_map_some]
  cases outcomes.mapM id <;> rfl

theorem settle_map_some (outcomes : List (Except QueryError α)) :
    settle (outcomes.map some) = some (outcomes.mapM id) := by
  rw [settle, settleEagerly_map_some, deliver_map_some, ite_self]

/-- Sub-fetches that answer at once are settled in the first round. -/
theorem settlesIn_now (outcomes : List (Except QueryError α)) :
    SettlesIn (outcomes.map SubFetch.now) 0 (outcomes.mapM id) := by
  have hknown : (outcomes.map SubFetch.now).map (·.outcomeWithin 1) = outcomes.map some := by
    simp [SubFetch.now]
  rw [settlesIn_iff, settledIn, hknown]
  exact ⟨settle_map_some outcomes, by simp⟩

end Join

/-- Outcomes that are all there at once are joined in order, by either way of joining. -/
theorem joinNow_eq_mapM (outcomes : List (Except QueryError α)) :
    joinNow outcomes = outcomes.mapM id := by
  rw [joinNow, Join.join_eq_some_iff.mpr ⟨0, Join.settlesIn_now outcomes⟩, Option.getD_some]

theorem joinNow_map (items : List β) (fetch : β → Except QueryError α) :
    joinNow (items.map fetch) = items.mapM fetch := by
  rw [joinNow_eq_mapM, List.mapM_map]
  rfl

end ContextProvider
