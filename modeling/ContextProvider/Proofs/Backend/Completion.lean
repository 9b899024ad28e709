import ContextProvider.Assembly
import ContextProvider.Proofs.Backend.Traversal

/-!
# Orders of completion

When all sub-fetches succeed, the order in which they complete cannot be seen: their values are
joined in the order of the mapping, whatever its size. When one of them fails, a small mapping
fails with the failure that comes first, in the round in which it comes. A wide mapping gives its
outcomes out in order. It fails as fast only if all the sub-fetches ahead of the first failure have
answered by then; otherwise it goes on waiting for one of them, and what that one answers may take
the place of the failure.

The positions of the sub-fetches in the order in which they answer say the same: each that answers
is there once, earlier rounds are ahead of later ones and, within a round, lower positions ahead of
higher ones. The failure that comes first is the first one in this order.
-/

namespace ContextProvider

namespace Join

/-! ## Outcomes without a failure -/

/-- There is no failure among the outcomes. -/
inductive Unfailed : List (Option (Except QueryError α)) → Prop
  | nil : Unfailed []
  | missing {rest : List (Option (Except QueryError α))} : Unfailed rest → Unfailed (none :: rest)
  | value {rest : List (Option (Except QueryError α))} (value : α) :
      Unfailed rest → Unfailed (some (.ok value) :: rest)

section

variable {before after : List (Option (Except QueryError α))} {error : QueryError}

theorem unfailed_iff {outcomes : List (Option (Except QueryError α))} :
    Unfailed outcomes ↔ ∀ error, some (.error error) ∉ outcomes := by
  constructor
  · intro h error
    induction h with
    | nil => exact List.not_mem_nil
    | missing _ ih => simpa using ih
    | value _ _ ih => simpa using ih
  · intro h
    induction outcomes with
    | nil => exact .nil
    | cons outcome rest ih =>
      have hrest : Unfailed rest := ih fun error hmem ↦ h error (List.mem_cons_of_mem _ hmem)
      match outcome with
      | none => exact .missing hrest
      | some (.ok value) => exact .value value hrest
      | some (.error error) => exact absurd List.mem_cons_self (h error)

theorem firstError?_of_unfailed (h : Unfailed before) : firstError? before = none := by
  induction h with
  | nil => rfl
  | missing _ ih => exact ih
  | value _ _ ih => exact ih

theorem firstError?_append (h : Unfailed before) :
    firstError? (before ++ some (.error error) :: after) = some error := by
  induction h with
  | nil => rfl
  | missing _ ih => exact ih
  | value _ _ ih => exact ih

/-- An outcome that is missing holds up all outcomes behind it. -/
theorem deliver_append_of_mem_none (h : Unfailed before) (hmissing : none ∈ before) :
    deliver (before ++ after) = none := by
  induction h with
  | nil => cases hmissing
  | missing _ _ => rfl
  | value _ _ ih =>
    have hrest := ih (by simpa using hmissing)
    rw [List.cons_append, deliver, hrest]

theorem deliver_of_mem_none (h : Unfailed before) (hmissing : none ∈ before) :
    deliver before = none := by
  have hend : deliver (before ++ []) = none := deliver_append_of_mem_none h hmissing
  rwa [List.append_nil] at hend

theorem deliver_append_none_cons (h : Unfailed before) :
    deliver (before ++ none :: after) = none := by
  induction h with
  | nil => rfl
  | missing _ _ => rfl
  | value _ _ ih => rw [List.cons_append, deliver, ih]

/-- A failure is given out once no outcome ahead of it is missing. -/
theorem deliver_failure_iff (h : Unfailed before) :
    deliver (before ++ some (.error error) :: after) = some (.error error) ↔ none ∉ before := by
  constructor
  · intro hdeliver hmissing
    rw [deliver_append_of_mem_none h hmissing] at hdeliver
    cases hdeliver
  · intro hanswered
    induction h with
    | nil => rfl
    | missing _ _ => exact absurd List.mem_cons_self hanswered
    | value _ _ ih =>
      have hrest := ih fun hmissing ↦ hanswered (List.mem_cons_of_mem _ hmissing)
      rw [List.cons_append, deliver, hrest]

theorem settle_of_unfailed (h : Unfailed before) : settle before = deliver before := by
  rw [settle, settleEagerly, firstError?_of_unfailed h]
  exact ite_self _

/-- A small join settles on a failure as soon as it is there. -/
theorem settle_eager (h : Unfailed before)
    (hsmall : (before ++ some (.error error) :: after).length ≤ eagerLimit) :
    settle (before ++ some (.error error) :: after) = some (.error error) := by
  rw [settle, if_pos hsmall, settleEagerly, firstError?_append h]

end

/-! ## Sub-fetches that all succeed -/

/-- Sub-fetches that all succeed, each in a round of its own. -/
def successes {β : Type} (items : List β) (ready : β → Nat) (value : β → α) :
    List (SubFetch α) :=
  items.map fun item ↦ ⟨some (ready item), .ok (value item)⟩

section

variable {β : Type} {items : List β} {ready : β → Nat} {value : β → α}

theorem settledIn_of_all_ready {round : Nat} (h : ∀ item ∈ items, ready item ≤ round) :
    settledIn (successes items ready value) round = some (.ok (items.map value)) := by
  have hknown : (successes items ready value).map (·.outcomeWithin (round + 1)) =
      (items.map fun item ↦ .ok (value item)).map some := by
    rw [successes, List.map_map, List.map_map]
    apply List.map_congr_left
    intro item hitem
    simp [Nat.lt_succ_of_le (h item hitem)]
  have hvalues : (items.map fun item ↦ (.ok (value item) : Except QueryError α)).mapM id =
      .ok (items.map value) := by
    rw [mapM_eq_ok_iff, List.forall₂_map_left_iff, List.forall₂_map_right_iff, List.forall₂_same]
    exact fun _ _ ↦ rfl
  rw [settledIn, hknown, settle_map_some, hvalues]

theorem settledIn_of_not_ready {round : Nat} {item : β} (hitem : item ∈ items)
    (h : round < ready item) : settledIn (successes items ready value) round = none := by
  have hunfailed : Unfailed ((successes items ready value).map (·.outcomeWithin (round + 1))) := by
    apply unfailed_iff.mpr
    intro error herror
    simp [successes] at herror
  have hmissing : none ∈ (successes items ready value).map (·.outcomeWithin (round + 1)) := by
    simp only [successes, List.map_map, List.mem_map, Function.comp_apply,
      SubFetch.outcomeWithin_mk_some]
    exact ⟨item, hitem, if_neg (by omega)⟩
  rw [settledIn, settle_of_unfailed hunfailed]
  exact deliver_of_mem_none hunfailed hmissing

/-- Values are joined in order, whenever they come in. -/
theorem join_successes : join (successes items ready value) = some (.ok (items.map value)) := by
  have hready : ∀ item ∈ items, ready item ≤ horizon (successes items ready value) := by
    intro item hitem
    have hmem : ⟨some (ready item), .ok (value item)⟩ ∈ successes items ready value :=
      List.mem_map.mpr ⟨item, hitem, rfl⟩
    exact (lt_horizon hmem).le
  apply join_eq_of_settledIn
  · refine ⟨horizon (successes items ready value), ?_⟩
    rw [settledIn_of_all_ready hready]
    exact Option.some_ne_none _
  · intro other given hgiven
    by_cases hall : ∀ item ∈ items, ready item ≤ other
    · rw [settledIn_of_all_ready hall] at hgiven
      exact (Option.some.inj hgiven).symm
    · simp only [not_forall, not_le] at hall
      obtain ⟨item, hitem, hlate⟩ := hall
      rw [settledIn_of_not_ready hitem hlate] at hgiven
      cases hgiven

end

/-! ## The failure that comes first -/

/-- Of the sub-fetches that fail, the one between the two lists does so in the earliest round, and
no other one ahead of it does so in the same round. -/
structure FailsFirst (fetches ahead : List (SubFetch α)) (round : Nat) (error : QueryError)
    (behind : List (SubFetch α)) : Prop where
  split : fetches = ahead ++ ⟨some round, .error error⟩ :: behind
  ahead_later : ∀ other e, ⟨some other, .error e⟩ ∈ ahead → round < other
  behind_not_earlier : ∀ other e, ⟨some other, .error e⟩ ∈ behind → round ≤ other

section

variable {fetches ahead behind : List (SubFetch α)} {round : Nat} {error : QueryError}

theorem FailsFirst.round_le (h : FailsFirst fetches ahead round error behind) {other : Nat}
    {e : QueryError} (hmem : ⟨some other, .error e⟩ ∈ fetches) : round ≤ other := by
  rw [h.split, List.mem_append, List.mem_cons] at hmem
  rcases hmem with hahead | hsame | hbehind
  · exact (h.ahead_later other e hahead).le
  · cases hsame
    exact le_rfl
  · exact h.behind_not_earlier other e hbehind

/-- If any sub-fetch fails, one of them fails first. -/
theorem exists_failsFirst (h : ∃ round error, ⟨some round, .error error⟩ ∈ fetches) :
    ∃ ahead round error behind, FailsFirst fetches ahead round error behind := by
  induction fetches with
  | nil =>
    obtain ⟨_, _, hmem⟩ := h
    cases hmem
  | cons fetch rest ih =>
    by_cases hrest : ∃ round error, ⟨some round, .error error⟩ ∈ rest
    · obtain ⟨ahead, round, error, behind, hfirst⟩ := ih hrest
      -- In the same round the one in front comes first.
      by_cases hfetch : ∃ other e, fetch = ⟨some other, .error e⟩ ∧ other ≤ round
      · obtain ⟨other, e, rfl, hother⟩ := hfetch
        exact ⟨[], other, e, rest, rfl, by simp, fun _ _ hmem ↦ hother.trans (hfirst.round_le hmem)⟩
      · have hsplit : fetch :: rest = (fetch :: ahead) ++ ⟨some round, .error error⟩ :: behind := by
          rw [hfirst.split, List.cons_append]
        refine ⟨fetch :: ahead, round, error, behind, hsplit, ?_, hfirst.behind_not_earlier⟩
        intro other e hmem
        rcases List.mem_cons.mp hmem with hsame | hahead
        · by_contra hother
          exact hfetch ⟨other, e, hsame.symm, Nat.not_lt.mp hother⟩
        · exact hfirst.ahead_later other e hahead
    · obtain ⟨round, error, hmem⟩ := h
      rcases List.mem_cons.mp hmem with rfl | hmem
      · exact ⟨[], round, error, rest, rfl, by simp, fun other e hother ↦
          absurd ⟨other, e, hother⟩ hrest⟩
      · exact absurd ⟨round, error, hmem⟩ hrest

theorem unfailed_map_outcomeWithin {rounds : Nat}
    (h : ∀ other e, ⟨some other, .error e⟩ ∈ fetches → rounds ≤ other) :
    Unfailed (fetches.map (·.outcomeWithin rounds)) := by
  apply unfailed_iff.mpr
  intro e hmem
  obtain ⟨fetch, hfetch, houtcome⟩ := List.mem_map.mp hmem
  obtain ⟨other, hother, rfl⟩ := SubFetch.outcomeWithin_eq_some_iff.mp houtcome
  exact absurd (h other e hfetch) (Nat.not_le.mpr hother)

/-- Without a failure, no outcome is missing if and only if all sub-fetches have answered with
values. -/
theorem none_notMem_outcomes_iff (h : Unfailed (fetches.map (·.outcomeWithin (round + 1)))) :
    none ∉ fetches.map (·.outcomeWithin (round + 1)) ↔
      ∀ fetch ∈ fetches, ∃ other ≤ round, ∃ value, fetch = ⟨some other, .ok value⟩ := by
  constructor
  · intro hanswered fetch hfetch
    have hmem : fetch.outcomeWithin (round + 1) ∈ fetches.map (·.outcomeWithin (round + 1)) :=
      List.mem_map_of_mem hfetch
    match houtcome : fetch.outcomeWithin (round + 1) with
    | none => exact absurd (houtcome ▸ hmem) hanswered
    | some (.error e) => exact absurd (houtcome ▸ hmem) (unfailed_iff.mp h e)
    | some (.ok value) =>
      obtain ⟨other, hother, hvalue⟩ := SubFetch.outcomeWithin_eq_some_iff.mp houtcome
      exact ⟨other, Nat.le_of_lt_succ hother, value, hvalue⟩
  · intro hvalues hmissing
    obtain ⟨fetch, hfetch, houtcome⟩ := List.mem_map.mp hmissing
    obtain ⟨other, hother, value, rfl⟩ := hvalues fetch hfetch
    simp [Nat.lt_succ_of_le hother] at houtcome

/-- A wide join gives out the outcomes in order. -/
theorem settledIn_wide (h : eagerLimit < fetches.length) :
    settledIn fetches round = deliver (fetches.map (·.outcomeWithin (round + 1))) := by
  rw [settledIn, settle, if_neg (by simpa using h)]

/-- Before the first failure nothing is settled. -/
theorem FailsFirst.settledIn_earlier (h : FailsFirst fetches ahead round error behind)
    {earlier : Nat} (hearlier : earlier < round) : settledIn fetches earlier = none := by
  have hunfailed : Unfailed (fetches.map (·.outcomeWithin (earlier + 1))) :=
    unfailed_map_outcomeWithin fun other e hmem ↦ hearlier.trans_le (h.round_le hmem)
  have hmissing : none ∈ fetches.map (·.outcomeWithin (earlier + 1)) := by
    have hlate : ¬ round < earlier + 1 := by omega
    rw [h.split]
    simp [hlate]
  rw [settledIn, settle_of_unfailed hunfailed]
  exact deliver_of_mem_none hunfailed hmissing

/-- The join ends with the first failure, in its round, if the join is small, and otherwise if all
sub-fetches ahead of it have answered by then. -/
theorem FailsFirst.settlesIn_iff (h : FailsFirst fetches ahead round error behind) :
    SettlesIn fetches round (.error error) ↔ fetches.length ≤ eagerLimit ∨
      ∀ fetch ∈ ahead, ∃ other ≤ round, ∃ value, fetch = ⟨some other, .ok value⟩ := by
  have hunfailed : Unfailed (ahead.map (·.outcomeWithin (round + 1))) :=
    unfailed_map_outcomeWithin h.ahead_later
  have hknown : fetches.map (·.outcomeWithin (round + 1)) =
      ahead.map (·.outcomeWithin (round + 1)) ++
        some (.error error) :: behind.map (·.outcomeWithin (round + 1)) := by
    rw [h.split]
    simp
  rw [Join.settlesIn_iff, and_iff_left fun earlier ↦ h.settledIn_earlier]
  by_cases hsmall : fetches.length ≤ eagerLimit
  · have hlength : (fetches.map (·.outcomeWithin (round + 1))).length ≤ eagerLimit := by
      rwa [List.length_map]
    rw [hknown] at hlength
    rw [settledIn, hknown, settle_eager hunfailed hlength]
    exact iff_of_true rfl (.inl hsmall)
  · rw [settledIn_wide (Nat.not_le.mp hsmall), hknown, deliver_failure_iff hunfailed,
      none_notMem_outcomes_iff hunfailed, or_iff_right hsmall]

/-- A wide join fails with the first failure in the order of its sub-fetches, if all sub-fetches
ahead of it succeed. -/
theorem join_wide_of_failure (hwide : eagerLimit < fetches.length)
    (hsplit : fetches = ahead ++ ⟨some round, .error error⟩ :: behind)
    (hahead : ∀ fetch ∈ ahead, ∃ other value, fetch = ⟨some other, .ok value⟩) :
    join fetches = some (.error error) := by
  have hunfailed (rounds : Nat) : Unfailed (ahead.map (·.outcomeWithin rounds)) := by
    apply unfailed_map_outcomeWithin
    intro other e hmem
    obtain ⟨_, _, hsuccess⟩ := hahead _ hmem
    cases hsuccess
  have hsettled (last : Nat) : settledIn fetches last =
      deliver (ahead.map (·.outcomeWithin (last + 1)) ++
        SubFetch.outcomeWithin ⟨some round, .error error⟩ (last + 1) ::
          behind.map (·.outcomeWithin (last + 1))) := by
    rw [settledIn_wide hwide, hsplit, List.map_append, List.map_cons]
  apply join_eq_of_settledIn
  · refine ⟨horizon fetches, ?_⟩
    have hround : round < horizon fetches + 1 := by
      apply Nat.lt_succ_of_lt
      apply lt_horizon
      rw [hsplit]
      exact List.mem_append_right _ List.mem_cons_self
    have hanswered : none ∉ ahead.map (·.outcomeWithin (horizon fetches + 1)) := by
      rw [none_notMem_outcomes_iff (hunfailed _)]
      intro fetch hfetch
      obtain ⟨other, value, rfl⟩ := hahead fetch hfetch
      refine ⟨other, ?_, value, rfl⟩
      apply Nat.le_of_lt
      apply lt_horizon
      rw [hsplit]
      exact List.mem_append_left _ hfetch
    rw [hsettled, SubFetch.outcomeWithin_mk_some, if_pos hround,
      (deliver_failure_iff (hunfailed _)).mpr hanswered]
    exact Option.some_ne_none _
  · intro last given hgiven
    rw [hsettled, SubFetch.outcomeWithin_mk_some] at hgiven
    -- The failure can be held up by an outcome ahead of it, or it may not have come yet.
    by_cases hmissing : none ∈ ahead.map (·.outcomeWithin (last + 1))
    · rw [deliver_append_of_mem_none (hunfailed _) hmissing] at hgiven
      cases hgiven
    · split at hgiven
      · rw [(deliver_failure_iff (hunfailed _)).mpr hmissing] at hgiven
        exact (Option.some.inj hgiven).symm
      · rw [deliver_append_none_cons (hunfailed _)] at hgiven
        cases hgiven

end

/-! ## Positions in the order of completion -/

section

variable {fetches : List (SubFetch α)} {error : QueryError}

/-- The sub-fetch at a position answers in a round. -/
def AnswersIn (fetches : List (SubFetch α)) (position round : Nat) : Prop :=
  ∃ outcome, fetches[position]? = some ⟨some round, outcome⟩

theorem AnswersIn.round_eq {position round round' : Nat} (h : AnswersIn fetches position round)
    (h' : AnswersIn fetches position round') : round = round' := by
  obtain ⟨outcome, houtcome⟩ := h
  obtain ⟨outcome', houtcome'⟩ := h'
  cases houtcome.symm.trans houtcome'
  rfl

/-- The positions of the sub-fetches that answer in a round, in order. -/
def positionsIn (fetches : List (SubFetch α)) (round : Nat) : List Nat :=
  (fetches.zipIdx.filter fun (fetch, _) ↦ fetch.readyAt == some round).map (·.2)

theorem completionOrder_eq_flatMap (fetches : List (SubFetch α)) :
    completionOrder fetches = (List.range (horizon fetches)).flatMap (positionsIn fetches) :=
  rfl

theorem mem_positionsIn_iff {position round : Nat} :
    position ∈ positionsIn fetches round ↔ AnswersIn fetches position round := by
  simp only [positionsIn, List.mem_map, List.mem_filter, List.mem_zipIdx_iff_getElem?, beq_iff_eq]
  constructor
  · rintro ⟨⟨⟨ready, outcome⟩, index⟩, ⟨hfetch, rfl⟩, rfl⟩
    exact ⟨outcome, hfetch⟩
  · rintro ⟨outcome, hfetch⟩
    exact ⟨(⟨some round, outcome⟩, position), ⟨hfetch, rfl⟩, rfl⟩

theorem pairwise_positionsIn (fetches : List (SubFetch α)) (round : Nat) :
    (positionsIn fetches round).Pairwise (· < ·) := by
  have hall : (fetches.zipIdx.map (·.2)).Pairwise (· < ·) := by
    rw [List.zipIdx_map_snd]
    exact List.pairwise_lt_range'
  exact hall.sublist (List.filter_sublist.map _)

/-- The order of completion has the positions of all sub-fetches that answer. -/
theorem mem_completionOrder_iff {position : Nat} :
    position ∈ completionOrder fetches ↔ ∃ round, AnswersIn fetches position round := by
  simp only [completionOrder_eq_flatMap, List.mem_flatMap, List.mem_range, mem_positionsIn_iff]
  constructor
  · rintro ⟨round, -, h⟩
    exact ⟨round, h⟩
  · rintro ⟨round, outcome, hfetch⟩
    exact ⟨round, lt_horizon (List.mem_of_getElem? hfetch), outcome, hfetch⟩

/-- Of two positions in the order of completion the first is that of the earlier answer, or of two
answers in one round the smaller one. -/
theorem pairwise_completionOrder (fetches : List (SubFetch α)) :
    (completionOrder fetches).Pairwise fun position later ↦
      ∀ round round', AnswersIn fetches position round → AnswersIn fetches later round' →
        round < round' ∨ round = round' ∧ position < later := by
  rw [completionOrder_eq_flatMap, List.pairwise_flatMap]
  constructor
  · intro round _
    apply (pairwise_positionsIn fetches round).imp_of_mem
    intro position later hposition hlater hless r r' h h'
    rw [mem_positionsIn_iff] at hposition hlater
    exact .inr ⟨(h.round_eq hposition).trans (hlater.round_eq h'), hless⟩
  · apply List.pairwise_lt_range.imp
    intro round round' hround position hposition later hlater r r' h h'
    rw [mem_positionsIn_iff] at hposition hlater
    rw [h.round_eq hposition, h'.round_eq hlater]
    exact .inl hround

/-- No position comes twice in the order of completion. -/
theorem nodup_completionOrder (fetches : List (SubFetch α)) : (completionOrder fetches).Nodup := by
  apply (pairwise_completionOrder fetches).imp_of_mem
  rintro position _ hposition - horder rfl
  obtain ⟨round, h⟩ := mem_completionOrder_iff.mp hposition
  have := horder round round h h
  omega

/-- The error of the sub-fetch at a position, if it fails. -/
def errorAt? (fetches : List (SubFetch α)) (position : Nat) : Option QueryError :=
  match fetches[position]? with
  | some ⟨_, .error error⟩ => some error
  | _ => none

theorem errorAt?_eq_some_iff {position : Nat} : errorAt? fetches position = some error ↔
    ∃ ready, fetches[position]? = some ⟨ready, .error error⟩ := by
  unfold errorAt?
  split
  · simp_all
  · rename_i hother
    simpa using fun ready ↦ hother ready error

/-- The first error in the order of completion. -/
def firstFailure? (fetches : List (SubFetch α)) : Option QueryError :=
  (completionOrder fetches).findSome? (errorAt? fetches)

/-- The failure that comes first is the first one in the order of completion. -/
theorem FailsFirst.firstFailure?_eq {ahead behind : List (SubFetch α)} {round : Nat}
    (h : FailsFirst fetches ahead round error behind) : firstFailure? fetches = some error := by
  have hfailing : fetches[ahead.length]? = some ⟨some round, .error error⟩ := by
    rw [h.split]
    simp
  have hanswers : AnswersIn fetches ahead.length round := ⟨_, hfailing⟩
  obtain ⟨earlier, later, hsplit⟩ :=
    List.mem_iff_append.mp (mem_completionOrder_iff.mpr ⟨round, hanswers⟩)
  have horder := pairwise_completionOrder fetches
  rw [hsplit, List.pairwise_append] at horder
  -- A failure at a position further ahead in this order would come before the first one.
  have hbefore : ∀ position ∈ earlier, errorAt? fetches position = none := by
    intro position hposition
    by_contra hfails
    obtain ⟨e, he⟩ := Option.ne_none_iff_exists'.mp hfails
    obtain ⟨ready, hfetch⟩ := errorAt?_eq_some_iff.mp he
    have hmem : position ∈ completionOrder fetches := by
      rw [hsplit]
      exact List.mem_append_left _ hposition
    obtain ⟨other, outcome, hanswer⟩ := mem_completionOrder_iff.mp hmem
    cases hfetch.symm.trans hanswer
    have hround : round ≤ other := h.round_le (List.mem_of_getElem? hfetch)
    rcases horder.2.2 position hposition _ List.mem_cons_self other round ⟨_, hfetch⟩ hanswers with
      hless | ⟨rfl, hahead⟩
    · omega
    · rw [h.split, List.getElem?_append_left hahead] at hfetch
      exact absurd (h.ahead_later other e (List.mem_of_getElem? hfetch)) (Nat.lt_irrefl other)
  have hhere : errorAt? fetches ahead.length = some error :=
    errorAt?_eq_some_iff.mpr ⟨some round, hfailing⟩
  rw [firstFailure?, hsplit, List.findSome?_append, List.findSome?_eq_none_iff.mpr hbefore,
    List.findSome?_cons, hhere]
  rfl

/-- A join of up to thirty sub-fetches fails with the first error in the order of completion. -/
theorem join_of_firstFailure? (hsmall : fetches.length ≤ eagerLimit)
    (h : firstFailure? fetches = some error) : join fetches = some (.error error) := by
  obtain ⟨position, hposition, herror⟩ := List.exists_of_findSome?_eq_some h
  obtain ⟨ready, hfetch⟩ := errorAt?_eq_some_iff.mp herror
  obtain ⟨round, outcome, hanswer⟩ := mem_completionOrder_iff.mp hposition
  cases hfetch.symm.trans hanswer
  obtain ⟨ahead, first, e, behind, hfirst⟩ :=
    exists_failsFirst ⟨round, error, List.mem_of_getElem? hfetch⟩
  cases h.symm.trans hfirst.firstFailure?_eq
  exact join_eq_some_iff.mpr ⟨first, hfirst.settlesIn_iff.mpr (.inl hsmall)⟩

end

end Join

/-! ## The attributes of a mapping -/

namespace Mapping

/-- The values of a mapping are joined in its order and reported in its order, whenever they come
in. -/
theorem join_in_order (m : Mapping) (value : AttributeSpec → RawValue)
    (ready ready' : AttributeSpec → Nat) (entity : Entity) :
    join (Join.successes m.specs ready value) = some (.ok (m.specs.map value)) ∧
    join (Join.successes m.specs ready' value) = join (Join.successes m.specs ready value) ∧
    (join (Join.successes m.specs ready' value)).map (assemble entity m) =
      (join (Join.successes m.specs ready value)).map (assemble entity m) := by
  have hsame : join (Join.successes m.specs ready' value) =
      join (Join.successes m.specs ready value) :=
    Join.join_successes.trans Join.join_successes.symm
  exact ⟨Join.join_successes, hsame, by rw [hsame]⟩

/-- If an attribute fails, the failure that comes first is the result, in the round in which it
comes, for up to thirty attributes; for more, if all attributes ahead of it have answered by then,
and not otherwise. -/
theorem fails_fast_iff (m : Mapping) (fetch : AttributeSpec → SubFetch RawValue)
    (hfails : ∃ round error, ⟨some round, .error error⟩ ∈ m.specs.map fetch) :
    ∃ ahead round error behind,
      Join.FailsFirst (m.specs.map fetch) ahead round error behind ∧
      (join (m.specs.map fetch) = some (.error error) ∧
          Join.SettlesIn (m.specs.map fetch) round (.error error) ↔
        m.size ≤ 30 ∨ ∀ other ∈ ahead, ∃ r ≤ round, ∃ value, other = ⟨some r, .ok value⟩) := by
  obtain ⟨ahead, round, error, behind, hfirst⟩ := Join.exists_failsFirst hfails
  refine ⟨ahead, round, error, behind, hfirst, ?_⟩
  have hsize : (m.specs.map fetch).length = m.size := List.length_map ..
  rw [and_iff_right_of_imp fun h ↦ Join.join_eq_some_iff.mpr ⟨round, h⟩, hfirst.settlesIn_iff,
    hsize]
  rfl

/-- Two attributes, of which the first never answers and the second fails at once. -/
def stalled : Mapping where
  specs := [.scalar "ok", .scalar "missing"]
  nonempty := by decide
  named := by decide
  distinct := by decide

def stalledFetch (spec : AttributeSpec) : SubFetch RawValue :=
  if spec.name = "ok" then ⟨none, .ok ⟨"ok", .scalar .null⟩⟩
  else ⟨some 0, .error (.fixtureNotFound spec.field none)⟩

theorem stalled_fails_fast :
    (∃ round error, ⟨some round, .error error⟩ ∈ stalled.specs.map stalledFetch) ∧
    join (stalled.specs.map stalledFetch) = some (.error (.fixtureNotFound "missing" none)) ∧
    Join.SettlesIn (stalled.specs.map stalledFetch) 0
      (.error (.fixtureNotFound "missing" none)) := by
  have hfetches : stalled.specs.map stalledFetch =
      [⟨none, .ok ⟨"ok", .scalar .null⟩⟩, ⟨some 0, .error (.fixtureNotFound "missing" none)⟩] := by
    simp [stalled, stalledFetch, AttributeSpec.scalar]
  have hfails : ∃ round error, ⟨some round, .error error⟩ ∈ stalled.specs.map stalledFetch :=
    ⟨0, .fixtureNotFound "missing" none, by simp [hfetches]⟩
  refine ⟨hfails, ?_⟩
  obtain ⟨ahead, round, error, behind, hfirst, hiff⟩ := fails_fast_iff stalled stalledFetch hfails
  have hmem : ⟨some round, .error error⟩ ∈ stalled.specs.map stalledFetch := by
    rw [hfirst.split]
    simp
  obtain ⟨rfl, rfl⟩ : round = 0 ∧ error = .fixtureNotFound "missing" none := by
    simpa [hfetches] using hmem
  exact hiff.mpr (.inl (by decide))

/-- One more attribute than are joined with an eye on all of them. -/
def crowded : Mapping where
  specs := "abcdefghijklmnopqrstuvwxyz01234".toList.map (AttributeSpec.scalar ∘ String.singleton)
  nonempty := by decide
  named := by decide
  distinct := by decide

/-- The second attribute fails at once, the first one in the next round, and the others succeed. -/
def crowdedFetch (spec : AttributeSpec) : SubFetch RawValue :=
  if spec.name = "a" then ⟨some 1, .error (.fixtureNotFound "slow" none)⟩
  else if spec.name = "b" then ⟨some 0, .error (.fixtureNotFound "quick" none)⟩
  else ⟨some 0, .ok ⟨spec.field, .scalar .null⟩⟩

theorem crowded_fails_slowly :
    (∃ ahead behind, Join.FailsFirst (crowded.specs.map crowdedFetch) ahead 0
      (.fixtureNotFound "quick" none) behind) ∧
    join (crowded.specs.map crowdedFetch) = some (.error (.fixtureNotFound "slow" none)) := by
  have hfetches : crowded.specs.map crowdedFetch =
      ⟨some 1, .error (.fixtureNotFound "slow" none)⟩ ::
        ⟨some 0, .error (.fixtureNotFound "quick" none)⟩ ::
          (crowded.specs.drop 2).map crowdedFetch := by
    rfl
  have hwide : Join.eagerLimit < (crowded.specs.map crowdedFetch).length := by
    rw [List.length_map]
    decide
  constructor
  · refine ⟨[⟨some 1, .error (.fixtureNotFound "slow" none)⟩],
      (crowded.specs.drop 2).map crowdedFetch, hfetches, ?_, fun _ _ _ ↦ Nat.zero_le _⟩
    intro other e hmem
    cases List.mem_singleton.mp hmem
    exact Nat.one_pos
  · have hahead : ∀ fetch ∈ ([] : List (SubFetch RawValue)),
        ∃ other value, fetch = ⟨some other, .ok value⟩ := by simp
    exact Join.join_wide_of_failure hwide hfetches hahead

end Mapping

end ContextProvider
