import ContextProvider.Backend.Join
import Mathlib.Data.List.Range

/-!
# Rounds of a join

After some rounds a join knows the outcomes of the sub-fetches whose time has come, and nothing
else. One round adds the outcomes of that round, so the result of a run is the first one that the
known outcomes settle, and it does not change afterwards. A join is run for a number of rounds that
depends on its sub-fetches; a result that more rounds would give is given within these, so the
bound hides none.
-/

namespace ContextProvider

/-- The outcome of a sub-fetch if it has answered within some rounds. -/
def SubFetch.outcomeWithin (fetch : SubFetch α) (rounds : Nat) :
    Option (Except QueryError α) :=
  if ∃ round ∈ fetch.readyAt, round < rounds then some fetch.outcome else none

namespace SubFetch

variable {fetch : SubFetch α}

@[simp]
theorem outcomeWithin_zero : fetch.outcomeWithin 0 = none := by
  simp [outcomeWithin]

@[simp]
theorem outcomeWithin_mk_some (round rounds : Nat) (outcome : Except QueryError α) :
    outcomeWithin ⟨some round, outcome⟩ rounds = if round < rounds then some outcome else none := by
  simp [outcomeWithin]

@[simp]
theorem outcomeWithin_mk_none (rounds : Nat) (outcome : Except QueryError α) :
    outcomeWithin ⟨none, outcome⟩ rounds = none := by
  simp [outcomeWithin]

theorem outcomeWithin_eq_some_iff {rounds : Nat} {outcome : Except QueryError α} :
    fetch.outcomeWithin rounds = some outcome ↔
      ∃ round < rounds, fetch = ⟨some round, outcome⟩ := by
  obtain ⟨_ | ready, given⟩ := fetch
  · simp
  · rw [outcomeWithin_mk_some]
    constructor
    · intro h
      split at h
      · rename_i hready
        cases h
        exact ⟨ready, hready, rfl⟩
      · cases h
    · rintro ⟨round, hround, hfetch⟩
      cases hfetch
      rw [if_pos hround]

/-- Polling in a round adds the outcome of that round. -/
theorem outcomeWithin_or_poll (round : Nat) :
    (fetch.outcomeWithin round).or (fetch.poll round) = fetch.outcomeWithin (round + 1) := by
  obtain ⟨_ | ready, given⟩ := fetch
  · simp [poll]
  · by_cases hbefore : ready < round
    · simp [hbefore, Nat.lt_succ_of_lt hbefore]
    · by_cases hnow : ready = round
      · simp [poll, hnow]
      · have hafter : ¬ ready < round + 1 := by omega
        simp [poll, hbefore, hnow, hafter]

end SubFetch

namespace Join

variable {fetches : List (SubFetch α)} {result : Except QueryError (List α)}

/-- The slots of a join after some rounds. -/
def slotsAfter (fetches : List (SubFetch α)) (rounds : Nat) : List (Slot α) :=
  fetches.map fun fetch ↦ (fetch, fetch.outcomeWithin rounds)

/-- The result that the outcomes known at the end of a round settle. -/
def settledIn (fetches : List (SubFetch α)) (round : Nat) :
    Option (Except QueryError (List α)) :=
  settle (fetches.map (·.outcomeWithin (round + 1)))

/-- The join has no result before this round, and this result from then on, however many rounds it
is polled for. -/
def SettlesIn (fetches : List (SubFetch α)) (round : Nat) (result : Except QueryError (List α)) :
    Prop :=
  ∀ rounds, run rounds 0 (fetches.map fun fetch ↦ (fetch, none)) =
    if round < rounds then some result else none

/-! ## From one round to the next -/

theorem slotsAfter_zero : slotsAfter fetches 0 = fetches.map fun fetch ↦ (fetch, none) := by
  simp [slotsAfter]

theorem pollAll_slotsAfter (rounds : Nat) :
    pollAll rounds (slotsAfter fetches rounds) = slotsAfter fetches (rounds + 1) := by
  simp only [pollAll, slotsAfter, List.map_map, Function.comp_def,
    SubFetch.outcomeWithin_or_poll]

theorem settle_slotsAfter (round : Nat) :
    settle ((slotsAfter fetches (round + 1)).map (·.2)) = settledIn fetches round := by
  simp only [slotsAfter, List.map_map, Function.comp_def, settledIn]

/-- A run gives the first result that is settled in one of its rounds. -/
theorem run_slotsAfter (rounds round : Nat) : run rounds round (slotsAfter fetches round) =
    (List.range' round rounds).findSome? (settledIn fetches) := by
  induction rounds generalizing round with
  | zero => rfl
  | succ rounds ih =>
    rw [run, pollAll_slotsAfter, settle_slotsAfter, ih, List.range'_succ, List.findSome?_cons]
    cases settledIn fetches round <;> rfl

theorem run_eq_none_iff {rounds : Nat} : run rounds 0 (slotsAfter fetches 0) = none ↔
    ∀ round < rounds, settledIn fetches round = none := by
  rw [run_slotsAfter, List.findSome?_eq_none_iff]
  simp [List.mem_range'_1]

theorem run_succ (rounds : Nat) : run (rounds + 1) 0 (slotsAfter fetches 0) =
    (run rounds 0 (slotsAfter fetches 0)).or (settledIn fetches rounds) := by
  rw [run_slotsAfter, run_slotsAfter, List.range'_concat, List.findSome?_append]
  simp

/-! ## The round in which a join settles -/

theorem settlesIn_iff {round : Nat} : SettlesIn fetches round result ↔
    settledIn fetches round = some result ∧
      ∀ earlier < round, settledIn fetches earlier = none := by
  unfold SettlesIn
  rw [← slotsAfter_zero]
  constructor
  · intro h
    have hnone : run round 0 (slotsAfter fetches 0) = none := by simpa using h round
    have hsome : run (round + 1) 0 (slotsAfter fetches 0) = some result := by
      simpa using h (round + 1)
    rw [run_succ, hnone, Option.none_or] at hsome
    exact ⟨hsome, run_eq_none_iff.mp hnone⟩
  · rintro ⟨hround, hearlier⟩ rounds
    induction rounds with
    | zero => rfl
    | succ rounds ih =>
      rw [run_succ, ih]
      rcases Nat.lt_trichotomy round rounds with hlt | heq | hgt
      · simp [hlt, Nat.lt_succ_of_lt hlt]
      · simp [heq ▸ hround, heq]
      · have hlate : ¬ round < rounds := by omega
        have hlater : ¬ round < rounds + 1 := by omega
        simp [hlate, hlater, hearlier rounds hgt]

theorem exists_settlesIn {rounds : Nat} (h : run rounds 0 (slotsAfter fetches 0) = some result) :
    ∃ round, SettlesIn fetches round result := by
  induction rounds with
  | zero => cases h
  | succ rounds ih =>
    rw [run_succ] at h
    rcases Option.or_eq_some_iff.mp h with hbefore | ⟨hnone, hnow⟩
    · exact ih hbefore
    · exact ⟨rounds, settlesIn_iff.mpr ⟨hnow, run_eq_none_iff.mp hnone⟩⟩

/-! ## The number of rounds -/

theorem horizon_pos (fetches : List (SubFetch α)) : 0 < horizon fetches := by
  induction fetches with
  | nil => exact Nat.one_pos
  | cons fetch rest ih => exact Nat.lt_of_lt_of_le ih (Nat.le_max_right _ _)

theorem lt_horizon {round : Nat} {outcome : Except QueryError α}
    (h : ⟨some round, outcome⟩ ∈ fetches) : round < horizon fetches := by
  induction fetches with
  | nil => cases h
  | cons fetch rest ih =>
    have hhorizon : horizon (fetch :: rest) = max (fetch.readyAt.getD 0 + 1) (horizon rest) := rfl
    rw [hhorizon]
    rcases List.mem_cons.mp h with rfl | hrest
    · exact Nat.lt_of_lt_of_le (Nat.lt_succ_self round) (Nat.le_max_left _ _)
    · exact Nat.lt_of_lt_of_le (ih hrest) (Nat.le_max_right _ _)

/-- No sub-fetch answers after the horizon. -/
theorem outcomeWithin_of_horizon_le {fetch : SubFetch α} (hfetch : fetch ∈ fetches) {rounds : Nat}
    (h : horizon fetches ≤ rounds) :
    fetch.outcomeWithin rounds = fetch.outcomeWithin (horizon fetches) := by
  obtain ⟨_ | round, outcome⟩ := fetch
  · simp
  · have hround : round < horizon fetches := lt_horizon hfetch
    simp [hround, Nat.lt_of_lt_of_le hround h]

theorem settledIn_of_horizon_le {round : Nat} (h : horizon fetches ≤ round) :
    settledIn fetches round = settledIn fetches (horizon fetches - 1) := by
  have hlast : horizon fetches - 1 + 1 = horizon fetches := Nat.sub_add_cancel (horizon_pos fetches)
  have hsame : fetches.map (·.outcomeWithin (round + 1)) =
      fetches.map (·.outcomeWithin (horizon fetches)) :=
    List.map_congr_left fun fetch hfetch ↦
      outcomeWithin_of_horizon_le hfetch (Nat.le_succ_of_le h)
  rw [settledIn, settledIn, hlast, hsame]

theorem join_eq_none_iff : join fetches = none ↔ ∀ round, settledIn fetches round = none := by
  rw [join, ← slotsAfter_zero, run_eq_none_iff]
  constructor
  · intro h round
    by_cases hround : round < horizon fetches
    · exact h round hround
    · have hpos := horizon_pos fetches
      rw [settledIn_of_horizon_le (Nat.not_lt.mp hround)]
      exact h (horizon fetches - 1) (by omega)
  · intro h round _
    exact h round

/-- The rounds of a join suffice: its result is the one that it settles in some round, if there is
one at all. -/
theorem join_eq_some_iff :
    join fetches = some result ↔ ∃ round, SettlesIn fetches round result := by
  constructor
  · intro h
    rw [join, ← slotsAfter_zero] at h
    exact exists_settlesIn h
  · rintro ⟨round, h⟩
    have hround : round < horizon fetches := by
      by_contra hlate
      obtain ⟨hsettled, hearlier⟩ := settlesIn_iff.mp h
      have hpos := horizon_pos fetches
      rw [settledIn_of_horizon_le (Nat.not_lt.mp hlate), hearlier _ (by omega)] at hsettled
      cases hsettled
    rw [join, h (horizon fetches), if_pos hround]

/-- A join gives the only result that its rounds can settle, if one of them settles it. -/
theorem join_eq_of_settledIn (hsettled : ∃ round, settledIn fetches round ≠ none)
    (honly : ∀ round given, settledIn fetches round = some given → given = result) :
    join fetches = some result := by
  have hjoin : join fetches ≠ none := by
    intro hnone
    obtain ⟨round, hround⟩ := hsettled
    exact hround (join_eq_none_iff.mp hnone round)
  obtain ⟨given, hgiven⟩ := Option.ne_none_iff_exists'.mp hjoin
  obtain ⟨round, hround⟩ := join_eq_some_iff.mp hgiven
  rw [hgiven, honly round given (settlesIn_iff.mp hround).1]

end Join

end ContextProvider
