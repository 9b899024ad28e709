import ContextProvider.QueryError

/-!
# Joining sub-fetches

The attributes of one request are fetched side by side. In each round every sub-fetch that is not
done is polled in order; it answers in the round of its number, or never. Up to thirty
sub-fetches, the join fails as soon as one of them has failed, the first in order if several fail
in one round. More than thirty are delivered in order: an outcome waits until all before it have
been delivered, so the failure at the lowest position is the one reported. A join succeeds when
every sub-fetch has, with the values in order whatever the order of completion.
-/

namespace ContextProvider

/-- A sub-fetch: the round in which it answers, if it ever does, and its outcome. -/
structure SubFetch (α : Type) where
  readyAt : Option Nat
  outcome : Except QueryError α

namespace SubFetch

/-- A sub-fetch that answers when it is polled for the first time. -/
def now (outcome : Except QueryError α) : SubFetch α := ⟨some 0, outcome⟩

/-- The outcome of polling in a round. -/
def poll (fetch : SubFetch α) (round : Nat) : Option (Except QueryError α) :=
  if fetch.readyAt = some round then some fetch.outcome else none

end SubFetch

namespace Join

/-- The most sub-fetches that are joined with an eye on all of them. -/
def eagerLimit : Nat := 30

/-- A sub-fetch and its outcome once it is done. -/
abbrev Slot (α : Type) := SubFetch α × Option (Except QueryError α)

/-- Poll every slot that is not done. -/
def pollAll (round : Nat) (slots : List (Slot α)) : List (Slot α) :=
  slots.map fun (fetch, outcome) ↦ (fetch, outcome.or (fetch.poll round))

/-- The first error among outcomes. -/
def firstError? : List (Option (Except QueryError α)) → Option QueryError
  | [] => none
  | some (.error error) :: _ => some error
  | _ :: rest => firstError? rest

/-- The values of outcomes up to the first that is missing or an error; `none` while the outcome
that is due has not come in. -/
def deliver : List (Option (Except QueryError α)) → Option (Except QueryError (List α))
  | [] => some (.ok [])
  | none :: _ => none
  | some (.error error) :: _ => some (.error error)
  | some (.ok value) :: rest =>
    match deliver rest with
    | none => none
    | some (.error error) => some (.error error)
    | some (.ok values) => some (.ok (value :: values))

/-- The result that the outcomes so far settle: an error counts wherever it stands. -/
def settleEagerly (outcomes : List (Option (Except QueryError α))) :
    Option (Except QueryError (List α)) :=
  match firstError? outcomes with
  | some error => some (.error error)
  | none => deliver outcomes

/-- The result that the outcomes so far settle, for this number of sub-fetches. -/
def settle (outcomes : List (Option (Except QueryError α))) :
    Option (Except QueryError (List α)) :=
  if outcomes.length ≤ eagerLimit then settleEagerly outcomes else deliver outcomes

/-- Poll round after round until the result is settled. -/
def run : Nat → Nat → List (Slot α) → Option (Except QueryError (List α))
  | 0, _, _ => none
  | rounds + 1, round, slots =>
    let polled := pollAll round slots
    match settle (polled.map (·.2)) with
    | some result => some result
    | none => run rounds (round + 1) polled

/-- A number of rounds after which no sub-fetch answers any more. -/
def horizon (fetches : List (SubFetch α)) : Nat :=
  fetches.foldr (fun fetch rounds ↦ max ((fetch.readyAt.getD 0) + 1) rounds) 1

end Join

/-- The result of joining sub-fetches; `none` if it never comes. -/
def join (fetches : List (SubFetch α)) : Option (Except QueryError (List α)) :=
  Join.run (Join.horizon fetches) 0 (fetches.map fun fetch ↦ (fetch, none))

/-- The result of joining sub-fetches that all answer at once. -/
def joinNow (outcomes : List (Except QueryError α)) : Except QueryError (List α) :=
  (join (outcomes.map SubFetch.now)).getD (.ok [])

/-- The positions of sub-fetches in the order in which they answer. -/
def completionOrder (fetches : List (SubFetch α)) : List Nat :=
  (List.range (Join.horizon fetches)).flatMap fun round ↦
    (fetches.zipIdx.filter fun (fetch, _) ↦ fetch.readyAt == some round).map (·.2)

end ContextProvider
