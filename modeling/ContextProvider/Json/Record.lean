import ContextProvider.Json.Tree

/-!
# Records

A record has declared fields. It is read from an object, where a declared field may stand once
and other members are passed over, or from an array that holds the fields in the order of their
declaration, where fields at the end may be missing.
-/

namespace ContextProvider.Json

/-- The declared fields found, by name. -/
abbrev Record := List (String × Tree)

/-- The field of the given name. -/
def Record.get? (record : Record) (name : String) : Option Tree :=
  (record.find? fun field ↦ field.1 == name).map (·.2)

/-- The declared members of an object; `none` if one is repeated or a key stands for no text. -/
def declaredMembers? (names : List String) :
    List (Option String × Tree) → Option Record
  | [] => some []
  | (none, _) :: _ => none
  | (some key, tree) :: rest => do
    let others ← declaredMembers? names rest
    if names.contains key then
      if (Record.get? others key).isSome then none else some ((key, tree) :: others)
    else some others

/-- The record of a tree, with the given room for nesting. -/
def Tree.record? (names : List String) (room : Nat) : Tree → Option Record
  | .object members => if room = 0 then none else declaredMembers? names members
  | .array items =>
    if room = 0 ∨ names.length < items.length then none else some (names.zip items)
  | _ => none

/-- A field that has to be there. -/
def Record.required (record : Record) (name : String) (read : Tree → Option α) : Option α :=
  (record.get? name).bind read

/-- A field that has a value of its own when it is missing. -/
def Record.defaulted (record : Record) (name : String) (value : α) (read : Tree → Option α) :
    Option α :=
  match record.get? name with
  | none => some value
  | some tree => read tree

/-- A text. -/
def Tree.text? : Tree → Option String
  | .string content => content
  | _ => none

/-- A text, or none for null. -/
def Tree.optionalText? : Tree → Option (Option String)
  | .null => some none
  | tree => tree.text?.map some

/-- A natural below the bound, written as an integer. -/
def Tree.natBelow? (bound : Nat) : Tree → Option Nat
  | .number literal =>
    match literal.value? with
    | some (.integer n) => if 0 ≤ n ∧ n < bound then some n.toNat else none
    | _ => none
  | _ => none

/-- The items of an array, each read with the room that is left. -/
def Tree.list? (room : Nat) (read : Nat → Tree → Option α) : Tree → Option (List α)
  | .array items => if room = 0 then none else items.mapM (read (room - 1))
  | _ => none

end ContextProvider.Json
