import ContextProvider.Toml.Basic

/-!
# Records in TOML

A record has declared fields. It is read from a table, in which other members do not count, or
from a list that holds the fields in the order of their declaration, where fields at the end may
be missing and further items do not count.
-/

namespace ContextProvider.Toml

/-- The declared fields of a record that are given, by name. -/
abbrev Record := List (String × Toml)

/-- The field of the given name. -/
def Record.get? (record : Record) (name : String) : Option Toml :=
  record.lookup name

/-- The record of a value. -/
def record? (names : List String) : Toml → Option Record
  | array items => some (names.zip items)
  | value => value.members?.map fun members ↦
      members.filter fun member ↦ names.contains member.1

/-- A field that has to be there. -/
def Record.required (record : Record) (name : String) (read : Toml → Option α) : Option α :=
  (record.get? name).bind read

/-- A field that has a value of its own when it is missing. -/
def Record.defaulted (record : Record) (name : String) (value : α) (read : Toml → Option α) :
    Option α :=
  match record.get? name with
  | none => some value
  | some given => read given

/-- A text. -/
def text? : Toml → Option String
  | string value => some value
  | _ => none

/-- A natural below the bound. -/
def natBelow? (bound : Nat) : Toml → Option Nat
  | integer n => if 0 ≤ n ∧ n < bound then some n.toNat else none
  | _ => none

/-- The items of a list, each read on its own. -/
def list? (read : Toml → Option α) : Toml → Option (List α)
  | array items => items.mapM read
  | _ => none

end ContextProvider.Toml
