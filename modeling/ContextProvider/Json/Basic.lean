import ContextProvider.Json.Numeric

/-!
# JSON values

The members of an object are kept in the order of their keys, each key once. Keys are ordered by
code point, which is also the order of their UTF-8 bytes.
-/

namespace ContextProvider

/-- A JSON value. -/
inductive Json where
  | null
  | bool (value : Bool)
  | number (value : Json.Numeric)
  | string (value : String)
  | array (items : List Json)
  | object (members : List (String × Json))

namespace Json

/-- An object on its own: keys in increasing order with their values. -/
abbrev Fields := List (String × Json)

/-- The value under a key. -/
def Fields.get? (fields : Fields) (key : String) : Option Json :=
  (fields.find? fun member ↦ member.1 == key).map (·.2)

/-- The fields with a value put under a key, replacing the one there. -/
def Fields.insert (fields : Fields) (key : String) (value : Json) : Fields :=
  match fields with
  | [] => [(key, value)]
  | (k, v) :: rest =>
    if key < k then (key, value) :: (k, v) :: rest
    else if key = k then (key, value) :: rest
    else (k, v) :: Fields.insert rest key value

/-- The fields of a list of members; of several members with one key the last counts. -/
def Fields.ofMembers (members : List (String × Json)) : Fields :=
  members.foldl (fun fields member ↦ Fields.insert fields member.1 member.2) []

/-- The fields of an object. -/
def fields? : Json → Option Fields
  | object members => some members
  | _ => none

/-- The value under a key, if this is an object that has it. -/
def member? (value : Json) (key : String) : Option Json :=
  value.fields?.bind fun fields ↦ fields.get? key

/-- The text of a string. -/
def string? : Json → Option String
  | string value => some value
  | _ => none

/-- A text as a JSON string, or null for none. -/
def ofText? : Option String → Json
  | some text => string text
  | none => null

/-- A natural as a JSON number. -/
def ofNat (n : Nat) : Json :=
  number (.integer n)

end Json

end ContextProvider
