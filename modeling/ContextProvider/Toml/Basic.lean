import ContextProvider.Json.Basic

/-!
# TOML values

A document is a table. A date or time is kept as the text it is printed as; where a table is asked
for, it is a table of one member. A float need not be finite; as a JSON value it is null unless it
is.
-/

namespace ContextProvider

/-- A TOML value. -/
inductive Toml where
  | string (value : String)
  | integer (value : Int)
  | float (value : Number.Double)
  | boolean (value : Bool)
  | datetime (text : String)
  | array (items : List Toml)
  | table (members : List (String × Toml))

namespace Toml

/-- The key of the one member that a date or time has as a table. -/
def datetimeKey : String := "$__toml_private_datetime"

/-- The members of a table, or of what counts as one. -/
def members? : Toml → Option (List (String × Toml))
  | table members => some members
  | datetime text => some [(datetimeKey, string text)]
  | _ => none

mutual

/-- A value as a JSON value. -/
def toJson : Toml → Json
  | string value => .string value
  | integer value => .number (.integer value)
  | float (.finite value) => .number (.double value)
  | float _ => .null
  | boolean value => .bool value
  | datetime text => .object [(datetimeKey, .string text)]
  | array items => .array (itemsToJson items)
  | table members => .object (Json.Fields.ofMembers (membersToJson members))

/-- Several values as JSON values. -/
def itemsToJson : List Toml → List Json
  | [] => []
  | item :: rest => toJson item :: itemsToJson rest

/-- Several members with JSON values. -/
def membersToJson : List (String × Toml) → List (String × Json)
  | [] => []
  | (key, value) :: rest => (key, toJson value) :: membersToJson rest

end

end Toml

end ContextProvider
