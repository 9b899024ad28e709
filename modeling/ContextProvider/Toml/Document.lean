import ContextProvider.Toml.Basic

/-!
# Putting a document together

A document grows by headers and by keys with values. What has been written as a whole is closed: a
value, an inline table included, has no further members. A table that a header names may be named
only once; one that is merely on the way to another may still be named. A table that a dotted key
has made takes members from dotted keys only. A header in double brackets adds a table to a list,
and a name that leads through such a list leads to its last table.
-/

namespace ContextProvider.Toml

/-- How a table has come about: by its own header, on the way to another header's table, or by a
dotted key. -/
inductive Origin where
  | header
  | passage
  | dotted
  deriving DecidableEq

/-- A part of a document that is being put together. -/
inductive Part where
  | value (value : Toml)
  | table (origin : Origin) (members : List (String × Part))
  | tables (items : List (List (String × Part)))

/-- The members of a table that is being put together. -/
abbrev Members := List (String × Part)

namespace Members

/-- The part under a key. -/
def get? (members : Members) (key : String) : Option Part :=
  members.lookup key

/-- The members with a part put under a key. -/
def set (members : Members) (key : String) (part : Part) : Members :=
  if (members.get? key).isSome then
    members.map fun member ↦ if member.1 = key then (key, part) else member
  else members ++ [(key, part)]

/-- The members after a change to the table that the keys of a header lead to; tables on the way
are made where they are missing. -/
def changeAt (change : Members → Option Members) : List String → Members → Option Members
  | [], members => change members
  | key :: path, members =>
    match members.get? key with
    | none => (changeAt change path []).map fun inner ↦ members.set key (.table .passage inner)
    | some (.table origin inner) =>
      (changeAt change path inner).map fun inner ↦ members.set key (.table origin inner)
    | some (.tables items) =>
      match items.getLast? with
      | none => none
      | some last => (changeAt change path last).map fun inner ↦
          members.set key (.tables (items.dropLast ++ [inner]))
    | some (.value _) => none

/-- The members with a new value under a key. -/
def add (members : Members) (key : String) (value : Toml) : Option Members :=
  if (members.get? key).isSome then none else some (members.set key (.value value))

/-- The members with a new value under a dotted key; the tables on the way are not those of
headers, and the last of them is one of dotted keys. -/
def addDotted (key : String) (value : Toml) : List String → Members → Option Members
  | [], members => members.add key value
  | first :: path, members =>
    match members.get? first with
    | none =>
      (addDotted key value path []).map fun inner ↦ members.set first (.table .dotted inner)
    | some (.table origin inner) =>
      if origin = .header ∨ (path.isEmpty ∧ origin ≠ .dotted) then none
      else (addDotted key value path inner).map fun inner ↦
        members.set first (.table origin inner)
    | some (.tables items) =>
      match path, items.getLast? with
      | _ :: _, some last => (addDotted key value path last).map fun inner ↦
          members.set first (.tables (items.dropLast ++ [inner]))
      | _, _ => none
    | some (.value _) => none

/-- The members with a table that a header names. -/
def nameTable (key : String) (members : Members) : Option Members :=
  match members.get? key with
  | none => some (members.set key (.table .header []))
  | some (.table .passage inner) => some (members.set key (.table .header inner))
  | some _ => none

/-- The members with a further table in the list that a header names. -/
def nameItem (key : String) (members : Members) : Option Members :=
  match members.get? key with
  | none => some (members.set key (.tables [[]]))
  | some (.tables items) => some (members.set key (.tables (items ++ [[]])))
  | some _ => none

end Members

mutual

/-- A part as a value. -/
def Part.toToml : Part → Toml
  | .value value => value
  | .table _ members => .table (partsToToml members)
  | .tables items => .array (itemsToToml items)

/-- Members with their values. -/
def partsToToml : List (String × Part) → List (String × Toml)
  | [] => []
  | (key, part) :: rest => (key, part.toToml) :: partsToToml rest

/-- The tables of a list as values. -/
def itemsToToml : List (List (String × Part)) → List Toml
  | [] => []
  | item :: rest => .table (partsToToml item) :: itemsToToml rest

end

/-- A document that is being put together: its members, and the table that keys belong to. -/
structure Draft where
  members : Members
  current : List String

namespace Draft

/-- Nothing yet. -/
def empty : Draft := ⟨[], []⟩

/-- The draft with a value under a key of the current table. -/
def addValue (draft : Draft) (path : List String) (key : String) (value : Toml) : Option Draft :=
  (Members.changeAt (Members.addDotted key value path) draft.current draft.members).map
    fun members ↦ { draft with members }

/-- The draft behind a header, which names a table or an item of a list of tables. -/
def addHeader (draft : Draft) (isItem : Bool) (path : List String) (key : String) : Option Draft :=
  let change := if isItem then Members.nameItem key else Members.nameTable key
  (Members.changeAt change path draft.members).map fun members ↦
    { members, current := path ++ [key] }

/-- The document. -/
def toToml (draft : Draft) : Toml :=
  .table (partsToToml draft.members)

end Draft

end ContextProvider.Toml
