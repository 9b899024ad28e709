import ContextProvider.Url.Reader

/-!
# Request targets

A request names what it asks for by a path, or by a whole URL with scheme and host. Both may go on
with a query and a fragment, which choose no route; neither does the host. A URL that ends with its
host asks for the path of a single slash. Any other target, such as a host and a port number, has
an empty path, which no route matches.
-/

namespace ContextProvider.RequestTarget

/-- What comes before the query and the fragment. -/
def beforeQuery (s : List Char) : List Char :=
  s.takeWhile fun c ↦ !Url.isPathEnd c

/-- What follows the host of a target that names scheme and host. -/
def afterHost? (target : List Char) : Option (List Char) :=
  match target.dropWhile Url.isSchemeChar with
  | ':' :: '/' :: '/' :: rest => some (rest.dropWhile fun c ↦ c ≠ '/' ∧ !Url.isPathEnd c)
  | _ => none

/-- The path of a target in characters. -/
def pathChars (target : List Char) : List Char :=
  match target with
  | '/' :: _ => beforeQuery target
  | _ =>
    match (afterHost? target).map beforeQuery with
    | none => []
    | some [] => ['/']
    | some path => path

/-- The path of a target. -/
def path (target : String) : String :=
  String.ofList (pathChars target.toList)

end ContextProvider.RequestTarget
