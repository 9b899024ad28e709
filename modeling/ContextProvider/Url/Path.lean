import ContextProvider.Url.Encoding

/-!
# Paths

A path is the list of its encoded segments, so that an empty last segment is a trailing slash. A
segment of one dot stands for the place where it is and one of two dots for the place above, also
when the dots are encoded; such segments are resolved and never part of a path.
-/

namespace ContextProvider.Url

open Text

/-- The number of dots in a segment that consists of dots, plain or encoded. -/
def dotCount? : List Char → Option Nat
  | [] => some 0
  | '.' :: rest => (dotCount? rest).map (· + 1)
  | '%' :: '2' :: e :: rest => if e = 'e' ∨ e = 'E' then (dotCount? rest).map (· + 1) else none
  | _ => none

/-- A segment that stands for the place where it is. -/
def isHere (segment : String) : Bool :=
  dotCount? segment.toList == some 1

/-- A segment that stands for the place above. -/
def isAbove (segment : String) : Bool :=
  dotCount? segment.toList == some 2

/-- The path behind a segment with a slash after it. -/
def enter (path : List String) (segment : String) : List String :=
  if isAbove segment then path.dropLast
  else if isHere segment then path
  else path ++ [segment]

/-- The path that ends with a segment. -/
def finish (path : List String) (segment : String) : List String :=
  if isAbove segment then path.dropLast ++ [""]
  else if isHere segment then path ++ [""]
  else path ++ [segment]

/-- The path behind the one given with further segments, the last of which ends it. -/
def resolveFrom (path : List String) : List String → List String
  | [] => path
  | [last] => finish path last
  | segment :: rest => resolveFrom (enter path segment) rest

/-- The path of segments as they are written. -/
def resolve (segments : List String) : List String :=
  resolveFrom [] segments

/-! ## Adding segments -/

/-- The encoded segment for a text; tabs and line ends disappear. -/
def encodeSegment (special : Bool) (text : String) : String :=
  encodeChars (keepInSegment special) (dropLineBlanks text.toList)

/-- The path without a trailing slash, unless it is the root. -/
def dropTrailingSlash (path : List String) : List String :=
  if path.getLast? = some "" ∧ path ≠ [""] then path.dropLast else path

/-- The path with one more segment. A text that is one dot or two dots is left out; one that
reads so only after its tabs and line ends have disappeared is resolved. -/
def push (special : Bool) (path : List String) (text : String) : List String :=
  if text = "." ∨ text = ".." then path
  else finish (if path = [""] then [] else path) (encodeSegment special text)

/-- The path with further segments in place of a trailing slash. -/
def extend (special : Bool) (path texts : List String) : List String :=
  texts.foldl (push special) (dropTrailingSlash path)

/-- The path as it is written. -/
def pathText (path : List String) : String :=
  String.join (path.map ("/" ++ ·))

end ContextProvider.Url
