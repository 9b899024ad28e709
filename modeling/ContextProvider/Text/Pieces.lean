/-!
# Pieces between separators

A separator character cuts a text into pieces: one piece more than there are separators, empty
ones included, so that a text without the separator is its own single piece. Joining the pieces
with the separator gives the text back.
-/

namespace ContextProvider.Text

/-- The pieces of the characters between occurrences of the separator. -/
def piecesChars (separator : Char) : List Char → List (List Char)
  | [] => [[]]
  | c :: rest =>
    if c = separator then [] :: piecesChars separator rest
    else match piecesChars separator rest with
      | [] => [[c]]
      | piece :: more => (c :: piece) :: more

/-- The pieces of a text between occurrences of the separator. -/
def pieces (separator : Char) (s : String) : List String :=
  (piecesChars separator s.toList).map String.ofList

/-- The texts one after another with the separator between neighbours. -/
def joined (separator : String) (texts : List String) : String :=
  String.intercalate separator texts

end ContextProvider.Text
