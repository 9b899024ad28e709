/-!
# Blank characters and trimming

Wherever this library trims a text or asks whether it is blank, a blank character is one with
the Unicode property White_Space. The zero width space, the byte order mark and the separator
controls U+001C to U+001F do not have it. Trimming removes blanks from both ends and keeps
those inside.
-/

namespace ContextProvider.Text

/-- A character with the Unicode property White_Space. -/
def isBlankChar (c : Char) : Bool :=
  let n := c.toNat
  (9 ≤ n && n ≤ 13) || n == 0x20 || n == 0x85 || n == 0xA0 || n == 0x1680 ||
    (0x2000 ≤ n && n ≤ 0x200A) || n == 0x2028 || n == 0x2029 || n == 0x202F || n == 0x205F ||
    n == 0x3000

/-- The characters without the blanks in front. -/
def dropBlanks (s : List Char) : List Char :=
  s.dropWhile isBlankChar

/-- The characters without the blanks at either end. -/
def trimChars (s : List Char) : List Char :=
  (dropBlanks (dropBlanks s).reverse).reverse

/-- The text without the blanks at either end. -/
def trim (s : String) : String :=
  String.ofList (trimChars s.toList)

/-- A text of blanks only, the empty text included. -/
def isBlank (s : String) : Bool :=
  s.toList.all isBlankChar

end ContextProvider.Text
