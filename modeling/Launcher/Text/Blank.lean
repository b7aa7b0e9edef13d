/-!
# Blank characters

The characters with the Unicode property White_Space, and trimming by them.
-/

namespace Launcher.Text

/-- Whether a character has the Unicode property White_Space. -/
def isBlank (c : Char) : Bool :=
  let n := c.toNat
  (9 ≤ n && n ≤ 13) || n == 0x20 || n == 0x85 || n == 0xA0 || n == 0x1680 ||
    (0x2000 ≤ n && n ≤ 0x200A) || n == 0x2028 || n == 0x2029 || n == 0x202F || n == 0x205F ||
    n == 0x3000

/-- A list of characters without its blank ends. -/
def trimList (cs : List Char) : List Char :=
  ((cs.dropWhile isBlank).reverse.dropWhile isBlank).reverse

/-- A text without its blank ends. -/
def trim (s : String) : String := String.ofList (trimList s.toList)

/-- A text with its ASCII letters in lower case; all other characters stay. -/
def asciiLower (s : String) : String := String.ofList (s.toList.map Char.toLower)

end Launcher.Text
