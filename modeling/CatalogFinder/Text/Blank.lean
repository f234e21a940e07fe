/-!
# Blank characters

`isBlank` is the White_Space property of Unicode; `trim` and `trimEnd` cut it off the ends of a text.
-/

namespace CatalogFinder.Text

/-- The character is white space. -/
def isBlank (c : Char) : Bool :=
  let n := c.toNat
  (9 ≤ n && n ≤ 13) || n == 0x20 || n == 0x85 || n == 0xA0 || n == 0x1680 || (0x2000 ≤ n && n ≤ 0x200A) ||
    n == 0x2028 || n == 0x2029 || n == 0x202F || n == 0x205F || n == 0x3000

def trimEndChars (cs : List Char) : List Char :=
  (cs.reverse.dropWhile isBlank).reverse

def trimEnd (s : String) : String :=
  String.ofList (trimEndChars s.toList)

def trim (s : String) : String :=
  String.ofList (trimEndChars (s.toList.dropWhile isBlank))

end CatalogFinder.Text
