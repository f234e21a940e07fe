/-!
# Text as it is compared with masks

A database compares the characters before the first zero character, and takes the last two code points of the first
plane for the replacement character. It compares bytes too, as characters that are read more loosely than UTF-8: a byte
that starts a character is continued by as many bytes as may continue one, and a byte that continues nothing is a
character of its own.

* `compared` : the characters of a text;
* `comparedBytes` : the characters of bytes.
-/

namespace CatalogFinder.Text

def replacement : Char := '\uFFFD'

/-- The character that nothing is compared with, since it is always replaced. -/
def incomparable : Char := '\uFFFF'

/-- A character of a text. -/
def comparedChar (c : Char) : Char := if c = '\uFFFE' || c = '\uFFFF' then replacement else c

/-- The characters of a text. -/
def compared (s : String) : List Char := (s.toList.takeWhile (· ≠ '\x00')).map comparedChar

/-! ## Bytes -/

/-- The byte may continue a character. -/
def isContinuation (b : UInt8) : Bool := 0x80 ≤ b && b < 0xC0

/-- The bits that a byte gives to the character that it starts: those behind its leading ones. -/
def startingBits (b : UInt8) : Nat :=
  let n := b.toNat
  if n < 0xE0 then n % 0x20
  else if n < 0xF0 then n % 0x10
  else if n < 0xF8 then n % 0x08
  else if n < 0xFC then n % 0x04
  else if n < 0xFE then n % 0x02
  else 0

/-- The code of a starting byte with the bytes that continue it, in 32 bits. -/
def looseCode (first : UInt8) (more : List UInt8) : Nat :=
  more.foldl (fun code b => (code * 0x40 + b.toNat % 0x40) % UInt32.size) (startingBits first)

/-- The character of a code. An ASCII character is replaced, since one byte would do for it, and so is half of a
surrogate pair. -/
def looseChar (code : Nat) : Char :=
  if code < 0x80 || (0xD800 ≤ code && code < 0xE000) then replacement
  else if code.isValidChar then comparedChar (Char.ofNat code)
  else incomparable

/-- The characters of bytes, none of which is zero. -/
def looseChars : List UInt8 → List Char
  | [] => []
  | b :: rest =>
    if b < 0xC0 then Char.ofNat b.toNat :: looseChars rest
    else looseChar (looseCode b (rest.takeWhile isContinuation)) :: looseChars (rest.dropWhile isContinuation)
termination_by bytes => bytes.length
decreasing_by
  · simp
  · exact Nat.lt_succ_of_le ((List.dropWhile_suffix _).length_le)

/-- The characters of bytes. -/
def comparedBytes (bytes : List UInt8) : List Char := looseChars (bytes.takeWhile (· ≠ 0))

end CatalogFinder.Text
