import CatalogFinder.Tables.Value
import CatalogFinder.Text.Compared
import CatalogFinder.Text.Like

/-!
# Masks

A mask is compared with the values of a column. Where values are looked up in the order of a key, the mask is split at
its first wildcard: only values with the literal `start` of the mask, byte for byte, are looked at, and if nothing but
a final `%` follows then nothing else is compared.

* `Value.isLike` : a value matches a mask;
* `Mask.selects` : a value that is looked up matches a mask, `Mask.compares` : it takes a comparison to tell.
-/

namespace CatalogFinder

namespace Value

/-- The characters of a value that are compared; NULL has none. -/
def comparedChars : Value → Option (List Char)
  | blob bytes => some (Text.comparedBytes bytes)
  | v => v.text?.map Text.compared

/-- The value matches the mask. NULL matches nothing. -/
def isLike (mask : String) (v : Value) : Bool := v.comparedChars.any (Text.likeChars .exact (Text.compared mask) ·)

end Value

namespace Mask

/-- The longest mask, in bytes, that values are compared with. -/
def maxSize : Nat := 50000

/-- The mask is too long to compare a value with. -/
def isTooLong (mask : String) : Bool := maxSize < mask.utf8ByteSize

/-- The part of a mask that counts. -/
def visible (mask : String) : List Char := mask.toList.takeWhile (· ≠ '\x00')

/-- The characters of a mask before its first wildcard. -/
def start (mask : String) : List Char := (visible mask).takeWhile fun c => c != '%' && c != '_'

/-- Nothing but a final `%` follows the start. -/
def isStartOnly (mask : String) : Bool := visible mask = start mask ++ ['%']

/-- The value begins with the start of the mask. -/
def begins (mask : String) : Value → Bool
  | .text s => (start mask).isPrefixOf s.toList
  | .blob bytes => (Text.encode (String.ofList (start mask))).isPrefixOf bytes
  | _ => (start mask).isEmpty

/-- A value that is looked up has to be compared with the mask. -/
def compares (mask : String) (v : Value) : Bool :=
  begins mask v && ((start mask).isEmpty || !isStartOnly mask)

/-- A value that is looked up matches the mask. -/
def selects (mask : String) (v : Value) : Bool := begins mask v && (!compares mask v || v.isLike mask)

end Mask

end CatalogFinder
