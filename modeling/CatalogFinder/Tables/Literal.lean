import CatalogFinder.Session.Error
import CatalogFinder.Tables.Value

/-!
# Literals

A statement spells its values out: numbers in decimal digits, texts in quotes, bytes in hexadecimal digits. The digits
of a number are read as those of a text in a table are, and no text can be spelled that contains a zero character.

* `Literal.value?` : the value of a literal, or why the statement is refused.
-/

namespace CatalogFinder

/-- A value as a statement spells it. -/
inductive Literal where
  | null
  /-- An integer in all its digits. -/
  | integer (i : Int)
  /-- A number in the fewest digits that tell it from all others. -/
  | real (x : Binary64)
  | text (s : String)
  | blob (bytes : List UInt8)
  deriving DecidableEq, Repr

def Numeral.ofInt (i : Int) : Numeral where
  negative := i < 0
  whole := (Text.decimalDigits i.natAbs).filterMap (Text.digitValue? 10)
  fraction := []
  exponent := 0
  plain := true

namespace Literal

/-- The number that is read where the fewest digits of a number are written. -/
def reread (x : Binary64) : Binary64 :=
  match x.shortest with
  | some d => .ofDigits d.negative d.significand d.exponent
  | none => x

def value? : Literal → Except DatabaseError Value
  | null => .ok .null
  | integer i =>
    match (Numeral.ofInt i).integer? with
    | some i => .ok (.integer i)
    | none => .ok (.real (Numeral.ofInt i).real)
  | real x => .ok (.real (reread x))
  | text s => if s.toList.contains '\x00' then .error .unreadableStatement else .ok (.text s)
  | blob bytes => .ok (.blob bytes)

end Literal

end CatalogFinder
