import CatalogFinder.Text.Digits

/-!
# Decimal numbers

A decimal number is a sign, an integer and a power of ten. `Decimal.plain` writes it without an exponent.
-/

namespace CatalogFinder

/-- The number `± significand * 10 ^ exponent`. -/
structure Decimal where
  negative : Bool
  significand : Nat
  exponent : Int
  deriving DecidableEq, Repr, Inhabited

namespace Decimal

def sign (d : Decimal) : List Char := if d.negative then ['-'] else []

def digitCount (d : Decimal) : Nat := (Text.decimalDigits d.significand).length

/-- The number rounds to a finite binary64 number: it stays below `2 ^ 1024 - 2 ^ 970`. -/
def isFinite (d : Decimal) : Bool :=
  let bound := Nat.pow 2 1024 - Nat.pow 2 970
  let magnitude : Int := d.digitCount + d.exponent
  if d.significand = 0 || magnitude < 309 then true
  else if 309 < magnitude then false
  else if 0 ≤ d.exponent then d.significand * Nat.pow 10 d.exponent.toNat < bound
  else d.significand < bound * Nat.pow 10 (-d.exponent).toNat

/-- The number in digits, with zeros where they are needed and a point only before a fraction. -/
def plain (d : Decimal) : List Char :=
  let digits := Text.decimalDigits d.significand
  if 0 ≤ d.exponent then d.sign ++ digits ++ List.replicate d.exponent.toNat '0'
  else
    let places := (-d.exponent).toNat
    let padded := List.replicate (places + 1 - digits.length) '0' ++ digits
    d.sign ++ padded.take (padded.length - places) ++ '.' :: padded.drop (padded.length - places)

/-- The same number without zeros at the end of the significand. -/
def trimmed (d : Decimal) : Decimal :=
  let zeros := ((Text.decimalDigits d.significand).reverse.takeWhile (· == '0')).length
  if d.significand = 0 then ⟨d.negative, 0, 0⟩
  else ⟨d.negative, d.significand / Nat.pow 10 zeros, d.exponent + zeros⟩

end Decimal

end CatalogFinder
