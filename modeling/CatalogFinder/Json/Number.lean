import CatalogFinder.Json.Basic
import CatalogFinder.Text.Digits

/-!
# Numbers in JSON

A number is written as digits, perhaps with a fraction and an exponent. Its value is put together from the leading
digits that fit into 64 bits and one power of ten, with a rounding after each step: so it is not always the binary64
number nearest to what is written, and it may leave the range a little early.

* `Json.Numeral` : the parts of a number as it is written;
* `Json.Numeral.binary64?` : its value, unless it is out of range;
* `Json.ofNumeral` : the number as a JSON value.
-/

namespace CatalogFinder.Json

/-- A number as it is written. -/
structure Numeral where
  negative : Bool
  whole : List Nat
  fraction : Option (List Nat) := none
  exponent : Option Int := none
  deriving DecidableEq, Repr

namespace Numeral

/-- A number with digits added as long as it fits into 64 bits, and how many digits are left. -/
def fill (n : Nat) : List Nat → Nat × Nat
  | [] => (n, 0)
  | d :: rest => if n * 10 + d < UInt64.size then fill (n * 10 + d) rest else (n, rest.length + 1)

/-- The leading digits and the power of ten that they are multiplied with. -/
def scaled (x : Numeral) : Nat × Int :=
  let (n, left) := fill 0 x.whole
  let fraction := x.fraction.getD []
  let (n, leftOfFraction) := fill n fraction
  (n, x.exponent.getD 0 + left - (fraction.length - leftOfFraction))

/-- The greatest power of ten that is taken in one step. -/
def maxPower : Nat := 308

/-- The nearest number to a power of ten. -/
def powerOfTen (power : Nat) : Binary64 := .ofDecimal ⟨false, 1, power⟩

/-- A number with the point moved so many places to the left. -/
def lowered (x : Binary64) (places : Nat) : Binary64 :=
  if places ≤ maxPower then x.div (powerOfTen places)
  else if x = .zero false then x
  else lowered (x.div (powerOfTen maxPower)) (places - maxPower)
termination_by places
decreasing_by
  simp only [maxPower] at *
  omega

/-- The value without its sign, unless it is out of range. -/
def magnitude? (x : Numeral) : Option Binary64 :=
  let (n, power) := x.scaled
  if n = 0 then some (.zero false)
  else if power < 0 then some (lowered (.ofNat n) power.natAbs)
  else if maxPower < power then none
  else
    match (Binary64.ofNat n).mul (powerOfTen power.toNat) with
    | .infinite _ => none
    | y => some y

/-- The value, unless it is out of range. -/
def binary64? (x : Numeral) : Option Binary64 :=
  x.magnitude?.map fun y => if x.negative then y.neg else y

/-- The integer that is written, if there is neither a fraction nor an exponent; minus zero is none. -/
def integer? (x : Numeral) : Option Int :=
  let n := Text.natOfDigits 10 x.whole
  if x.fraction.isSome || x.exponent.isSome || (x.negative && n == 0) then none
  else some (if x.negative then -n else n)

end Numeral

/-- The value of a number: an integer if it is written as one that fits into 64 bits, with or without a sign. -/
def ofNumeral (x : Numeral) : Json :=
  match x.integer?, x.binary64? with
  | some i, y => if -0x8000000000000000 ≤ i && i < UInt64.size then integer i else (y.map real).getD illFormed
  | none, y => (y.map real).getD illFormed

end CatalogFinder.Json
