import CatalogFinder.Number.Binary64

/-!
# Numbers of 64 bits

Databases turn decimal digits into binary64 numbers, and back, by way of numbers with a mantissa of 64 bits. Such a
number is multiplied by powers of ten, a hundred, ten and one place at a time, and every product is rounded. So the
outcome is not always the nearest number.

* `Extended.mul` : a product, rounded to 64 bits;
* `Binary64.ofDigits` : the binary64 number that a database makes of digits and a power of ten;
* `Binary64.leadingDigits` : the digits that a database makes of a binary64 number.
-/

namespace CatalogFinder

/-- The positive number `mantissa * 2 ^ exponent`, whose mantissa has at most 64 significant bits. -/
structure Extended where
  mantissa : Nat
  exponent : Int
  deriving DecidableEq, Repr

namespace Extended

open Binary64 (Quotient scaled nearest)

/-- The nearest number to a positive quotient. -/
def ofQuotient (q : Quotient) : Extended :=
  let guess : Int := 64 - ((q.1.log2 : Int) - q.2.log2)
  let floor := scaled q 2 guess
  let shift := if Nat.pow 2 64 ≤ floor.1 / floor.2 then guess - 1 else guess
  ⟨nearest (scaled q 2 shift), -shift⟩

/-- The nearest number to `10 ^ power`. -/
def powerOfTen (power : Int) : Extended := ofQuotient (scaled (1, 1) 10 power)

def mul (x y : Extended) : Extended :=
  ofQuotient (scaled (x.mantissa * y.mantissa, 1) 2 (x.exponent + y.exponent))

def lt (x y : Extended) : Bool :=
  let low := min x.exponent y.exponent
  x.mantissa * Nat.pow 2 (x.exponent - low).toNat < y.mantissa * Nat.pow 2 (y.exponent - low).toNat

def floor (x : Extended) : Nat :=
  let q := scaled (x.mantissa, 1) 2 x.exponent
  q.1 / q.2

/-- The number moved so many decimal places, to the left or to the right: by a hundred at a time, then by ten, then by
one. -/
def moved (right : Bool) (places : Nat) (x : Extended) : Extended :=
  let step (size : Int) : Extended → Extended := (mul · (powerOfTen (if right then -size else size)))
  Nat.repeat (step 1) (places % 10) (Nat.repeat (step 10) (places / 10 % 10) (Nat.repeat (step 100) (places / 100) x))

/-- Moves a number by so many places as long as it passes a test, and counts the places; at most `times` times. -/
def moveWhile (test : Extended → Bool) (size : Int) : Nat → Extended × Int → Extended × Int
  | 0, found => found
  | times + 1, (x, places) =>
    if test x then moveWhile test size times (x.mul (powerOfTen (-size)), places + size) else (x, places)

/-- The number moved to where it has eighteen or nineteen digits before the point, and by how many places. -/
def aligned (x : Extended) : Extended × Int :=
  let atLeast (power : Int) (x : Extended) : Bool := !x.lt (powerOfTen power)
  let below (power : Int) (x : Extended) : Bool := x.lt (powerOfTen power)
  if atLeast 19 x then
    moveWhile (atLeast 19) 1 20 (moveWhile (atLeast 29) 10 20 (moveWhile (atLeast 119) 100 20 (x, 0)))
  else
    moveWhile (below 17) (-1) 20 (moveWhile (below 7) (-10) 20 (moveWhile (below (-97)) (-100) 20 (x, 0)))

end Extended

namespace Binary64

/-- The greatest finite number. -/
def greatest : Extended := ⟨Nat.pow 2 53 - 1, 971⟩

/-- The nearest number to a number of 64 bits; whatever is beyond the greatest finite number is infinite. -/
def ofExtended (negative : Bool) (x : Extended) : Binary64 :=
  if greatest.lt x then infinite negative else ofQuotient negative (scaled (x.mantissa, 1) 2 x.exponent)

/-- Multiplies by ten while the number stays within 64 bits; what is left of the power of ten. -/
def raised : Nat → Nat → Nat × Nat
  | 0, n => (n, 0)
  | power + 1, n => if UInt64.size / 10 ≤ n then (n, power + 1) else raised power (n * 10)

/-- Divides by ten while no digit is lost; what is left of the negative power of ten. -/
def lowered : Nat → Nat → Nat × Nat
  | 0, n => (n, 0)
  | power + 1, n => if n % 10 = 0 then lowered power (n / 10) else (n, power + 1)

/-- The number that a database makes of an integer of at most 64 bits and a power of ten. -/
def ofDigits (negative : Bool) (n : Nat) (power : Int) : Binary64 :=
  if n = 0 then zero negative
  else
    let right := power < 0
    let (n, places) := if right then lowered power.natAbs n else raised power.natAbs n
    if places = 0 then ofQuotient negative (n, 1)
    else ofExtended negative (.moved right places (.ofQuotient (n, 1)))

/-- So many leading digits of a number that is not zero, a half rounded up, with the zeros that end them cut off; none
for an infinity. -/
def leadingDigits (count : Nat) (x : Binary64) : Option Decimal :=
  match x with
  | finite negative mantissa exponent =>
    if mantissa = 0 then some ⟨negative, 0, 0⟩
    else
      let (y, places) := Extended.aligned (.ofQuotient (quotient mantissa exponent))
      let digits := y.floor
      let extra := (Text.decimalDigits digits).length - count
      let unit := Nat.pow 10 extra
      some (Decimal.trimmed ⟨negative, (2 * digits + unit) / (2 * unit), places + extra⟩)
  | infinite _ => none

end Binary64

end CatalogFinder
