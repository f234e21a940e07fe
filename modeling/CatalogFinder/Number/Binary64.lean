import CatalogFinder.Number.Decimal

/-!
# Binary64 numbers

A finite number is kept exactly, as a mantissa below `2 ^ 53` times a power of two. Decimal numbers round to the
nearest one, a tie to the even mantissa.

* `Binary64.ofDecimal` : the nearest number;
* `Binary64.mul`, `Binary64.div` : products and quotients, rounded once;
* `Binary64.shortest` : the fewest decimal digits that round back to the number, nearest to it;
* `Binary64.integer?` : the integer that the number is.
-/

namespace CatalogFinder

/-- A binary64 number that is not NaN. -/
inductive Binary64 where
  | finite (negative : Bool) (mantissa : Nat) (exponent : Int)
  | infinite (negative : Bool)
  deriving DecidableEq, Repr

namespace Binary64

/-- A quotient of natural numbers. -/
abbrev Quotient := Nat × Nat

/-- The quotient times a power. -/
def scaled (q : Quotient) (base : Nat) (power : Int) : Quotient :=
  if 0 ≤ power then (q.1 * Nat.pow base power.toNat, q.2) else (q.1, q.2 * Nat.pow base (-power).toNat)

/-- The quotient rounded to the nearest integer, a tie to the even one. -/
def nearest (q : Quotient) : Nat :=
  let floor := q.1 / q.2
  let twice := 2 * (q.1 % q.2)
  if twice < q.2 || (twice == q.2 && floor % 2 == 0) then floor else floor + 1

/-- The power of two by which the nearest number to a quotient scales its mantissa. -/
def exponentOf (q : Quotient) : Int :=
  let low := max ((q.1.log2 : Int) - q.2.log2 - 53) (-1074)
  let floor := scaled q 2 (-low)
  if Nat.pow 2 53 ≤ floor.1 / floor.2 then low + 1 else low

/-- The nearest number to a quotient. -/
def ofQuotient (negative : Bool) (q : Quotient) : Binary64 :=
  let exponent := exponentOf q
  let mantissa := nearest (scaled q 2 (-exponent))
  let (mantissa, exponent) := if mantissa = Nat.pow 2 53 then (Nat.pow 2 52, exponent + 1) else (mantissa, exponent)
  if 971 < exponent then infinite negative else finite negative mantissa exponent

/-- The nearest number to a decimal number. -/
def ofDecimal (d : Decimal) : Binary64 :=
  let magnitude : Int := d.digitCount + d.exponent
  if d.significand = 0 || magnitude < -330 then finite d.negative 0 (-1074)
  else if 310 < magnitude then infinite d.negative
  else ofQuotient d.negative (scaled (d.significand, 1) 10 d.exponent)

/-- The magnitude of a finite number. -/
def quotient (mantissa : Nat) (exponent : Int) : Quotient := scaled (mantissa, 1) 2 exponent

def zero (negative : Bool) : Binary64 := finite negative 0 (-1074)

def ofNat (n : Nat) : Binary64 := if n = 0 then zero false else ofQuotient false (n, 1)

def neg : Binary64 → Binary64
  | finite negative mantissa exponent => finite (!negative) mantissa exponent
  | infinite negative => infinite (!negative)

def mul (x y : Binary64) : Binary64 :=
  match x, y with
  | finite a m e, finite b n f =>
    if m * n = 0 then zero (a != b) else ofQuotient (a != b) (quotient (m * n) (e + f))
  | finite a _ _, infinite b => infinite (a != b)
  | infinite a, finite b _ _ => infinite (a != b)
  | infinite a, infinite b => infinite (a != b)

/-- The quotient of two numbers, of which the second is not zero. -/
def div (x y : Binary64) : Binary64 :=
  match x, y with
  | finite a m e, finite b n f =>
    if m = 0 then zero (a != b) else ofQuotient (a != b) (scaled (m, n) 2 (e - f))
  | finite a _ _, infinite b => zero (a != b)
  | infinite a, finite b _ _ => infinite (a != b)
  | infinite a, infinite b => infinite (a != b)

/-- The integer that the number is, if it is one. -/
def integer? : Binary64 → Option Int
  | finite negative mantissa exponent =>
    let q := quotient mantissa exponent
    if q.1 % q.2 = 0 then some (if negative then -(q.1 / q.2 : Nat) else (q.1 / q.2 : Nat)) else none
  | infinite _ => none

/-- The power of ten of the first digit of a positive quotient. -/
def leadingPower (q : Quotient) : Int :=
  let guess : Int := (Text.decimalDigits q.1).length - (Text.decimalDigits q.2).length
  let unit := scaled q 10 (-guess)
  if unit.2 ≤ unit.1 then guess else guess - 1

/-- The neighbours of a number among the decimals of so many digits that round back to it, the nearer one first
and of two at one distance the greater. -/
def candidates (x : Binary64) (negative : Bool) (q : Quotient) (digits : Nat) : List Decimal :=
  let power := leadingPower q - digits + 1
  let unit := scaled q 10 (-power)
  let below : Decimal := ⟨negative, unit.1 / unit.2, power⟩
  let above : Decimal := ⟨negative, unit.1 / unit.2 + 1, power⟩
  let both := if 2 * (unit.1 % unit.2) < unit.2 then [below, above] else [above, below]
  both.filter fun d => ofDecimal d = x

/-- The shortest decimal that rounds back to a number other than zero. -/
def shortestOf (x : Binary64) (negative : Bool) (q : Quotient) : Option Decimal :=
  (List.range 17).findSome? fun n => (candidates x negative q (n + 1)).head?

/-- The fewest digits that round back to the number, with the zeros that end them cut off; none for an infinity. -/
def shortest (x : Binary64) : Option Decimal :=
  match x with
  | finite negative mantissa exponent =>
    if mantissa = 0 then some ⟨negative, 0, 0⟩
    else (shortestOf x negative (quotient mantissa exponent)).map Decimal.trimmed
  | infinite _ => none

/-- The number as a signed quotient; an infinity is beyond all others. -/
def signedQuotient : Binary64 → Int × Nat
  | finite negative mantissa exponent =>
    let q := quotient mantissa exponent
    (if negative then -(q.1 : Int) else q.1, q.2)
  | infinite negative => (if negative then -(Nat.pow 2 1024 : Int) else Nat.pow 2 1024, 1)

def cmp (x y : Binary64) : Ordering :=
  let a := x.signedQuotient
  let b := y.signedQuotient
  compare (a.1 * b.2) (b.1 * a.2)

def cmpInt (x : Binary64) (i : Int) : Ordering :=
  let a := x.signedQuotient
  compare a.1 (i * a.2)

end Binary64

end CatalogFinder
