import CatalogFinder.Number.Extended

/-!
# Numbers in the texts of a table

A text spells a number if it is decimal digits with a sign, a point and an exponent as they may come, and blanks
around them. Only as many leading digits count as fit into 64 bits.

* `Numeral` : the parts of a number as it is written, `Numeral.ofString?` : the parts that a text has;
* `Numeral.integer?` : the number if it is written as an integer that a table can hold;
* `Numeral.real` : the binary64 number that a table makes of it.
-/

namespace CatalogFinder

/-- A number as it is written: its digits before and behind the point, and its exponent. -/
structure Numeral where
  negative : Bool
  whole : List Nat
  fraction : List Nat
  exponent : Int
  /-- There is neither a point nor an exponent. -/
  plain : Bool
  deriving DecidableEq, Repr

/-- The greatest integer that a table can hold. -/
def maxInteger : Int := 0x7FFFFFFFFFFFFFFF

namespace Numeral

open Text (digitValue? isDigit)

/-! ## Reading -/

/-- The white space that may stand around a number. -/
def isGap (c : Char) : Bool := c == ' ' || ('\t' ≤ c && c ≤ '\r')

/-- A sign that may stand in front. -/
def splitSign : List Char → Bool × List Char
  | '+' :: rest => (false, rest)
  | '-' :: rest => (true, rest)
  | rest => (false, rest)

/-- The values of the digits in front, and the rest. -/
def splitDigits (cs : List Char) : List Nat × List Char :=
  ((cs.takeWhile isDigit).filterMap (digitValue? 10), cs.dropWhile isDigit)

/-- The size of an exponent; from the first digit on that it has beyond ten thousand, it stays there. -/
def exponentSize (digits : List Nat) : Nat := digits.foldl (fun n d => if n < 10000 then n * 10 + d else 10000) 0

/-- The exponent that ends a number, if there is one: none for malformed text. -/
def exponentOf? : List Char → Option Int
  | [] => some 0
  | c :: rest =>
    if c = 'e' || c = 'E' then
      let (negative, rest) := splitSign rest
      match splitDigits rest with
      | ([], _) => none
      | (digits, []) => some (if negative then -(exponentSize digits : Int) else exponentSize digits)
      | _ => none
    else none

/-- The parts of the number that a text spells. -/
def ofString? (s : String) : Option Numeral :=
  let cs := (((s.toList.dropWhile isGap).reverse).dropWhile isGap).reverse
  let (negative, cs) := splitSign cs
  let (whole, rest) := splitDigits cs
  let (fraction, tail) := match rest with
    | '.' :: rest => splitDigits rest
    | rest => ([], rest)
  if whole.isEmpty && fraction.isEmpty then none
  else (exponentOf? tail).map fun exponent => ⟨negative, whole, fraction, exponent, rest.isEmpty⟩

/-! ## Values -/

/-- A number from here on takes no more digits. -/
def fullFrom : Nat := (UInt64.size - 10) / 10

/-- A number with digits added until it takes no more, and how many digits are left. -/
def fill (n : Nat) : List Nat → Nat × Nat
  | [] => (n, 0)
  | d :: rest => if fullFrom ≤ n then (n, rest.length + 1) else fill (n * 10 + d) rest

/-- The binary64 number that a table makes of it. -/
def real (x : Numeral) : Binary64 :=
  let (n, left) := fill 0 x.whole
  let (n, leftOfFraction) := fill n x.fraction
  .ofDigits x.negative n (x.exponent + left - (x.fraction.length - leftOfFraction))

/-- The number if it is written as an integer that a table can hold. -/
def integer? (x : Numeral) : Option Int :=
  let n := Text.natOfDigits 10 x.whole
  let i : Int := if x.negative then -n else n
  if x.plain && -maxInteger - 1 ≤ i && i ≤ maxInteger then some i else none

end Numeral

end CatalogFinder
