import CatalogFinder.Tables.Number
import CatalogFinder.Text.Blank
import CatalogFinder.Text.Utf8

/-!
# Values in tables

A cell of a table holds NULL, a number, a text or bytes. What is written into a column is first fitted to the
column's `Affinity`: numbers become text in a text column, texts that spell a number become one in an integer column.
Values are ordered NULL first, then numbers, texts by code points, and bytes.

* `Affinity.fit` : what a column makes of a value;
* `Value.cmp` : the order of values;
* `Value.text?` : the text that a reader gets, which NULL has not.
-/

namespace CatalogFinder

/-- A value in a table. -/
inductive Value where
  | null
  | integer (i : Int)
  | real (x : Binary64)
  | text (s : String)
  | blob (bytes : List UInt8)
  deriving DecidableEq, Repr

/-- The kind of values that a column prefers. -/
inductive Affinity where
  | text
  | integer
  deriving DecidableEq, Repr

namespace Value

/-- The order of byte sequences. -/
def cmpBytes : List UInt8 → List UInt8 → Ordering
  | [], [] => .eq
  | [], _ :: _ => .lt
  | _ :: _, [] => .gt
  | a :: as, b :: bs => (compare a b).then (cmpBytes as bs)

/-- The place of a value's kind in the order. -/
def rank : Value → Nat
  | null => 0
  | integer _ => 1
  | real _ => 1
  | text _ => 2
  | blob _ => 3

def cmp (a b : Value) : Ordering :=
  match a, b with
  | integer i, integer j => compare i j
  | integer i, real y => (y.cmpInt i).swap
  | real x, integer j => x.cmpInt j
  | real x, real y => x.cmp y
  | text s, text t => compare s t
  | blob s, blob t => cmpBytes s t
  | a, b => compare a.rank b.rank

/-- A real number as it is read from a table. -/
def realText (x : Binary64) : String :=
  match x.shortest, x with
  | some d, _ => String.ofList d.plain
  | none, .infinite true => "-inf"
  | none, _ => "inf"

/-- The text that a reader gets: the digits of a number, bytes as far as they are UTF-8; nothing for NULL. -/
def text? : Value → Option String
  | null => none
  | integer i => some (String.ofList (Text.intDigits i))
  | real x => some (realText x)
  | text s => some s
  | blob bytes => some (Text.decodeLossy bytes)

/-! ## Fitting -/

/-- A decimal number with one digit before the point and an exponent of at least two digits. -/
def scientific (d : Decimal) : List Char :=
  let digits := Text.decimalDigits d.significand
  let power : Int := d.exponent + digits.length - 1
  let tail := if digits.length = 1 then ['0'] else digits.drop 1
  let powerDigits := Text.decimalDigits power.natAbs
  d.sign ++ digits.take 1 ++ '.' :: tail ++ ['e', if power < 0 then '-' else '+'] ++
    List.replicate (2 - powerDigits.length) '0' ++ powerDigits

/-- A real number as a text column keeps it: fifteen significant digits, at least one of them behind the point, with
an exponent below a ten-thousandth and from `10 ^ 15` on. -/
def keptText (x : Binary64) : String :=
  match x.leadingDigits 15, x with
  | some d, _ =>
    let power : Int := d.exponent + d.digitCount - 1
    if d.significand = 0 then "0.0"
    else if power < -4 || 14 < power then String.ofList (scientific d)
    else if 0 ≤ d.exponent then String.ofList (d.plain ++ ['.', '0'])
    else String.ofList d.plain
  | none, .infinite true => "-Inf"
  | none, _ => "Inf"

/-- A real number in an integer column: an integer if it is one that fits. -/
def ofReal (x : Binary64) : Value :=
  match x.integer? with
  | some i => if -maxInteger ≤ i && i < maxInteger then integer i else real x
  | none => real x

/-- A text in an integer column. -/
def ofNumberText (s : String) : Value :=
  match Numeral.ofString? s with
  | none => text s
  | some x =>
    match x.integer? with
    | some i => integer i
    | none => ofReal x.real

end Value

/-- What a column makes of a value that is written into it. -/
def Affinity.fit (a : Affinity) (v : Value) : Value :=
  match a, v with
  | .text, .integer i => .text (String.ofList (Text.intDigits i))
  | .text, .real x => .text (Value.keptText x)
  | .integer, .text s => Value.ofNumberText s
  | .integer, .real x => Value.ofReal x
  | _, v => v

end CatalogFinder
