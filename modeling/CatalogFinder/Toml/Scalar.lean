import CatalogFinder.Toml.Basic

/-!
# Numbers, dates and truth values in TOML

Scalars that stand without quotes. Digits may be parted by single underscores; a decimal integer has no leading zero;
hexadecimal, octal and binary integers have a mark and no sign. Dates have to be in the calendar.
-/

namespace CatalogFinder.Toml

open Text (digitValue? natOfDigits isDigit)

/-! ## Integers -/

/-- Digits of a base, parted by single underscores. -/
def digits? (base : Nat) : List Char → Option (List Nat)
  | [c] => (digitValue? base c).map ([·])
  | c :: '_' :: d :: rest => do
    let n ← digitValue? base c
    return n :: (← digits? base (d :: rest))
  | c :: rest => do
    let n ← digitValue? base c
    return n :: (← digits? base rest)
  | [] => none

/-- The digits of a decimal number without a leading zero. -/
def wholeDigits? (cs : List Char) : Option (List Nat) := do
  let digits ← digits? 10 cs
  guard (digits.length = 1 || digits.head? ≠ some 0)
  return digits

/-- A sign in front, and the rest. -/
def splitSign : List Char → Bool × List Char
  | '+' :: rest => (false, rest)
  | '-' :: rest => (true, rest)
  | rest => (false, rest)

/-- The integer that a scalar spells. -/
def integer? (cs : List Char) : Option Int :=
  match cs with
  | '0' :: 'x' :: rest => (digits? 16 rest).map fun ds => (natOfDigits 16 ds : Int)
  | '0' :: 'o' :: rest => (digits? 8 rest).map fun ds => (natOfDigits 8 ds : Int)
  | '0' :: 'b' :: rest => (digits? 2 rest).map fun ds => (natOfDigits 2 ds : Int)
  | cs =>
    let (negative, rest) := splitSign cs
    (wholeDigits? rest).map fun ds =>
      let n : Int := natOfDigits 10 ds
      if negative then -n else n

/-- The integers that a document may hold. -/
def inRange (i : Int) : Bool := -(Nat.pow 2 127 : Int) ≤ i && i < (Nat.pow 2 128 : Int)

/-! ## Floats -/

/-- The number with a fraction or an exponent that a scalar spells. -/
def decimal? (cs : List Char) : Option Decimal := do
  let (negative, rest) := splitSign cs
  let isExponentMark (c : Char) : Bool := c == 'e' || c == 'E'
  let mantissa := rest.takeWhile (!isExponentMark ·)
  let whole ← wholeDigits? (mantissa.takeWhile (· != '.'))
  let fraction ← match mantissa.dropWhile (· != '.') with
    | '.' :: fraction => digits? 10 fraction
    | _ => some []
  let exponent ← match rest.dropWhile (!isExponentMark ·) with
    | _ :: exponent =>
      let (below, exponent) := splitSign exponent
      (digits? 10 exponent).map fun ds =>
        let n : Int := natOfDigits 10 ds
        if below then -n else n
    | [] => if fraction.isEmpty then none else some (0 : Int)
  return ⟨negative, natOfDigits 10 (whole ++ fraction), exponent - fraction.length⟩

/-- The infinity or NaN that a scalar spells. -/
def isSpecialFloat (cs : List Char) : Bool :=
  let (_, rest) := splitSign cs
  rest == "inf".toList || rest == "nan".toList

/-! ## Dates and times -/

/-- A number of so many digits, and the rest. -/
def fixed? (count : Nat) (cs : List Char) : Option (Nat × List Char) := do
  let digits := cs.take count
  guard (digits.length = count)
  return (← Text.natOfChars? 10 digits, cs.drop count)

def expect? (mark : Char) : List Char → Option (List Char)
  | c :: rest => if c = mark then some rest else none
  | [] => none

def daysIn (year month : Nat) : Nat :=
  if month = 2 then
    if year % 4 = 0 && (year % 100 != 0 || year % 400 == 0) then 29 else 28
  else if month = 4 || month = 6 || month = 9 || month = 11 then 30
  else 31

/-- The rest after a date. -/
def afterDate? (cs : List Char) : Option (List Char) := do
  let (year, cs) ← fixed? 4 cs
  let (month, cs) ← fixed? 2 (← expect? '-' cs)
  let (day, cs) ← fixed? 2 (← expect? '-' cs)
  guard (1 ≤ month && month ≤ 12 && 1 ≤ day && day ≤ daysIn year month)
  return cs

/-- The rest after a time. The seconds may be left out. -/
def afterTime? (cs : List Char) : Option (List Char) := do
  let (hour, cs) ← fixed? 2 cs
  let (minute, cs) ← fixed? 2 (← expect? ':' cs)
  guard (hour ≤ 23 && minute ≤ 59)
  match cs with
  | ':' :: cs =>
    let (second, cs) ← fixed? 2 cs
    guard (second ≤ 60)
    match cs with
    | '.' :: cs => if (cs.takeWhile isDigit).isEmpty then none else some (cs.dropWhile isDigit)
    | cs => some cs
  | cs => some cs

/-- The text is the distance of a time from the universal one. -/
def isOffset (cs : List Char) : Bool :=
  match cs with
  | ['Z'] => true
  | ['z'] => true
  | sign :: rest =>
    (sign == '+' || sign == '-') && ((do
      let (hour, rest) ← fixed? 2 rest
      let (minute, rest) ← fixed? 2 (← expect? ':' rest)
      guard (hour ≤ 23 && minute ≤ 59 && rest.isEmpty)) : Option Unit).isSome
  | [] => false

def isTimeMark (c : Char) : Bool := c == 'T' || c == 't' || c == ' '

/-- The scalar is a date, a time, or a date with a time and perhaps an offset. -/
def isDateTime (cs : List Char) : Bool :=
  match afterDate? cs with
  | some [] => true
  | some (mark :: rest) =>
    isTimeMark mark && (match afterTime? rest with
      | some rest => rest.isEmpty || isOffset rest
      | none => false)
  | none => afterTime? cs == some []

/-! ## Scalars -/

/-- The value of a scalar that stands without quotes. -/
def scalar? (cs : List Char) : Option Toml :=
  if cs == "true".toList then some (boolean true)
  else if cs == "false".toList then some (boolean false)
  else if isSpecialFloat cs then some (float none)
  else match integer? cs with
    | some i => if inRange i then some (integer i) else none
    | none =>
      match decimal? cs with
      | some d => if d.isFinite then some (float (some d)) else none
      | none => if isDateTime cs then some (dateTime (String.ofList cs)) else none

end CatalogFinder.Toml
