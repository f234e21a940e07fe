/-!
# Digits

* `hexDigit` : the lower-case hexadecimal digit of a number below 16;
* `digitValue? base c` : the value of a digit, in either case;
* `natOfDigits base` : the number that a list of digit values spells, most significant first;
* `unsigned?` : the number that a text spells;
* `decimalDigits` : the decimal digits of a number.
-/

namespace CatalogFinder.Text

def hexDigits : List Char := "0123456789abcdef".toList

def hexDigit (n : Nat) : Char := hexDigits.getD n '0'

theorem hexDigit_mem (n : Nat) : hexDigit n ∈ hexDigits := by
  unfold hexDigit
  rw [List.getD_eq_getElem?_getD]
  cases h : hexDigits[n]? with
  | none => decide
  | some c => exact List.mem_of_getElem? h

/-- The value of a digit of the base, which is at most 16. -/
def digitValue? (base : Nat) (c : Char) : Option Nat :=
  match hexDigits.idxOf? c.toLower with
  | some n => if n < base then some n else none
  | none => none

def isDigit (c : Char) : Bool := (digitValue? 10 c).isSome

/-- The number that digit values spell, most significant first. -/
def natOfDigits (base : Nat) (digits : List Nat) : Nat := digits.foldl (fun n d => n * base + d) 0

/-- The number that characters spell, if all of them are digits of the base. -/
def natOfChars? (base : Nat) (cs : List Char) : Option Nat := (cs.mapM (digitValue? base)).map (natOfDigits base)

/-- The number that a text of decimal digits spells, with a plus sign allowed in front. -/
def unsigned? (s : String) : Option Nat :=
  let digits := match s.toList with
    | '+' :: rest => rest
    | cs => cs
  if digits.isEmpty then none else natOfChars? 10 digits

def decimalDigits (n : Nat) : List Char := Nat.toDigits 10 n

/-- An integer in decimal digits, with a minus sign in front if it is negative. -/
def intDigits (i : Int) : List Char :=
  if i < 0 then '-' :: decimalDigits i.natAbs else decimalDigits i.natAbs

end CatalogFinder.Text
