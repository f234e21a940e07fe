/-!
# Runs of case mappings

Case mappings come in runs: stretches of characters, all of them or every other one, that move by one distance.
A table of runs sends a character to its image under the first run that covers it.
-/

namespace CatalogFinder.Text

/-- The characters `first`, `first + step`, ..., `last`, each mapped `shift` code points further. -/
structure CaseRun where
  first : Nat
  last : Nat
  step : Nat
  shift : Int
  deriving Repr, DecidableEq

/-- The run moves the code point `n`. -/
def CaseRun.covers (r : CaseRun) (n : Nat) : Bool :=
  decide (r.first ≤ n) && decide (n ≤ r.last) && (n - r.first) % r.step == 0

/-- The character that a table of runs maps `c` to, if one of them covers it. -/
def CaseRun.map? (runs : List CaseRun) (c : Char) : Option Char :=
  (runs.find? (·.covers c.toNat)).map fun r => Char.ofNat ((c.toNat : Int) + r.shift).toNat

/-- One of the ranges of code points, both ends included, holds `c`. -/
def inRanges (ranges : List (Nat × Nat)) (c : Char) : Bool :=
  ranges.any fun r => decide (r.1 ≤ c.toNat) && decide (c.toNat ≤ r.2)

end CatalogFinder.Text
