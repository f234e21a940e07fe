import CatalogFinder.Catalog.Category

/-!
# Type codes

The table of relations tells its categories apart by a code letter. `TypeCodes` assigns each code to one category;
`TypeCodes.ofEntries` checks a list of assignments, and `TypeCodes.standard` is the assignment the catalog uses.

* `codesFor` : the codes of a category in the order of their assignment;
* `categoryFor?` : the category of a stored value, of which the first character after blanks counts;
* `codesForAll` : the codes of several categories.
-/

namespace CatalogFinder

/-- What is wrong with a list of code assignments. -/
inductive TypeCodeError where
  | missingCodes (c : Category)
  | notTableLike (c : Category)
  | duplicateCode (code : Char) (first second : Category)
  | invalidCode (code : Char)
  deriving DecidableEq, Repr

def TypeCodeError.message : TypeCodeError → String
  | missingCodes c => s!"no type codes assigned to {c.label}"
  | notTableLike c => s!"{c.label} is not stored in SYSCAT.TABLES and cannot carry type codes"
  | duplicateCode code first second =>
    s!"type code '{code.toString}' assigned to both {first.label} and {second.label}"
  | invalidCode code => s!"type code '{code.toString}' is not an uppercase ASCII letter"

/-- The category of each code, in the order of assignment. -/
structure TypeCodes where
  assigned : List (Char × Category)

namespace TypeCodes

def isCode (c : Char) : Bool := 'A' ≤ c && c ≤ 'Z'

/-- Gives one more code to a category. -/
def assign (c : Category) (codes : TypeCodes) (code : Char) : Except TypeCodeError TypeCodes :=
  if !isCode code then .error (.invalidCode code)
  else match codes.assigned.lookup code with
    | some first => .error (.duplicateCode code first c)
    | none => .ok ⟨codes.assigned ++ [(code, c)]⟩

def assignAll (codes : TypeCodes) (entry : Category × List Char) : Except TypeCodeError TypeCodes :=
  if !entry.1.isTableLike then .error (.notTableLike entry.1)
  else entry.2.foldlM (assign entry.1) codes

/-- The codes of a category in the order of their assignment. -/
def codesFor (codes : TypeCodes) (c : Category) : List Char :=
  (codes.assigned.filter (·.2 = c)).map (·.1)

/-- The table of a list of assignments, if every code is a letter given once, to a table-like category, and every
such category has a code. -/
def ofEntries (entries : List (Category × List Char)) : Except TypeCodeError TypeCodes := do
  let codes ← entries.foldlM assignAll ⟨[]⟩
  match Category.tableLike.find? fun c => (codes.codesFor c).isEmpty with
  | some c => .error (.missingCodes c)
  | none => .ok codes

/-- The category of a stored value: its first character after blanks is the code. -/
def categoryFor? (codes : TypeCodes) (raw : String) : Option Category :=
  (Text.trim raw).toList.head?.bind fun code => codes.assigned.lookup code

/-- The list without the repetitions that stand side by side. -/
def dropRepeats : List Char → List Char
  | a :: b :: rest => if a = b then dropRepeats (b :: rest) else a :: dropRepeats (b :: rest)
  | cs => cs

/-- The codes of several categories, one category after the other. -/
def codesForAll (codes : TypeCodes) (categories : List Category) : List Char :=
  dropRepeats (categories.flatMap codes.codesFor)

/-- The codes of `SYSCAT.TABLES`. Tables proper may be created temporary tables, hierarchies, detached tables, plain
tables and typed tables. -/
def standard : TypeCodes :=
  ⟨[('A', .tableAlias), ('G', .table), ('H', .table), ('L', .table), ('T', .table), ('U', .table), ('V', .view),
    ('W', .view), ('S', .materializedView), ('N', .nickname)]⟩

/-- The standard codes pass the check. -/
theorem ofEntries_standard :
    ofEntries [(.tableAlias, ['A']), (.table, ['G', 'H', 'L', 'T', 'U']), (.view, ['V', 'W']),
      (.materializedView, ['S']), (.nickname, ['N'])] = .ok standard := rfl

end TypeCodes

end CatalogFinder
