import CatalogFinder.Toml.Value

/-!
# Reading TOML documents

A document is a sequence of lines. Up to the first header values are put into the root; each header starts a table, and
the values below it are put there. `Toml.parse?` reads a text in two steps: into `Line`s, and these into `Section`s
which fill the root one after the other.
-/

namespace CatalogFinder.Toml

/-- What a header announces: one table, or one more table of an array. -/
inductive Header where
  | one (key : Key)
  | oneMore (key : Key)
  deriving DecidableEq, Repr

/-- A line of a document that is not blank. -/
inductive Line where
  | header (h : Header)
  | value (key : Key) (v : Toml)

/-- A header between brackets, from behind the opening ones. -/
def readHeader : List Char → Option (Header × List Char)
  | '[' :: rest => do
    match ← readKey rest with
    | (key, ']' :: ']' :: rest) => return (.oneMore key, rest)
    | _ => none
  | rest => do
    match ← readKey rest with
    | (key, ']' :: rest) => return (.one key, rest)
    | _ => none

/-- A line, up to its end. -/
def readLine (n : Nat) : List Char → Option (Line × List Char)
  | '[' :: rest => do
    let (h, rest) ← readHeader rest
    return (.header h, ← endLine? rest)
  | cs => do
    match ← readKey cs with
    | (key, '=' :: rest) =>
      let (v, rest) ← readValue maxNesting n (skipGap rest)
      return (.value key v, ← endLine? rest)
    | _ => none

/-- The lines of a text, which has fewer than so many. -/
def readLines : Nat → List Char → Option (List Line)
  | 0, _ => none
  | n + 1, cs =>
    match skipLines false cs with
    | [] => some []
    | cs => do
      let (line, rest) ← readLine (n + 1) cs
      return line :: (← readLines n rest)

/-- A header and the values below it. -/
structure Section where
  header : Header
  values : List (Key × Toml)

/-- The values before the first header, and the sections after it. -/
def sections : List Line → List (Key × Toml) × List Section
  | [] => ([], [])
  | .value key v :: rest =>
    let (values, sections) := sections rest
    ((key, v) :: values, sections)
  | .header h :: rest =>
    let (values, sections) := sections rest
    ([], ⟨h, values⟩ :: sections)

/-- Puts the table of a section in its place. -/
def Section.place? (entries : Entries) (s : Section) : Option Entries :=
  match s.header with
  | .one key => declare? entries key s.values
  | .oneMore key => append? entries key s.values

/-- The mark that may stand in front of a document. -/
def byteOrderMark : Char := '\uFEFF'

/-- The root table of a document. -/
def parse? (text : String) : Option Toml := do
  let cs := match text.toList with
    | c :: rest => if c = byteOrderMark then rest else c :: rest
    | [] => []
  let lines ← readLines (cs.length + 1) cs
  let (values, below) := sections lines
  let root ← below.foldlM Section.place? (← assignAll? [] values)
  return table .declared root

end CatalogFinder.Toml
