import CatalogFinder.Text.Digits
import CatalogFinder.Text.Utf8

/-!
# Paths

A path is written as names parted by slashes; an absolute one starts with a slash. Empty names and `.` lead nowhere,
`..` leads to the directory above.

* `Path.lineage` : the path and all paths above it;
* `Path.child`, `Path.extended` : a path one name longer, a path whose last name is longer;
* `Path.ofBytes` : the path that bytes spell, which need not be a text.
-/

namespace CatalogFinder

/-- A path, with all names as they are written. -/
structure Path where
  absolute : Bool
  names : List String
  deriving DecidableEq, Repr

/-- The pieces of a list between separators. -/
def piecesBetween {α : Type} [DecidableEq α] (separator : α) : List α → List (List α)
  | [] => [[]]
  | a :: rest =>
    if a = separator then [] :: piecesBetween separator rest
    else
      match piecesBetween separator rest with
      | [] => [[a]]
      | piece :: more => (a :: piece) :: more

/-! ## Names -/

/-- The name of bytes. Bytes that are not UTF-8 are spelled out behind a zero character, which no text in a path has. -/
def nameOfBytes (bytes : List UInt8) : String :=
  let text := Text.decodeLossy bytes
  if Text.encode text = bytes then text
  else String.ofList ('\x00' :: bytes.flatMap fun b => [Text.hexDigit (b.toNat / 16), Text.hexDigit (b.toNat % 16)])

def nameSize (name : String) : Nat :=
  match name.toList with
  | '\x00' :: digits => digits.length / 2
  | _ => name.utf8ByteSize

namespace Path

def ofString (text : String) : Path :=
  match text.toList with
  | '/' :: rest => ⟨true, (piecesBetween '/' rest).map String.ofList⟩
  | cs => ⟨false, (piecesBetween '/' cs).map String.ofList⟩

def ofBytes (bytes : List UInt8) : Path :=
  match bytes with
  | 0x2F :: rest => ⟨true, (piecesBetween 0x2F rest).map nameOfBytes⟩
  | bytes => ⟨false, (piecesBetween 0x2F bytes).map nameOfBytes⟩

/-- The size of a path in bytes, with all its slashes. -/
def size (p : Path) : Nat :=
  p.names.foldr (fun name size => nameSize name + 1 + size) 0 - (if p.absolute then 0 else 1)

/-- There is no name in the path, and no slash in front. -/
def isEmpty (p : Path) : Bool := !p.absolute && p.names.all String.isEmpty

/-- The names without the empty ones at the end. -/
def trimmedNames (p : Path) : List String := (p.names.reverse.dropWhile String.isEmpty).reverse

def child (p : Path) (name : String) : Path := { p with names := p.trimmedNames ++ [name] }

/-- The path with a text behind its last name. -/
def extended (p : Path) (ending : String) : Path :=
  let names := p.trimmedNames
  { p with names := names.dropLast ++ (names.getLast?.map (· ++ ending)).toList }

/-- The names that lead somewhere. A `.` in front of a relative path is kept. -/
def leadingNames (p : Path) : List String :=
  match p.absolute, p.names.filter (!·.isEmpty) with
  | false, "." :: rest => "." :: rest.filter (· ≠ ".")
  | _, names => names.filter (· ≠ ".")

/-- The paths above a path, the longest first. -/
def above (p : Path) : List Path :=
  let names := p.leadingNames
  (List.range names.length).reverse.map fun n => { p with names := names.take n }

/-- The path above, unless this one is empty or the root. -/
def parent? (p : Path) : Option Path := p.above.head?

/-- The path and all paths above it, the longest first. -/
def lineage (p : Path) : List Path := p :: p.above

/-- The text of a path one name longer. -/
def joined (path name : String) : String :=
  if path.isEmpty || path.toList.getLast? = some '/' then path ++ name else path ++ "/" ++ name

end Path

end CatalogFinder
