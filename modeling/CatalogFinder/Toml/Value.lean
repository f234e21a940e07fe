import CatalogFinder.Toml.Quoted
import CatalogFinder.Toml.Scalar
import CatalogFinder.Toml.Table

/-!
# Keys and values in TOML

Recursive descent over the characters of a text. A reader returns what it has read and the characters after it; the
depth of the descent is bounded by a number that the length of the text exceeds. Within brackets and braces line ends
and comments may stand between the parts, and a comma may stand behind the last one. Nothing is nested deeper than
`maxNesting`, neither brackets and braces nor the names of a key.
-/

namespace CatalogFinder.Toml

/-! ## Gaps -/

/-- The character parts words of a line. -/
def isGap (c : Char) : Bool := c == ' ' || c == '\t'

def skipGap (cs : List Char) : List Char := cs.dropWhile isGap

/-- The text without the blanks, line feeds and comments in front. It may start within a comment. -/
def skipLines (inComment : Bool) : List Char → List Char
  | '\n' :: rest => skipLines false rest
  | '\r' :: '\n' :: rest => skipLines false rest
  | c :: rest =>
    if isGap c || inComment && isPrintable c then skipLines inComment rest
    else if c == '#' then skipLines true rest
    else c :: rest
  | [] => []

/-- The text behind the end of the line, if at most a comment is left of the line. -/
def endLine? (cs : List Char) : Option (List Char) :=
  let rest := match skipGap cs with
    | '#' :: rest => rest.dropWhile isPrintable
    | rest => rest
  match rest with
  | [] => some []
  | '\n' :: rest => some rest
  | '\r' :: '\n' :: rest => some rest
  | _ => none

/-! ## Keys -/

/-- The character may stand in a name without quotes. -/
def isBareChar (c : Char) : Bool := c.isAlphanum || c == '_' || c == '-'

/-- A name, with or without quotes. -/
def readName : List Char → Option (String × List Char)
  | '"' :: rest => (readBasic rest).map fun (cs, rest) => (String.ofList cs, rest)
  | '\'' :: rest => (readLiteral rest).map fun (cs, rest) => (String.ofList cs, rest)
  | cs =>
    match cs.takeWhile isBareChar with
    | [] => none
    | name => some (String.ofList name, cs.dropWhile isBareChar)

/-- How deep brackets and braces may be nested, and how many names a key may have. -/
def maxNesting : Nat := 80

/-- At most so many names parted by dots, and the text after the blanks behind them. -/
def readNames : Nat → List Char → Option (Key × List Char)
  | 0, _ => none
  | n + 1, cs => do
    let (name, rest) ← readName (skipGap cs)
    match skipGap rest with
    | '.' :: rest => (readNames n rest).map fun (key, rest) => (⟨name :: key.parents, key.name⟩, rest)
    | rest => return (⟨[], name⟩, rest)

/-- A key, and the text after the blanks behind it. -/
def readKey (cs : List Char) : Option (Key × List Char) := readNames maxNesting cs

/-! ## Values -/

/-- The character may stand in a scalar without quotes. -/
def isScalarChar (c : Char) : Bool :=
  c.isAlphanum || c == '_' || c == '+' || c == '-' || c == '.' || c == ':'

/-- A scalar without quotes. One blank may part a date from a time. -/
def readScalar (cs : List Char) : Option (Toml × List Char) :=
  let word := cs.takeWhile isScalarChar
  match cs.dropWhile isScalarChar with
  | ' ' :: c :: rest =>
    if afterDate? word == some [] && Text.isDigit c then
      (scalar? (word ++ ' ' :: (c :: rest).takeWhile isScalarChar)).map (·, rest.dropWhile isScalarChar)
    else (scalar? word).map (·, ' ' :: c :: rest)
  | rest => (scalar? word).map (·, rest)

mutual

/-- A value. The first number says how deep brackets and braces may still be nested. -/
def readValue : Nat → Nat → List Char → Option (Toml × List Char)
  | _, 0, _ => none
  | 0, _, '[' :: _ => none
  | room + 1, n + 1, '[' :: rest => (readItems room n rest).map fun (items, rest) => (array false items, rest)
  | 0, _, '{' :: _ => none
  | room + 1, n + 1, '{' :: rest => do
    let (values, rest) ← readMembers room n rest
    return (table .closed (← assignAll? [] values), rest)
  | _, _ + 1, '"' :: rest => (readQuoted? ('"' :: rest)).map fun (cs, rest) => (string (String.ofList cs), rest)
  | _, _ + 1, '\'' :: rest => (readQuoted? ('\'' :: rest)).map fun (cs, rest) => (string (String.ofList cs), rest)
  | _, _ + 1, cs => readScalar cs

/-- Items up to the closing bracket. -/
def readItems : Nat → Nat → List Char → Option (List Toml × List Char)
  | _, 0, _ => none
  | room, n + 1, cs =>
    match skipLines false cs with
    | ']' :: rest => some ([], rest)
    | cs => do
      let (item, rest) ← readValue room n cs
      match skipLines false rest with
      | ',' :: rest => (readItems room n rest).map fun (items, rest) => (item :: items, rest)
      | ']' :: rest => some ([item], rest)
      | _ => none

/-- Keys and their values up to the closing brace. -/
def readMembers : Nat → Nat → List Char → Option (List (Key × Toml) × List Char)
  | _, 0, _ => none
  | room, n + 1, cs =>
    match skipLines false cs with
    | '}' :: rest => some ([], rest)
    | cs => do
      let (key, rest) ← readKey cs
      match skipLines false rest with
      | '=' :: rest => do
        let (value, rest) ← readValue room n (skipLines false rest)
        match skipLines false rest with
        | ',' :: rest => (readMembers room n rest).map fun (values, rest) => ((key, value) :: values, rest)
        | '}' :: rest => some ([(key, value)], rest)
        | _ => none
      | _ => none

end

end CatalogFinder.Toml
