import CatalogFinder.Json.Number

/-!
# Reading JSON

`Json.parse?` reads a whole text as one value, by recursive descent over its characters. Every step returns the value
read and the characters after it; the depth of the descent is bounded by the length of the text.
-/

namespace CatalogFinder.Json

open Text (isDigit digitValue? natOfDigits)

/-- The characters that may stand between the parts of a value. -/
def isGap (c : Char) : Bool := c == ' ' || c == '\t' || c == '\n' || c == '\r'

/-- The text after its leading gap. -/
def skipGap (cs : List Char) : List Char := cs.dropWhile isGap

/-! ## Strings -/

/-- A part of a string: a character, or an escaped code unit of UTF-16. -/
inductive StringPart where
  | char (c : Char)
  | unit (n : Nat)

/-- The parts of a string up to its closing quote. -/
def stringParts : List Char → Option (List StringPart × List Char)
  | '"' :: rest => some ([], rest)
  | '\\' :: 'u' :: a :: b :: c :: d :: rest => do
    let digits ← [a, b, c, d].mapM (digitValue? 16)
    let (parts, rest) ← stringParts rest
    return (.unit (natOfDigits 16 digits) :: parts, rest)
  | '\\' :: c :: rest => do
    let plain ← [('"', '"'), ('\\', '\\'), ('/', '/'), ('b', '\x08'), ('f', '\x0c'), ('n', '\n'), ('r', '\r'),
      ('t', '\t')].lookup c
    let (parts, rest) ← stringParts rest
    return (.char plain :: parts, rest)
  | c :: rest => do
    guard (0x20 ≤ c.toNat)
    let (parts, rest) ← stringParts rest
    return (.char c :: parts, rest)
  | [] => none

/-- The characters that parts stand for: two units of a surrogate pair make one, half of a pair makes none. -/
def joinParts : List StringPart → Option (List Char)
  | [] => some []
  | .char c :: rest => (joinParts rest).map (c :: ·)
  | .unit high :: .unit low :: rest =>
    if 0xD800 ≤ high && high < 0xDC00 then
      if 0xDC00 ≤ low && low < 0xE000 then
        (joinParts rest).map (Char.ofNat (0x10000 + (high - 0xD800) * 0x400 + (low - 0xDC00)) :: ·)
      else none
    else if 0xDC00 ≤ high && high < 0xE000 then none
    else (joinParts (.unit low :: rest)).map (Char.ofNat high :: ·)
  | .unit n :: rest =>
    if 0xD800 ≤ n && n < 0xE000 then none else (joinParts rest).map (Char.ofNat n :: ·)

/-- The rest of a string after its opening quote; no text if it escapes half of a surrogate pair. -/
def readString (cs : List Char) : Option (Option String × List Char) := do
  let (parts, rest) ← stringParts cs
  return ((joinParts parts).map String.ofList, rest)

/-! ## Numbers -/

/-- One or more digits. -/
def readDigits (cs : List Char) : Option (List Char × List Char) :=
  match cs.takeWhile isDigit with
  | [] => none
  | digits => some (digits, cs.dropWhile isDigit)

/-- The digits before a fraction: no leading zero. -/
def readWhole : List Char → Option (List Char × List Char)
  | '0' :: rest => some (['0'], rest)
  | cs => readDigits cs

/-- A point and digits, if there is a point. -/
def readFraction : List Char → Option (Option (List Char) × List Char)
  | '.' :: rest => (readDigits rest).map fun (digits, rest) => (some digits, rest)
  | cs => some (none, cs)

/-- A signed exponent, if there is one. -/
def readExponent : List Char → Option (Option Int × List Char)
  | c :: rest =>
    if c = 'e' || c = 'E' then do
      let (negative, rest) := match rest with
        | '+' :: rest => (false, rest)
        | '-' :: rest => (true, rest)
        | rest => (false, rest)
      let (digits, rest) ← readDigits rest
      let n : Int := (Text.natOfChars? 10 digits).getD 0
      return (some (if negative then -n else n), rest)
    else some (none, c :: rest)
  | [] => some (none, [])

def readNumber (cs : List Char) : Option (Json × List Char) := do
  let (negative, cs) := match cs with
    | '-' :: rest => (true, rest)
    | cs => (false, cs)
  let (whole, cs) ← readWhole cs
  let (fraction, cs) ← readFraction cs
  let (exponent, cs) ← readExponent cs
  let values : List Char → List Nat := (·.filterMap (digitValue? 10))
  return (ofNumeral ⟨negative, values whole, fraction.map values, exponent⟩, cs)

/-! ## Values -/

/-- An object with these members, some of whose names may have no text. -/
def objectOf (members : List (Option String × Json)) : Json :=
  match members.mapM fun (name, j) => name.map (·, j) with
  | some members => .object members
  | none => .illFormed

mutual

/-- One value, not nested deeper than the first argument says. -/
def readValue : Nat → List Char → Option (Json × List Char)
  | 0, _ => none
  | n + 1, cs =>
    match skipGap cs with
    | '{' :: rest =>
      match skipGap rest with
      | '}' :: rest => some (.object [], rest)
      | rest => (readMembers n rest).map fun (members, rest) => (objectOf members, rest)
    | '[' :: rest =>
      match skipGap rest with
      | ']' :: rest => some (.array [], rest)
      | rest => (readItems n rest).map fun (items, rest) => (.array items, rest)
    | '"' :: rest => (readString rest).map fun (s, rest) => ((s.map Json.string).getD .illFormed, rest)
    | 'n' :: 'u' :: 'l' :: 'l' :: rest => some (.null, rest)
    | 't' :: 'r' :: 'u' :: 'e' :: rest => some (.boolean true, rest)
    | 'f' :: 'a' :: 'l' :: 's' :: 'e' :: rest => some (.boolean false, rest)
    | cs => readNumber cs

/-- One or more items up to the closing bracket. -/
def readItems : Nat → List Char → Option (List Json × List Char)
  | 0, _ => none
  | n + 1, cs => do
    let (item, rest) ← readValue n cs
    match skipGap rest with
    | ',' :: rest => (readItems n rest).map fun (items, rest) => (item :: items, rest)
    | ']' :: rest => some ([item], rest)
    | _ => none

/-- One or more members up to the closing brace. -/
def readMembers : Nat → List Char → Option (List (Option String × Json) × List Char)
  | 0, _ => none
  | n + 1, cs =>
    match skipGap cs with
    | '"' :: rest => do
      let (name, rest) ← readString rest
      match skipGap rest with
      | ':' :: rest => do
        let (value, rest) ← readValue n rest
        match skipGap rest with
        | ',' :: rest => (readMembers n rest).map fun (members, rest) => ((name, value) :: members, rest)
        | '}' :: rest => some ([(name, value)], rest)
        | _ => none
      | _ => none
    | _ => none

end

def parse? (text : String) : Option Json :=
  let cs := text.toList
  match readValue (cs.length + 1) cs with
  | some (j, rest) => if (skipGap rest).isEmpty then some j else none
  | none => none

end CatalogFinder.Json
