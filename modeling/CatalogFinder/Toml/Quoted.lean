import CatalogFinder.Toml.Basic

/-!
# Strings in TOML

Strings stand in double quotes, with escapes, or in single quotes, without. In three quotes a string may go over
several lines: the end of a line right after the opening quotes is left out, and a backslash at the end of a line leaves
out all blanks and line ends up to the next character. Other line ends stay as they are, with their carriage return if
they have one.

Each reader starts behind the opening quotes and returns the string and what follows its closing quotes.
-/

namespace CatalogFinder.Toml

open Text (digitValue? natOfDigits)

/-- The character may stand in a string or comment. -/
def isPrintable (c : Char) : Bool := c == '\t' || (0x20 ≤ c.toNat && c.toNat ≠ 0x7F)

/-- The character of an escaped code point. -/
def codePoint? (digits : List Char) : Option Char := do
  let n := natOfDigits 16 (← digits.mapM (digitValue? 16))
  if h : n.isValidChar then some (Char.ofNatAux n h) else none

/-- What a character behind a backslash stands for. -/
def escape? (c : Char) : Option Char :=
  [('b', '\x08'), ('t', '\t'), ('n', '\n'), ('f', '\x0c'), ('r', '\r'), ('e', '\x1b'), ('"', '"'),
    ('\\', '\\')].lookup c

/-- Puts a character before what was read. -/
def before (c : Char) (read : Option (List Char × List Char)) : Option (List Char × List Char) :=
  read.map fun (cs, rest) => (c :: cs, rest)

/-- A string in double quotes. -/
def readBasic : List Char → Option (List Char × List Char)
  | '"' :: rest => some ([], rest)
  | '\\' :: 'x' :: a :: b :: rest => do before (← codePoint? [a, b]) (readBasic rest)
  | '\\' :: 'u' :: a :: b :: c :: d :: rest => do before (← codePoint? [a, b, c, d]) (readBasic rest)
  | '\\' :: 'U' :: a :: b :: c :: d :: e :: f :: g :: h :: rest => do
    before (← codePoint? [a, b, c, d, e, f, g, h]) (readBasic rest)
  | '\\' :: c :: rest => do before (← escape? c) (readBasic rest)
  | c :: rest => if isPrintable c then before c (readBasic rest) else none
  | [] => none

/-- A string in single quotes. -/
def readLiteral : List Char → Option (List Char × List Char)
  | '\'' :: rest => some ([], rest)
  | c :: rest => if isPrintable c then before c (readLiteral rest) else none
  | [] => none

/-- The text is a line end after blanks. -/
def endsLine (cs : List Char) : Bool :=
  match cs.dropWhile fun c => c == ' ' || c == '\t' with
  | '\n' :: _ => true
  | '\r' :: '\n' :: _ => true
  | _ => false

/-- A string in three double quotes. While `skipping`, blanks and line ends are left out. -/
def readBasicLines (skipping : Bool) : List Char → Option (List Char × List Char)
  | '"' :: '"' :: '"' :: '"' :: '"' :: rest => some (['"', '"'], rest)
  | '"' :: '"' :: '"' :: '"' :: rest => some (['"'], rest)
  | '"' :: '"' :: '"' :: rest => some ([], rest)
  | '\\' :: 'x' :: a :: b :: rest => do before (← codePoint? [a, b]) (readBasicLines false rest)
  | '\\' :: 'u' :: a :: b :: c :: d :: rest => do before (← codePoint? [a, b, c, d]) (readBasicLines false rest)
  | '\\' :: 'U' :: a :: b :: c :: d :: e :: f :: g :: h :: rest => do
    before (← codePoint? [a, b, c, d, e, f, g, h]) (readBasicLines false rest)
  | '\\' :: c :: rest =>
    if endsLine (c :: rest) then readBasicLines true (c :: rest)
    else do before (← escape? c) (readBasicLines false rest)
  | '\r' :: '\n' :: rest =>
    if skipping then readBasicLines true rest else before '\r' (before '\n' (readBasicLines false rest))
  | c :: rest =>
    if skipping && (c == ' ' || c == '\t' || c == '\n') then readBasicLines true rest
    else if isPrintable c || c == '\n' then before c (readBasicLines false rest)
    else none
  | [] => none

/-- A string in three single quotes. -/
def readLiteralLines : List Char → Option (List Char × List Char)
  | '\'' :: '\'' :: '\'' :: '\'' :: '\'' :: rest => some (['\'', '\''], rest)
  | '\'' :: '\'' :: '\'' :: '\'' :: rest => some (['\''], rest)
  | '\'' :: '\'' :: '\'' :: rest => some ([], rest)
  | '\r' :: '\n' :: rest => before '\r' (before '\n' (readLiteralLines rest))
  | c :: rest => if isPrintable c || c == '\n' then before c (readLiteralLines rest) else none
  | [] => none

/-- The text without a line end in front. -/
def dropLineEnd : List Char → List Char
  | '\n' :: rest => rest
  | '\r' :: '\n' :: rest => rest
  | cs => cs

/-- A string of any form, from its opening quotes. -/
def readQuoted? : List Char → Option (List Char × List Char)
  | '"' :: '"' :: '"' :: rest => readBasicLines false (dropLineEnd rest)
  | '\'' :: '\'' :: '\'' :: rest => readLiteralLines (dropLineEnd rest)
  | '"' :: rest => readBasic rest
  | '\'' :: rest => readLiteral rest
  | _ => none

end CatalogFinder.Toml
