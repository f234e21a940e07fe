import CatalogFinder.Json.Basic
import CatalogFinder.Text.Digits

/-!
# Writing JSON

`Json.compact` writes a value without any blank, `Json.pretty` with every item and member on a line of its own, two
blanks further in than what it belongs to. In a string the quote, the backslash and the control characters are
escaped, nothing else.
-/

namespace CatalogFinder.Json

open Text (hexDigit decimalDigits intDigits)

/-- A character inside a string. -/
def escaped (c : Char) : List Char :=
  match c with
  | '"' => ['\\', '"']
  | '\\' => ['\\', '\\']
  | '\x08' => ['\\', 'b']
  | '\t' => ['\\', 't']
  | '\n' => ['\\', 'n']
  | '\x0c' => ['\\', 'f']
  | '\r' => ['\\', 'r']
  | c => if c.toNat < 0x20 then ['\\', 'u', '0', '0', hexDigit (c.toNat / 16), hexDigit (c.toNat % 16)] else [c]

def quoted (s : String) : List Char := '"' :: s.toList.flatMap escaped ++ ['"']

/-- A number in its shortest digits, with an exponent. There is no number for an infinity. -/
def realChars (x : Binary64) : List Char :=
  match x.shortest with
  | some d => d.sign ++ decimalDigits d.significand ++ ['e'] ++ intDigits d.exponent
  | none => "null".toList

/-- A value that has no parts. -/
def scalarChars : Json → List Char
  | null => "null".toList
  | boolean true => "true".toList
  | boolean false => "false".toList
  | integer i => intDigits i
  | real x => realChars x
  | string s => quoted s
  | _ => []

mutual

/-- The value without blanks. -/
def compactChars : Json → List Char
  | array items => '[' :: compactItems items
  | object members => '{' :: compactMembers members
  | j => scalarChars j

/-- Items up to the closing bracket. -/
def compactItems : List Json → List Char
  | [] => [']']
  | [j] => compactChars j ++ [']']
  | j :: rest => compactChars j ++ ',' :: compactItems rest

/-- Members up to the closing brace. -/
def compactMembers : List (String × Json) → List Char
  | [] => ['}']
  | [(name, j)] => quoted name ++ ':' :: compactChars j ++ ['}']
  | (name, j) :: rest => quoted name ++ ':' :: compactChars j ++ ',' :: compactMembers rest

end

def compact (j : Json) : String := String.ofList (compactChars j)

/-- A new line, so far in. -/
def newLine (level : Nat) : List Char := '\n' :: List.replicate (2 * level) ' '

mutual

/-- The value in lines, where inner lines start so far in. -/
def prettyChars (level : Nat) : Json → List Char
  | array [] => ['[', ']']
  | array items => '[' :: prettyItems level items
  | object [] => ['{', '}']
  | object members => '{' :: prettyMembers level members
  | j => scalarChars j

/-- Items up to the closing bracket. -/
def prettyItems (level : Nat) : List Json → List Char
  | [] => newLine level ++ [']']
  | [j] => newLine (level + 1) ++ prettyChars (level + 1) j ++ newLine level ++ [']']
  | j :: rest => newLine (level + 1) ++ prettyChars (level + 1) j ++ ',' :: prettyItems level rest

/-- Members up to the closing brace. -/
def prettyMembers (level : Nat) : List (String × Json) → List Char
  | [] => newLine level ++ ['}']
  | [(name, j)] =>
    newLine (level + 1) ++ quoted name ++ [':', ' '] ++ prettyChars (level + 1) j ++ newLine level ++ ['}']
  | (name, j) :: rest =>
    newLine (level + 1) ++ quoted name ++ [':', ' '] ++ prettyChars (level + 1) j ++ ',' :: prettyMembers level rest

end

def pretty (j : Json) : String := String.ofList (prettyChars 0 j)

end CatalogFinder.Json
