import CatalogFinder.NameMap
import CatalogFinder.Text.Alphanumeric

/-!
# Variables in texts

A text may name variables of the environment, as `$NAME` or as `$` and the name in braces. A text is first cut into
`Token`s, then every token is replaced by what it stands for; a value is never scanned again. A dollar sign that
neither a brace nor a name follows stands for itself; a brace that is not closed reaches to the end of the text.
-/

namespace CatalogFinder

/-- The variables that are set, and what the system knows of the user. -/
structure Environment where
  values : NameMap String := ∅
  /-- The home directory of the user's account, if it has one. -/
  accountHome : Option String := none

/-- The value of a variable. An empty name, or one with `=` or a zero character, names none. -/
def Environment.value? (env : Environment) (name : String) : Option String :=
  if name.isEmpty || name.toList.contains '=' || name.toList.contains '\x00' then none
  else env.values.get? name

/-- A piece of a text: a character for itself, or a reference to a variable. -/
inductive Token where
  | literal (c : Char)
  | reference (name : String)
  deriving DecidableEq, Repr

namespace Token

/-- The character may be part of a name without braces. -/
def isNameChar (c : Char) : Bool := Text.isAlphanumeric c || c == '_'

theorem length_dropWhile_le (p : Char → Bool) (cs : List Char) : (cs.dropWhile p).length ≤ cs.length :=
  (List.dropWhile_sublist p).length_le

/-- The tokens of a text. -/
def ofChars : List Char → List Token
  | [] => []
  | '$' :: '{' :: rest =>
    reference (String.ofList (rest.takeWhile (· != '}'))) :: ofChars ((rest.dropWhile (· != '}')).drop 1)
  | '$' :: rest =>
    match rest.takeWhile isNameChar with
    | [] => literal '$' :: ofChars rest
    | name => reference (String.ofList name) :: ofChars (rest.dropWhile isNameChar)
  | c :: rest => literal c :: ofChars rest
termination_by cs => cs.length
decreasing_by
  · simp only [List.length_cons, List.length_drop]
    exact Nat.lt_of_le_of_lt (Nat.sub_le _ _) (Nat.lt_of_le_of_lt (length_dropWhile_le _ _) (by omega))
  · simp
  · exact Nat.lt_succ_of_le (length_dropWhile_le _ _)
  · simp

/-- What the token stands for, or the variable that is not set. -/
def value (env : Environment) : Token → Except String String
  | literal c => .ok c.toString
  | reference name =>
    match env.value? name with
    | some v => .ok v
    | none => .error name

def name? : Token → Option String
  | literal _ => none
  | reference name => some name

end Token

/-- The variables that a text names. -/
def variablesIn (text : String) : List String := (Token.ofChars text.toList).filterMap Token.name?

/-- The text with its variables replaced by their values, or the first variable that is not set. -/
def expand (env : Environment) (text : String) : Except String String :=
  ((Token.ofChars text.toList).mapM (Token.value env)).map String.join

end CatalogFinder
