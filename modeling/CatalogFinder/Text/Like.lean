import CatalogFinder.Text.Case.Fold

/-!
# LIKE patterns

In a pattern `%` stands for any run of characters and `_` for one; every other character stands for itself. A
`LikeRule` says which characters a wildcard may cover and when two characters count as the same.

* `Matches rule pattern text` : the pieces of the text match the characters of the pattern one after the other;
* `like rule pattern text` : the same by a table, row by row from the end of the pattern, in time proportional to the
  product of the lengths (`like_iff_matches`).
-/

namespace CatalogFinder.Text

/-- A wildcard covers the characters that are `wild`; another character of the pattern covers those that are the
`same` as it. -/
structure LikeRule where
  wild : Char → Bool
  same : Char → Char → Bool

namespace LikeRule

/-- Wildcards cover everything, other characters only themselves. -/
def exact : LikeRule := ⟨fun _ => true, fun p c => p == c⟩

/-- Wildcards cover everything but a line feed; letters are the same in upper and lower case. -/
def folded : LikeRule := ⟨fun c => c != '\n', fun p c => foldChar p == foldChar c⟩

/-- Wildcards cover everything; the letters of ASCII are the same in upper and lower case. -/
def asciiFolded : LikeRule := ⟨fun _ => true, fun p c => p.toLower == c.toLower⟩

/-- What one character of a pattern, other than `%`, covers. -/
def covers (r : LikeRule) (p c : Char) : Bool := if p = '_' then r.wild c else r.same p c

end LikeRule

/-- The text can be cut into pieces that the characters of the pattern cover in their order. -/
inductive Matches (r : LikeRule) : List Char → List Char → Prop
  | nil : Matches r [] []
  | skip {ps cs} : Matches r ps cs → Matches r ('%' :: ps) cs
  | more {ps c cs} : r.wild c = true → Matches r ('%' :: ps) cs → Matches r ('%' :: ps) (c :: cs)
  | one {p ps c cs} : p ≠ '%' → r.covers p c = true → Matches r ps cs → Matches r (p :: ps) (c :: cs)

/-! ## The table

A row of the table belongs to one rest of the pattern. It has an entry for each rest of the text, longest first. -/

/-- The row of the empty pattern: only the empty rest matches. -/
def emptyRow : List Char → List Bool
  | [] => [true]
  | _ :: cs => false :: emptyRow cs

/-- The row of a pattern that starts with one character, from the row of what follows. -/
def charRow (accept : Char → Bool) : List Char → List Bool → List Bool
  | c :: cs, row => (accept c && row.tail.headD false) :: charRow accept cs row.tail
  | [], _ => [false]

/-- The row of a pattern that starts with `%`, from the row of what follows. -/
def runRow (wild : Char → Bool) : List Char → List Bool → List Bool
  | c :: cs, row =>
    let rest := runRow wild cs row.tail
    (row.headD false || (wild c && rest.headD false)) :: rest
  | [], row => [row.headD false]

def likeRow (r : LikeRule) : List Char → List Char → List Bool
  | [], text => emptyRow text
  | p :: ps, text =>
    if p = '%' then runRow r.wild text (likeRow r ps text) else charRow (r.covers p) text (likeRow r ps text)

/-- The pattern matches the characters. -/
def likeChars (r : LikeRule) (pattern text : List Char) : Bool := (likeRow r pattern text).headD false

def like (r : LikeRule) (pattern text : String) : Bool := likeChars r pattern.toList text.toList

/-! ## The table is right -/

theorem tail_likeRow (r : LikeRule) (ps : List Char) (c : Char) (cs : List Char) :
    (likeRow r ps (c :: cs)).tail = likeRow r ps cs := by
  induction ps with
  | nil => rfl
  | cons p ps ih =>
    by_cases h : p = '%'
    · simp [likeRow, h, runRow, ih]
    · simp [likeRow, h, charRow, ih]

@[simp] theorem likeChars_nil_nil (r : LikeRule) : likeChars r [] [] = true := rfl

@[simp] theorem likeChars_nil_cons (r : LikeRule) (c : Char) (cs : List Char) : likeChars r [] (c :: cs) = false := rfl

@[simp] theorem likeChars_run_nil (r : LikeRule) (ps : List Char) :
    likeChars r ('%' :: ps) [] = likeChars r ps [] := by simp [likeChars, likeRow, runRow]

@[simp] theorem likeChars_run_cons (r : LikeRule) (ps : List Char) (c : Char) (cs : List Char) :
    likeChars r ('%' :: ps) (c :: cs) = (likeChars r ps (c :: cs) || (r.wild c && likeChars r ('%' :: ps) cs)) := by
  simp [likeChars, likeRow, runRow, tail_likeRow]

theorem likeChars_char_nil (r : LikeRule) {p : Char} (h : p ≠ '%') (ps : List Char) :
    likeChars r (p :: ps) [] = false := by simp [likeChars, likeRow, charRow, h]

theorem likeChars_char_cons (r : LikeRule) {p : Char} (h : p ≠ '%') (ps : List Char) (c : Char) (cs : List Char) :
    likeChars r (p :: ps) (c :: cs) = (r.covers p c && likeChars r ps cs) := by
  simp [likeChars, likeRow, charRow, h, tail_likeRow]

theorem matches_of_likeChars (r : LikeRule) :
    ∀ ps cs : List Char, likeChars r ps cs = true → Matches r ps cs
  | [], [], _ => .nil
  | [], _ :: _, h => by simp at h
  | p :: ps, [], h => by
    by_cases hp : p = '%'
    · subst hp
      exact .skip (matches_of_likeChars r ps [] (by simpa using h))
    · simp [likeChars_char_nil r hp] at h
  | p :: ps, c :: cs, h => by
    by_cases hp : p = '%'
    -- a wildcard that covers a character is still there for the next one
    · subst hp
      rw [likeChars_run_cons, Bool.or_eq_true, Bool.and_eq_true] at h
      rcases h with h | ⟨hw, h⟩
      · exact .skip (matches_of_likeChars r ps (c :: cs) h)
      · exact .more hw (matches_of_likeChars r ('%' :: ps) cs h)
    · rw [likeChars_char_cons r hp, Bool.and_eq_true] at h
      exact .one hp h.1 (matches_of_likeChars r ps cs h.2)
termination_by ps cs => (ps.length, cs.length)

theorem likeChars_of_matches {r : LikeRule} {ps cs : List Char} (h : Matches r ps cs) : likeChars r ps cs = true := by
  induction h with
  | nil => rfl
  | @skip ps cs _ ih => cases cs <;> simp [ih]
  | more hw _ ih => simp [hw, ih]
  | one hp hc _ ih => simp [likeChars_char_cons _ hp, hc, ih]

/-- The table finds a match exactly when there is one. -/
theorem like_iff_matches (r : LikeRule) (pattern text : String) :
    like r pattern text = true ↔ Matches r pattern.toList text.toList :=
  ⟨matches_of_likeChars r _ _, likeChars_of_matches⟩

end CatalogFinder.Text
