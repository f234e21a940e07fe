import CatalogFinder.Text.Like
import Mathlib.Data.List.Forall2

/-!
# The pieces that a pattern takes

A text matches a pattern if it can be cut into as many pieces as the pattern has characters, of which each is taken by
its character.

* `LikeRule.Takes` : which pieces a character of a pattern takes;
* `matches_iff_pieces` : a match is a cut of the whole text;
* `matches_append_iff` : a pattern in two parts.
-/

namespace CatalogFinder.Text

/-- A wildcard `%` takes any run of characters that it may cover; another character of a pattern takes one. -/
def LikeRule.Takes (r : LikeRule) (p : Char) (piece : List Char) : Prop :=
  if p = '%' then ∀ c ∈ piece, r.wild c = true else ∃ c, piece = [c] ∧ r.covers p c = true

variable (r : LikeRule)

/-- A run in front of what a pattern matches is taken by a wildcard in front of the pattern. -/
theorem Matches.of_run {ps cs piece : List Char} (hpiece : ∀ c ∈ piece, r.wild c = true) (h : Matches r ps cs) :
    Matches r ('%' :: ps) (piece ++ cs) := by
  induction piece with
  | nil => exact .skip h
  | cons c piece ih =>
    obtain ⟨hc, hpiece⟩ := List.forall_mem_cons.1 hpiece
    exact .more hc (ih hpiece)

theorem matches_of_pieces {ps : List Char} {pieces : List (List Char)} (h : List.Forall₂ r.Takes ps pieces) :
    Matches r ps pieces.flatten := by
  induction h with
  | nil => exact .nil
  | @cons p piece ps pieces htakes _ ih =>
    rw [List.flatten_cons]
    unfold LikeRule.Takes at htakes
    split at htakes
    next hp =>
      rw [hp]
      exact .of_run r htakes ih
    next hp =>
      obtain ⟨c, rfl, hc⟩ := htakes
      exact .one hp hc ih

theorem pieces_of_matches {ps cs : List Char} (h : Matches r ps cs) :
    ∃ pieces, List.Forall₂ r.Takes ps pieces ∧ pieces.flatten = cs := by
  induction h with
  | nil => exact ⟨[], .nil, rfl⟩
  | skip _ ih =>
    obtain ⟨pieces, hpieces, rfl⟩ := ih
    exact ⟨[] :: pieces, .cons (by simp [LikeRule.Takes]) hpieces, rfl⟩
  | @more ps c cs hwild _ ih =>
    -- the piece of the wildcard becomes longer by one character
    obtain ⟨_, hpieces, rfl⟩ := ih
    cases hpieces with
    | @cons _ piece _ pieces htakes hrest =>
      refine ⟨(c :: piece) :: pieces, .cons ?_ hrest, rfl⟩
      rw [LikeRule.Takes, if_pos rfl] at htakes ⊢
      exact List.forall_mem_cons.2 ⟨hwild, htakes⟩
  | @one p _ c _ hp hcovers _ ih =>
    obtain ⟨pieces, hpieces, rfl⟩ := ih
    refine ⟨[c] :: pieces, .cons ?_ hpieces, rfl⟩
    rw [LikeRule.Takes, if_neg hp]
    exact ⟨c, rfl, hcovers⟩

/-- A pattern matches a text if its characters take pieces that make up the text. -/
theorem matches_iff_pieces (ps cs : List Char) :
    Matches r ps cs ↔ ∃ pieces, List.Forall₂ r.Takes ps pieces ∧ pieces.flatten = cs := by
  refine ⟨pieces_of_matches r, ?_⟩
  rintro ⟨pieces, hpieces, rfl⟩
  exact matches_of_pieces r hpieces

/-- A pattern in two parts matches the texts in two parts that they match. -/
theorem matches_append_iff (ps qs cs : List Char) :
    Matches r (ps ++ qs) cs ↔ ∃ front back, cs = front ++ back ∧ Matches r ps front ∧ Matches r qs back := by
  simp only [matches_iff_pieces]
  constructor
  · rintro ⟨pieces, hpieces, rfl⟩
    have hfronts := (List.forall₂_take_append pieces ps qs hpieces.flip).flip
    have hbacks := (List.forall₂_drop_append pieces ps qs hpieces.flip).flip
    exact ⟨_, _, by rw [← List.flatten_append, List.take_append_drop], ⟨_, hfronts, rfl⟩, ⟨_, hbacks, rfl⟩⟩
  · rintro ⟨_, _, rfl, ⟨fronts, hfronts, rfl⟩, ⟨backs, hbacks, rfl⟩⟩
    exact ⟨fronts ++ backs, List.rel_append hfronts hbacks, List.flatten_append⟩

end CatalogFinder.Text
