import CatalogFinder.Proofs.Catalog.Filters
import CatalogFinder.Proofs.Tables.Masks
import CatalogFinder.Proofs.Text.Runs
import Mathlib.Data.List.Count

/-!
# Filters and exact patterns

A filter is meant to be wider than the database: a schema that is like a pattern, every character as it is, fits the
pattern of a filter. It does not if one of the wildcards has to pass over a line feed, which is so exactly if the schema
has more line feeds than the pattern. Such a schema is not taken by an included pattern that it is like, and is not held
back by an excluded one, not even by `%`.

* `Text.foldChar_eq_newline_iff` : no other character is a line feed but for its case;
* `Text.count_le_of_exact`, `Text.count_eq_of_folded` : line feeds in a text and in what it matches;
* `Text.folded_iff_of_exact` : when a text that matches a pattern as it is matches it on one line;
* `Filter.accepts_of_like` : what a filter of one pattern says of the schemas that are like it;
* `Filter.accepts_twoLines` : a schema on two lines that is like `%`.
-/

namespace CatalogFinder

namespace Text

/-! ## Line feeds and their case -/

/-- Folding moves nothing to a line feed, nor to a code point below it. -/
theorem newline_lt_of_mem {r : CaseRun} (h : r ∈ foldRuns) : (10 : Int) < r.first + r.shift := by
  have hall : foldRuns.all fun r => decide ((10 : Int) < r.first + r.shift) := by decide
  exact of_decide_eq_true (List.all_eq_true.1 hall r h)

theorem foldChar_eq_newline_iff {c : Char} : foldChar c = '\n' ↔ c = '\n' := by
  constructor
  · intro h
    unfold foldChar at h
    cases hmap : CaseRun.map? foldRuns c with
    | none =>
      rw [hmap] at h
      exact h
    | some d =>
      rw [hmap, Option.getD_some] at h
      obtain ⟨r, hr, hcovers, hcode⟩ := CaseRun.exists_of_map? hmap
      have hlow := newline_lt_of_mem hr
      have hfirst := (CaseRun.covers_iff.1 hcovers).1.1
      have hnewline : d.toNat = 10 := congrArg Char.toNat h
      omega
  · rintro rfl
    decide

/-! ## Line feeds of a text that matches -/

variable {ps cs : List Char}

/-- A text has the line feeds of a pattern that it matches as it is, and maybe more. -/
theorem count_le_of_exact (h : Matches .exact ps cs) : ps.count '\n' ≤ cs.count '\n' := by
  induction h with
  | nil => exact Nat.le_refl 0
  | skip _ ih => simpa using ih
  | more _ _ ih => exact ih.trans (List.count_le_count_cons ..)
  | @one p _ c _ hp hcovers _ ih =>
    by_cases hsingle : p = '_'
    · rw [hsingle, List.count_cons_of_ne (by decide)]
      exact ih.trans (List.count_le_count_cons ..)
    · have hc : p = c := by simpa [LikeRule.covers, LikeRule.exact, hsingle] using hcovers
      rw [hc, List.count_cons, List.count_cons]
      omega

/-- On one line a text has no other line feeds than those of the pattern. -/
theorem count_eq_of_folded (h : Matches .folded ps cs) : cs.count '\n' = ps.count '\n' := by
  induction h with
  | nil => rfl
  | skip _ ih => simpa using ih
  | @more _ c _ hwild _ ih =>
    have hc : c ≠ '\n' := by simpa [LikeRule.folded] using hwild
    rw [List.count_cons_of_ne hc]
    exact ih
  | @one p _ c _ hp hcovers _ ih =>
    unfold LikeRule.covers LikeRule.folded at hcovers
    split at hcovers
    next hsingle =>
      have hc : c ≠ '\n' := by simpa using hcovers
      rw [hsingle, List.count_cons_of_ne hc, List.count_cons_of_ne (by decide), ih]
    next =>
      have hfold : foldChar p = foldChar c := by simpa using hcovers
      have hnewline : c = '\n' ↔ p = '\n' := by rw [← foldChar_eq_newline_iff, ← hfold, foldChar_eq_newline_iff]
      simp only [List.count_cons, ih, beq_iff_eq, hnewline]

/-- Where the rest has all line feeds, the character in front of it is none. -/
theorem ne_newline_of_count {c : Char} {n : Nat} (hrest : n ≤ cs.count '\n') (h : (c :: cs).count '\n' = n) :
    c ≠ '\n' ∧ cs.count '\n' = n := by
  have hc : c ≠ '\n' := by
    rintro rfl
    rw [List.count_cons_self] at h
    omega
  exact ⟨hc, by rwa [List.count_cons_of_ne hc] at h⟩

/-- Without further line feeds, what is the same is the same but for its case. -/
theorem folded_of_exact (h : Matches .exact ps cs) (hcount : cs.count '\n' = ps.count '\n') : Matches .folded ps cs := by
  induction h with
  | nil => exact .nil
  | skip _ ih => exact .skip (ih (by simpa using hcount))
  | @more ps c cs _ h ih =>
    obtain ⟨hc, hcount⟩ := ne_newline_of_count (count_le_of_exact h) hcount
    exact .more (by simpa [LikeRule.folded] using hc) (ih hcount)
  | @one p ps c cs hp hcovers h ih =>
    by_cases hsingle : p = '_'
    · rw [hsingle, List.count_cons_of_ne (b := '_') (by decide)] at hcount
      obtain ⟨hc, hcount⟩ := ne_newline_of_count (count_le_of_exact h) hcount
      exact .one hp (by simpa [LikeRule.covers, LikeRule.folded, hsingle] using hc) (ih hcount)
    · have hc : p = c := by simpa [LikeRule.covers, LikeRule.exact, hsingle] using hcovers
      subst hc
      rw [List.count_cons, List.count_cons] at hcount
      exact .one hp (by simp [LikeRule.covers, LikeRule.folded, hsingle]) (ih (by omega))

/-- A text that matches a pattern as it is matches it on one line exactly if it has no line feeds but those of the
pattern. -/
theorem folded_iff_of_exact {pattern text : String} (h : like .exact pattern text = true) :
    like .folded pattern text = true ↔ text.toList.count '\n' = pattern.toList.count '\n' := by
  rw [like_iff_matches] at h ⊢
  exact ⟨count_eq_of_folded, folded_of_exact h⟩

theorem like_percent (text : String) : like .exact "%" text = true :=
  (like_iff_matches _ _ _).2 (Matches.run (fun _ => rfl) _)

end Text

namespace Filter

theorem accepts_included (pattern schema : String) :
    ({ included := [pattern] } : Filter).accepts schema = Text.like .folded pattern schema := by
  simp [accepts]

theorem accepts_excluded (pattern schema : String) :
    ({ excluded := [pattern] } : Filter).accepts schema = !Text.like .folded pattern schema := by
  simp [accepts]

/-- What an excluded pattern matches is not accepted, whatever else the filter says. -/
theorem accepts_eq_false {f : Filter} {pattern schema : String} (hpattern : pattern ∈ f.excluded)
    (h : Text.like .folded pattern schema = true) : f.accepts schema = false := by
  have hany : f.excluded.any (Text.like .folded · schema) = true := List.any_eq_true.2 ⟨pattern, hpattern, h⟩
  rw [accepts, hany, Bool.not_true, Bool.and_false]

/-- **A schema that is like a pattern is taken by a filter that includes it, and held back by one that excludes it**,
exactly if the schema has no line feeds but those of the pattern. So what is on one line is held back by an excluded
`%`. To the database too a plain schema is like a plain pattern if each character is as it is. -/
theorem accepts_of_like (schema : String) :
    (∀ pattern : String, Text.like .exact pattern schema = true →
      (({ included := [pattern] } : Filter).accepts schema = true ↔
        schema.toList.count '\n' = pattern.toList.count '\n') ∧
      (({ excluded := [pattern] } : Filter).accepts schema = false ↔
        schema.toList.count '\n' = pattern.toList.count '\n')) ∧
    ('\n' ∉ schema.toList → ∀ f : Filter, "%" ∈ f.excluded → f.accepts schema = false) ∧
    ∀ pattern : String, Text.IsPlain pattern → Text.IsPlain schema →
      (Value.text schema).isLike pattern = Text.like .exact pattern schema := by
  refine ⟨fun pattern h => ?_, fun hline f hf => ?_, fun pattern hpattern hschema => ?_⟩
  · rw [accepts_included, accepts_excluded, Bool.not_eq_false', Text.folded_iff_of_exact h]
    exact ⟨Iff.rfl, Iff.rfl⟩
  · apply accepts_eq_false hf
    rw [Text.folded_iff_of_exact (Text.like_percent schema), List.count_eq_zero.2 hline]
    decide
  · rw [Bool.eq_iff_iff, Mask.isLike_text, Mask.Fits, Text.compared_eq_of_plain hpattern,
      Text.compared_eq_of_plain hschema, Text.like_iff_matches]

/-- A pattern that spells the line feed of a schema out, and one that does not. -/
theorem accepts_spelledOut :
    Text.like .exact "S%\n_U" "SALES\nEU" = true ∧ Text.like .exact "S%" "SALES\nEU" = true ∧
      ({ excluded := ["S%\n_U"] } : Filter).accepts "SALES\nEU" = false ∧
      ¬ ({ excluded := ["S%"] } : Filter).accepts "SALES\nEU" = false := by
  have hspelled : Text.like .exact "S%\n_U" "SALES\nEU" = true := by decide
  have hwild : Text.like .exact "S%" "SALES\nEU" = true := by decide
  refine ⟨hspelled, hwild, (((accepts_of_like _).1 _ hspelled).2).2 (by decide), ?_⟩
  rw [((accepts_of_like _).1 _ hwild).2]
  decide

/-- A schema on two lines is like `%`, but a filter that includes `%` leaves it out, and one that excludes `%` lets it
in. -/
theorem accepts_twoLines :
    Text.like .exact "%" "A\nB" = true ∧ ({ included := ["%"] } : Filter).accepts "A\nB" = false ∧
      ({ excluded := ["%"] } : Filter).accepts "A\nB" = true := by
  decide

end Filter

end CatalogFinder
