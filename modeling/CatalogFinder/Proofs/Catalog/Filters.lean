import CatalogFinder.Catalog.Filter
import CatalogFinder.Proofs.Text.Pieces

/-!
# What a filter accepts

A filter accepts a schema by the pieces that its patterns take of the name. A pattern says the same as the regular
expression that it is written out as: one that ignores the case and covers the whole name, in which the wildcards have
become `.*` and `.` and every other character stands for itself.

* `Filter.Takes`, `Filter.Fits` : the texts that are cut into pieces by a pattern;
* `Expression.read?`, `Expression.Finds` : regular expressions, as they are written and what they find;
* `Expression.read?_ofPattern`, `Expression.finds_ofPattern` : the expression of a pattern is read, and finds the texts
  that fit the pattern;
* `Filter.accepts_iff` : the schemas that a filter accepts.
-/

namespace CatalogFinder

open Text (foldChar LikeRule Matches)

/-! ## Patterns -/

namespace Filter

/-- In a pattern `%` takes any run of characters on one line, `_` takes one such character, and any other character
takes one that is the same but for its case. -/
inductive Takes : Char → List Char → Prop
  | run {piece : List Char} (h : '\n' ∉ piece) : Takes '%' piece
  | single {c : Char} (h : c ≠ '\n') : Takes '_' [c]
  | same {p c : Char} (hrun : p ≠ '%') (hsingle : p ≠ '_') (h : foldChar p = foldChar c) : Takes p [c]

/-- The text can be cut into pieces, one for each character of the pattern, that the characters take. -/
def Fits (pattern text : String) : Prop :=
  ∃ pieces, List.Forall₂ Takes pattern.toList pieces ∧ pieces.flatten = text.toList

theorem takes_run_iff {piece : List Char} : Takes '%' piece ↔ ∀ c ∈ piece, c ≠ '\n' := by
  constructor
  · intro h
    cases h with
    | run h => exact fun c hc heq => h (heq ▸ hc)
    | same hrun => exact absurd rfl hrun
  · exact fun h => .run fun hn => h _ hn rfl

theorem takes_single_iff {piece : List Char} : Takes '_' piece ↔ ∃ c, piece = [c] ∧ c ≠ '\n' := by
  constructor
  · intro h
    cases h with
    | single h => exact ⟨_, rfl, h⟩
    | same _ hsingle => exact absurd rfl hsingle
  · rintro ⟨c, rfl, h⟩
    exact .single h

theorem takes_same_iff {p : Char} (hrun : p ≠ '%') (hsingle : p ≠ '_') {piece : List Char} :
    Takes p piece ↔ ∃ c, piece = [c] ∧ foldChar p = foldChar c := by
  constructor
  · intro h
    cases h with
    | run => exact absurd rfl hrun
    | single => exact absurd rfl hsingle
    | same _ _ h => exact ⟨_, rfl, h⟩
  · rintro ⟨c, rfl, h⟩
    exact .same hrun hsingle h

theorem takes_folded_iff (p : Char) (piece : List Char) : LikeRule.folded.Takes p piece ↔ Takes p piece := by
  unfold LikeRule.Takes LikeRule.covers LikeRule.folded
  split
  next hrun =>
    rw [hrun, takes_run_iff]
    simp only [bne_iff_ne]
  next hrun =>
    split
    next hsingle =>
      rw [hsingle, takes_single_iff]
      simp only [bne_iff_ne]
    next hsingle =>
      rw [takes_same_iff hrun hsingle]
      simp only [beq_iff_eq]

theorem matches_iff_fits (pattern text : String) :
    Matches .folded pattern.toList text.toList ↔ Fits pattern text := by
  have htakes : LikeRule.folded.Takes = Takes := by
    funext p piece
    exact propext (takes_folded_iff p piece)
  rw [Text.matches_iff_pieces, htakes]
  rfl

theorem like_iff_fits (pattern text : String) : Text.like .folded pattern text = true ↔ Fits pattern text :=
  (Text.like_iff_matches _ _ _).trans (matches_iff_fits pattern text)

end Filter

/-! ## Regular expressions -/

/-- What stands for one character: the point, or a character itself. -/
inductive Expression.Single where
  | any
  | same (c : Char)
  deriving DecidableEq, Repr

/-- A part of a regular expression: one of its ends, or something that stands for one character or for any number. -/
inductive Expression.Part where
  | start
  | stop
  | one (s : Single)
  | many (s : Single)
  deriving DecidableEq, Repr

/-- A regular expression that ignores the case. -/
structure Expression where
  parts : List Expression.Part
  deriving DecidableEq, Repr

namespace Expression

/-- The characters that stand for themselves behind a backslash. -/
def special : List Char :=
  ['\\', '.', '+', '*', '?', '(', ')', '|', '[', ']', '{', '}', '^', '$', '#', '&', '-', '~']

/-- What has been read of an expression: its parts, last one first, and whether a backslash was the last character. -/
structure Reading where
  parts : List Part := []
  escaped : Bool := false

/-- Reads the next character. A star belongs to what is in front of it; groups and the like are not read. -/
def Reading.next? (r : Reading) (c : Char) : Option Reading :=
  if r.escaped then
    if c ∈ special then some { parts := .one (.same c) :: r.parts } else none
  else
    match c, r.parts with
    | '\\', parts => some { parts, escaped := true }
    | '^', parts => some { parts := .start :: parts }
    | '$', parts => some { parts := .stop :: parts }
    | '.', parts => some { parts := .one .any :: parts }
    | '*', .one s :: parts => some { parts := .many s :: parts }
    | c, parts => if c ∈ special then none else some { parts := .one (.same c) :: parts }

/-- The expression that a text spells. Those that do not ignore the case are not read. -/
def read? (text : String) : Option Expression :=
  match text.toList with
  | '(' :: '?' :: 'i' :: ')' :: cs =>
    match cs.foldlM Reading.next? {} with
    | some ⟨parts, false⟩ => some ⟨parts.reverse⟩
    | _ => none
  | _ => none

def Single.Takes : Single → Char → Prop
  | any, c => c ≠ '\n'
  | same p, c => foldChar p = foldChar c

/-- The parts are found one after the other, from a place in a text on: `before` and `behind` are what stands on either
side of it. -/
inductive Passes : List Part → List Char → List Char → Prop
  | done {before behind} : Passes [] before behind
  | start {parts behind} : Passes parts [] behind → Passes (.start :: parts) [] behind
  | stop {parts before} : Passes parts before [] → Passes (.stop :: parts) before []
  | one {s c parts before behind} : s.Takes c → Passes parts (before ++ [c]) behind →
      Passes (.one s :: parts) before (c :: behind)
  | leave {s parts before behind} : Passes parts before behind → Passes (.many s :: parts) before behind
  | again {s c parts before behind} : s.Takes c → Passes (.many s :: parts) (before ++ [c]) behind →
      Passes (.many s :: parts) before (c :: behind)

/-- The expression is found somewhere in the text. -/
def Finds (e : Expression) (text : String) : Prop :=
  ∃ before behind, before ++ behind = text.toList ∧ Passes e.parts before behind

/-! ## The expression of a pattern -/

/-- What is written for a character of a pattern. -/
def written (p : Char) : List Char :=
  if p = '%' then ['.', '*'] else if p = '_' then ['.'] else if p ∈ special then ['\\', p] else [p]

/-- The text of a pattern's expression. -/
def ofPattern (pattern : String) : String :=
  String.ofList ("(?i)^".toList ++ pattern.toList.flatMap written ++ ['$'])

/-- The part that stands for a character of a pattern. -/
def partOf (p : Char) : Part := if p = '%' then .many .any else if p = '_' then .one .any else .one (.same p)

theorem Reading.next?_of_not_special {c : Char} (h : c ∉ special) (parts : List Part) :
    next? ⟨parts, false⟩ c = some ⟨.one (.same c) :: parts, false⟩ := by
  unfold next?
  rw [if_neg Bool.false_ne_true]
  split
  case h_6 => exact if_neg h
  all_goals exact absurd (by decide) h

/-- What is written for a character is read as its part. -/
theorem Reading.foldlM_written (p : Char) (parts : List Part) :
    (written p).foldlM next? ⟨parts, false⟩ = some ⟨partOf p :: parts, false⟩ := by
  unfold written partOf
  split
  next => rfl
  next =>
    split
    next => rfl
    next =>
      split
      next hspecial =>
        have hbackslash : next? ⟨parts, false⟩ '\\' = some ⟨parts, true⟩ := rfl
        have hescaped : next? ⟨parts, true⟩ p = some ⟨.one (.same p) :: parts, false⟩ := if_pos hspecial
        rw [List.foldlM_cons, hbackslash, Option.bind_eq_bind, Option.bind_some, List.foldlM_cons, hescaped]
        rfl
      next hplain =>
        rw [List.foldlM_cons, next?_of_not_special hplain]
        rfl

theorem Reading.foldlM_flatMap (ps : List Char) (parts : List Part) :
    (ps.flatMap written).foldlM next? ⟨parts, false⟩ = some ⟨(ps.map partOf).reverse ++ parts, false⟩ := by
  induction ps generalizing parts with
  | nil => rfl
  | cons p ps ih =>
    rw [List.flatMap_cons, List.foldlM_append, foldlM_written, Option.bind_eq_bind, Option.bind_some, ih, List.map_cons,
      List.reverse_cons, List.append_assoc, List.singleton_append]

/-- The expression of a pattern is read part by part. -/
theorem read?_ofPattern (pattern : String) :
    read? (ofPattern pattern) = some ⟨.start :: (pattern.toList.map partOf ++ [.stop])⟩ := by
  have hstart : Reading.next? {} '^' = some ⟨[.start], false⟩ := rfl
  have hstop : ∀ parts, ['$'].foldlM Reading.next? ⟨parts, false⟩ = some ⟨.stop :: parts, false⟩ := fun _ => rfl
  have hread : ('^' :: (pattern.toList.flatMap written ++ ['$'])).foldlM Reading.next? {} =
      some ⟨.stop :: ((pattern.toList.map partOf).reverse ++ [.start]), false⟩ := by
    rw [List.foldlM_cons, hstart, Option.bind_eq_bind, Option.bind_some, List.foldlM_append, Reading.foldlM_flatMap,
      Option.bind_eq_bind, Option.bind_some, hstop]
  have hfront : "(?i)^".toList = ['(', '?', 'i', ')', '^'] := by decide
  unfold read? ofPattern
  rw [String.toList_ofList, hfront]
  simp only [List.cons_append, List.nil_append, hread, List.reverse_cons, List.reverse_append, List.reverse_reverse,
    List.reverse_nil]

example : ofPattern "SYS%" = "(?i)^SYS.*$" ∧ ofPattern "A_B" = "(?i)^A.B$" ∧ ofPattern "A.B" = "(?i)^A\\.B$" := by
  decide

/-! ## What it finds -/

theorem passes_one_iff {s : Single} {parts : List Part} {before behind : List Char} :
    Passes (.one s :: parts) before behind ↔
      ∃ piece rest, behind = piece ++ rest ∧ (∃ c, piece = [c] ∧ s.Takes c) ∧ Passes parts (before ++ piece) rest := by
  constructor
  · intro h
    cases h with
    | one hc h => exact ⟨[_], _, rfl, ⟨_, rfl, hc⟩, h⟩
  · rintro ⟨_, rest, rfl, ⟨c, rfl, hc⟩, h⟩
    exact .one hc h

theorem passes_many_iff {s : Single} {parts : List Part} {before behind : List Char} :
    Passes (.many s :: parts) before behind ↔
      ∃ run rest, behind = run ++ rest ∧ (∀ c ∈ run, s.Takes c) ∧ Passes parts (before ++ run) rest := by
  constructor
  · intro h
    generalize hparts : Part.many s :: parts = all at h
    induction h with
    | done => cases hparts
    | start => cases hparts
    | stop => cases hparts
    | one => cases hparts
    | leave h =>
      cases hparts
      exact ⟨[], _, rfl, fun _ hc => absurd hc List.not_mem_nil, by rwa [List.append_nil]⟩
    | @again _ c _ before _ hc _ ih =>
      obtain ⟨run, rest, rfl, hrun, h⟩ := ih hparts
      cases hparts
      refine ⟨c :: run, rest, rfl, List.forall_mem_cons.2 ⟨hc, hrun⟩, ?_⟩
      rwa [List.append_assoc, List.singleton_append] at h
  · rintro ⟨run, rest, rfl, hrun, h⟩
    induction run generalizing before with
    | nil => exact .leave (by rwa [List.append_nil] at h)
    | cons c run ih =>
      obtain ⟨hc, hrun⟩ := List.forall_mem_cons.1 hrun
      refine .again hc (ih hrun ?_)
      rwa [List.append_assoc, List.singleton_append]

/-- The part of a character passes over the pieces that the character takes. -/
theorem passes_partOf_iff (p : Char) {parts : List Part} {before behind : List Char} :
    Passes (partOf p :: parts) before behind ↔
      ∃ piece rest, behind = piece ++ rest ∧ Filter.Takes p piece ∧ Passes parts (before ++ piece) rest := by
  unfold partOf
  split
  next hrun =>
    rw [hrun]
    simp only [passes_many_iff, Filter.takes_run_iff, Single.Takes]
  next hrun =>
    split
    next hsingle =>
      rw [hsingle]
      simp only [passes_one_iff, Filter.takes_single_iff, Single.Takes]
    next hsingle => simp only [passes_one_iff, Filter.takes_same_iff hrun hsingle, Single.Takes]

/-- The parts of a pattern pass over what the pattern fits. -/
theorem passes_pattern_iff (ps : List Char) {before behind : List Char} :
    Passes (ps.map partOf ++ [.stop]) before behind ↔
      ∃ pieces, List.Forall₂ Filter.Takes ps pieces ∧ pieces.flatten = behind := by
  induction ps generalizing before behind with
  | nil =>
    constructor
    · intro h
      cases h
      exact ⟨[], .nil, rfl⟩
    · rintro ⟨pieces, hpieces, rfl⟩
      cases hpieces
      exact .stop .done
  | cons p ps ih =>
    rw [List.map_cons, List.cons_append, passes_partOf_iff]
    constructor
    · rintro ⟨piece, rest, rfl, hpiece, h⟩
      obtain ⟨pieces, hpieces, rfl⟩ := ih.1 h
      exact ⟨piece :: pieces, .cons hpiece hpieces, rfl⟩
    · rintro ⟨pieces, hpieces, rfl⟩
      cases hpieces with
      | cons hpiece hpieces => exact ⟨_, _, rfl, hpiece, ih.2 ⟨_, hpieces, rfl⟩⟩

/-- The expression of a pattern finds the texts that fit the pattern. -/
theorem finds_ofPattern (pattern text : String) :
    Finds ⟨.start :: (pattern.toList.map partOf ++ [.stop])⟩ text ↔ Filter.Fits pattern text := by
  unfold Filter.Fits
  rw [← passes_pattern_iff]
  constructor
  · rintro ⟨before, behind, htext, hpasses⟩
    cases hpasses with
    | start h =>
      rw [← htext]
      exact h
  · intro h
    exact ⟨[], text.toList, rfl, .start h⟩

end Expression

namespace Filter

/-- **A filter accepts the schemas that fit one of its patterns**, or all if there is none, and no excluded one. The
expressions that its patterns are written out as are read, and find the texts that fit the patterns. -/
theorem accepts_iff (f : Filter) (schema : String) :
    (f.accepts schema = true ↔
      (f.included = [] ∨ ∃ pattern ∈ f.included, Fits pattern schema) ∧
        ∀ pattern ∈ f.excluded, ¬ Fits pattern schema) ∧
      ∀ pattern ∈ f.included ++ f.excluded, ∃ e, Expression.read? (Expression.ofPattern pattern) = some e ∧
        (e.Finds schema ↔ Fits pattern schema) := by
  constructor
  · simp only [accepts, Bool.and_eq_true, Bool.or_eq_true, List.isEmpty_iff, List.any_eq_true, Bool.not_eq_true',
      List.any_eq_false, like_iff_fits]
  · intro pattern _
    exact ⟨_, Expression.read?_ofPattern pattern, Expression.finds_ofPattern pattern schema⟩

end Filter

end CatalogFinder
