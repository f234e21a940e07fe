import CatalogFinder.Proofs.Tables.Masks
import CatalogFinder.Proofs.Text.Upper
import CatalogFinder.Search.Params

/-!
# Masks as beginnings of names

The mask that a search compares names with always has a `%`, and is its own mask: folding it once more does not change
it. A mask that was given without one is a beginning: it matches the names that begin with its characters, any of which
may be a `_`.

* `Text.Begins` : a text begins with a mask;
* `Text.matches_run_iff` : a mask and a `%` behind it match the texts that begin with the mask;
* `Params.effectiveMask_begins` : the mask of a search, and the names that it matches.
-/

namespace CatalogFinder

namespace Text

/-- The text has as many characters as the mask, at least, and each of the first ones is that of the mask, or the mask
has a `_` there. -/
def Begins (mask text : List Char) : Prop :=
  mask.length ≤ text.length ∧ ∀ pair ∈ mask.zip text, pair.2 = pair.1 ∨ pair.1 = '_'

instance (mask text : List Char) : Decidable (Begins mask text) := inferInstanceAs (Decidable (_ ∧ _))

theorem begins_nil (text : List Char) : Begins [] text := ⟨Nat.zero_le _, by simp⟩

theorem not_begins_nil (p : Char) (mask : List Char) : ¬ Begins (p :: mask) [] := by
  rintro ⟨hlength, -⟩
  simp at hlength

theorem begins_cons_iff {p c : Char} {mask text : List Char} :
    Begins (p :: mask) (c :: text) ↔ (c = p ∨ p = '_') ∧ Begins mask text := by
  unfold Begins
  rw [List.zip_cons_cons, List.forall_mem_cons, List.length_cons, List.length_cons, Nat.add_le_add_iff_right]
  exact and_left_comm

theorem covers_exact_iff {p c : Char} : LikeRule.exact.covers p c = true ↔ c = p ∨ p = '_' := by
  unfold LikeRule.covers LikeRule.exact
  split
  next hp => simp [hp]
  next hp =>
    rw [beq_iff_eq, or_iff_left hp]
    exact eq_comm

/-- A mask without `%` and a `%` behind it match the texts that begin with the mask. -/
theorem matches_run_iff {mask text : List Char} (hmask : '%' ∉ mask) :
    Matches .exact (mask ++ ['%']) text ↔ Begins mask text := by
  induction mask generalizing text with
  | nil => exact iff_of_true (Matches.run (fun _ => rfl) text) (begins_nil text)
  | cons p mask ih =>
    rw [List.mem_cons, not_or] at hmask
    obtain ⟨hp, hmask⟩ := hmask
    rw [List.cons_append]
    constructor
    · intro h
      cases h with
      | skip => exact absurd rfl hp
      | more => exact absurd rfl hp
      | one _ hcovers h => exact begins_cons_iff.2 ⟨covers_exact_iff.1 hcovers, (ih hmask).1 h⟩
    · intro h
      cases text with
      | nil => exact absurd h (not_begins_nil p mask)
      | cons c text =>
        obtain ⟨hc, hrest⟩ := begins_cons_iff.1 h
        exact .one (Ne.symm hp) (covers_exact_iff.2 hc) ((ih hmask).2 hrest)

theorem percent_mem_compared {s : String} (h : '%' ∈ compared s) : '%' ∈ s.toList := by
  obtain ⟨c, hc, hpercent⟩ := List.mem_map.1 h
  rw [comparedChar_eq_of_literal (by decide)] at hpercent
  rw [← hpercent]
  exact (List.takeWhile_prefix _).subset hc

end Text

namespace Params

variable (p : Params)

/-- The mask in the case that names are compared in. -/
def foldedMask : String := if p.caseSensitive then p.mask else Text.upper p.mask

theorem effectiveMask_eq :
    p.effectiveMask = if '%' ∈ p.foldedMask.toList then p.foldedMask else p.foldedMask ++ "%" := by
  show (if p.foldedMask.toList.contains '%' = true then p.foldedMask else p.foldedMask ++ "%") = _
  by_cases h : '%' ∈ p.foldedMask.toList
  · rw [if_pos h, if_pos (List.contains_iff_mem.2 h)]
  · rw [if_neg h, if_neg (mt List.contains_iff_mem.1 h)]

/-- Folding makes no wildcard and takes none away. -/
theorem percent_mem_foldedMask : '%' ∈ p.foldedMask.toList ↔ '%' ∈ p.mask.toList := by
  unfold foldedMask
  split
  next => rfl
  next => exact Text.wildcard_mem_upper (.inl rfl) p.mask

theorem percent_mem_effectiveMask : '%' ∈ p.effectiveMask.toList := by
  rw [effectiveMask_eq]
  split
  next h => exact h
  next => simp

/-- The mask of a search is folded already. -/
theorem foldedMask_effectiveMask : ({ p with mask := p.effectiveMask } : Params).foldedMask = p.effectiveMask := by
  cases hcase : p.caseSensitive with
  | true => rfl
  | false =>
    have hfolded : Text.upper p.foldedMask = p.foldedMask := by simp [foldedMask, hcase, Text.upper_upper]
    have hpercent : Text.upper "%" = "%" := by decide
    have heffective : Text.upper p.effectiveMask = p.effectiveMask := by
      rw [effectiveMask_eq]
      split
      next => exact hfolded
      next => rw [Text.upper_append, hfolded, hpercent]
    simpa [foldedMask, hcase] using heffective

theorem effectiveMask_effectiveMask :
    ({ p with mask := p.effectiveMask } : Params).effectiveMask = p.effectiveMask := by
  rw [effectiveMask_eq, foldedMask_effectiveMask, if_pos p.percent_mem_effectiveMask]

theorem effectiveMask_of_prefix (h : '%' ∉ p.mask.toList) : p.effectiveMask = p.foldedMask ++ "%" := by
  rw [effectiveMask_eq, if_neg (mt p.percent_mem_foldedMask.1 h)]

/-- **The mask of a search has a `%` and is its own mask; given without one, it is a beginning of names.** The names
that it matches, each of whose characters stands for itself, begin with the folded mask. So do the names that the
database finds it like, if the mask has no zero character, as far as the two are compared. -/
theorem effectiveMask_begins :
    '%' ∈ p.effectiveMask.toList ∧
      ({ p with mask := p.effectiveMask } : Params).effectiveMask = p.effectiveMask ∧
      ('%' ∉ p.mask.toList → ∀ name : String,
        (Text.like .exact p.effectiveMask name = true ↔ Text.Begins p.foldedMask.toList name.toList) ∧
        ('\x00' ∉ p.foldedMask.toList → ((Value.text name).isLike p.effectiveMask = true ↔
          Text.Begins (Text.compared p.foldedMask) (Text.compared name)))) := by
  refine ⟨p.percent_mem_effectiveMask, p.effectiveMask_effectiveMask, fun hmask name => ?_⟩
  have hfolded : '%' ∉ p.foldedMask.toList := mt p.percent_mem_foldedMask.1 hmask
  rw [p.effectiveMask_of_prefix hmask]
  constructor
  · rw [Text.like_iff_matches, String.toList_append]
    exact Text.matches_run_iff hfolded
  · intro hzero
    have hcompared : Text.compared (p.foldedMask ++ "%") = Text.compared p.foldedMask ++ ['%'] := by
      rw [Text.compared_append, if_neg hzero]
      rfl
    rw [Mask.isLike_text, Mask.Fits, hcompared]
    exact Text.matches_run_iff (mt Text.percent_mem_compared hfolded)

/-- A mask whose upper case is longer than the mask, with a `_` at its end. -/
def streetMask : Params := { mask := "straße_" }

theorem effectiveMask_streetMask :
    '%' ∉ streetMask.mask.toList ∧ '\x00' ∉ streetMask.foldedMask.toList ∧
      streetMask.effectiveMask = "STRASSE_%" ∧ Text.like .exact "STRASSE_%" "STRASSE1A" = true ∧
      (Value.text "STRASSE1A").isLike "STRASSE_%" = true ∧ Text.like .exact "STRASSE_%" "STRASSE" = false := by
  have hpercent : '%' ∉ streetMask.mask.toList := by decide
  have hupper : streetMask.foldedMask = "STRASSE_" := by decide +kernel
  have hzero : '\x00' ∉ streetMask.foldedMask.toList := by
    rw [hupper]
    decide
  have hmask : streetMask.effectiveMask = "STRASSE_%" := by decide +kernel
  have hbegins := streetMask.effectiveMask_begins.2.2 hpercent
  have hnames := fun name => (hbegins name).1
  have hdatabase := fun name => (hbegins name).2 hzero
  rw [hmask, hupper] at hnames hdatabase
  refine ⟨hpercent, hzero, hmask, (hnames _).2 (by decide), (hdatabase _).2 (by decide), ?_⟩
  rw [← Bool.not_eq_true, hnames]
  decide

end Params

end CatalogFinder
