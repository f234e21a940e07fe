import CatalogFinder.Text.Case.Upper
import CatalogFinder.Proofs.Text.Runs
import Mathlib.Data.Nat.Bitwise

/-!
# Upper case stays

What is in upper case is not moved by the upper-case mapping once more, and the mapping neither makes a wildcard nor
takes one away. For a character this is a fact about the tables: no code point that they move something to is moved by
them, and none is that of a wildcard.

The code points on either side are packed into one number each, of which they are the bits, so that the kernel sees by
one conjunction of two numerals that the tables lead nowhere where they start.

* `movedCodes`, `imageCodes` : the code points that the tables move, and those that they move them to;
* `upperChar_cases` : a character is moved to such code points, or stays;
* `upperChar_of_mem` : a character in upper case stays;
* `upper_upper`, `wildcard_mem_upper` : so does a text, and its wildcards.
-/

namespace CatalogFinder.Text

/-! ## Numbers as bits -/

/-- The number whose bits are the numbers of a list. -/
def bitsOf (l : List Nat) : Nat := l.foldr (fun n bits => 1 <<< n ||| bits) 0

theorem testBit_bitsOf (l : List Nat) (n : Nat) : (bitsOf l).testBit n = true ↔ n ∈ l := by
  induction l with
  | nil => simp [bitsOf]
  | cons m l ih =>
    rw [bitsOf, List.foldr_cons, ← bitsOf, Nat.testBit_lor, Bool.or_eq_true, ih, Nat.one_shiftLeft,
      Nat.testBit_two_pow, decide_eq_true_eq, List.mem_cons, eq_comm]

/-- Lists without a common bit have no common number. -/
theorem disjoint_of_bitsOf {l l' : List Nat} (h : bitsOf l &&& bitsOf l' = 0) : l.Disjoint l' := by
  intro n hn hn'
  have hbit := Nat.testBit_land (bitsOf l) (bitsOf l') n
  rw [h, Nat.zero_testBit, (testBit_bitsOf l n).2 hn, (testBit_bitsOf l' n).2 hn'] at hbit
  cases hbit

/-! ## Where the tables start and where they lead -/

/-- The code points that have an upper case of their own. -/
def movedCodes : List Nat := upperExpansions.map (·.1) ++ upperRuns.flatMap CaseRun.members

/-- The code points that stand in an upper case. What is no character is replaced by the first of all. -/
def imageCodes : List Nat := 0 :: (upperExpansions.flatMap (·.2) ++ upperRuns.flatMap CaseRun.images)

/-- No upper case has an upper case of its own, and none is a wildcard. -/
theorem disjoint_imageCodes : ('%'.toNat :: '_'.toNat :: movedCodes).Disjoint imageCodes :=
  disjoint_of_bitsOf (by decide +kernel)

/-! ## Characters -/

theorem toNat_ofNat_mem {n : Nat} (h : n ∈ imageCodes) : (Char.ofNat n).toNat ∈ imageCodes := by
  rcases toNat_ofNat n with hn | hn
  · rwa [hn]
  · rw [hn]
    exact List.mem_cons_self

/-- The upper case of a character is the character itself, if no table moves it. -/
theorem upperChar_of_not_moved {c : Char} (h : c.toNat ∉ movedCodes) : upperChar c = [c] := by
  have hexpansion : upperExpansions.lookup c.toNat = none := by
    rw [List.lookup_eq_none_iff]
    intro e he
    simp only [bne_iff_ne]
    intro hcode
    exact h (List.mem_append_left _ (List.mem_map.2 ⟨e, he, hcode.symm⟩))
  have hrun : CaseRun.map? upperRuns c = none := by
    rw [CaseRun.map?_eq_none_iff]
    intro r hr hcovers
    exact h (List.mem_append_right _ (List.mem_flatMap.2 ⟨r, hr, CaseRun.mem_members hcovers⟩))
  rw [upperChar, hexpansion, hrun]
  rfl

/-- A character stays, or its upper case is made of code points that the tables lead to. -/
theorem upperChar_cases (c : Char) : upperChar c = [c] ∨ ∀ d ∈ upperChar c, d.toNat ∈ imageCodes := by
  unfold upperChar
  cases hexpansion : upperExpansions.lookup c.toNat with
  | some codes =>
    right
    intro d hd
    obtain ⟨n, hn, rfl⟩ := List.mem_map.1 hd
    obtain ⟨before, behind, hsplit, -⟩ := List.lookup_eq_some_iff.1 hexpansion
    have he : (c.toNat, codes) ∈ upperExpansions := by simp [hsplit]
    apply toNat_ofNat_mem
    exact List.mem_cons_of_mem _ (List.mem_append_left _ (List.mem_flatMap.2 ⟨_, he, hn⟩))
  | none =>
    cases hrun : CaseRun.map? upperRuns c with
    | none =>
      left
      rfl
    | some d =>
      right
      intro d' hd
      obtain rfl := List.mem_singleton.1 hd
      obtain ⟨r, hr, hcovers, hcode | hcode⟩ := CaseRun.exists_of_map? hrun
      · rw [hcode]
        refine List.mem_cons_of_mem _ (List.mem_append_right _ (List.mem_flatMap.2 ⟨r, hr, ?_⟩))
        exact List.mem_map.2 ⟨c.toNat, CaseRun.mem_members hcovers, rfl⟩
      · rw [hcode]
        exact List.mem_cons_self

/-- What is in upper case stays. -/
theorem upperChar_of_mem {c d : Char} (h : d ∈ upperChar c) : upperChar d = [d] := by
  rcases upperChar_cases c with hc | hc
  · rw [hc, List.mem_singleton] at h
    rwa [h]
  · apply upperChar_of_not_moved
    intro hmoved
    exact disjoint_imageCodes (List.mem_cons_of_mem _ (List.mem_cons_of_mem _ hmoved)) (hc d h)

/-- A wildcard is the upper case of itself alone. -/
theorem eq_of_wildcard_mem {c w : Char} (hw : w = '%' ∨ w = '_') (h : w ∈ upperChar c) : c = w := by
  rcases upperChar_cases c with hc | hc
  · rw [hc, List.mem_singleton] at h
    exact h.symm
  · have himage := hc w h
    rcases hw with rfl | rfl
    · exact absurd himage (disjoint_imageCodes (by simp))
    · exact absurd himage (disjoint_imageCodes (by simp))

theorem upperChar_wildcard {w : Char} (hw : w = '%' ∨ w = '_') : upperChar w = [w] := by
  rcases hw with rfl | rfl <;> decide

/-! ## Texts -/

theorem toList_upper (s : String) : (upper s).toList = s.toList.flatMap upperChar := by
  rw [upper, String.toList_ofList]

theorem upper_append (s t : String) : upper (s ++ t) = upper s ++ upper t := by
  apply String.toList_injective
  simp only [toList_upper, String.toList_append, List.flatMap_append]

/-- A text in upper case stays. -/
theorem upper_upper (s : String) : upper (upper s) = upper s := by
  apply String.toList_injective
  rw [toList_upper, toList_upper, List.flatMap_assoc]
  congr 1
  funext c
  calc (upperChar c).flatMap upperChar
      = (upperChar c).flatMap fun d => [d] := List.flatMap_congr fun d hd => upperChar_of_mem hd
    _ = upperChar c := List.flatMap_singleton' _

/-- The upper case of a text has the wildcards of the text, and no others. -/
theorem wildcard_mem_upper {w : Char} (hw : w = '%' ∨ w = '_') (s : String) :
    w ∈ (upper s).toList ↔ w ∈ s.toList := by
  rw [toList_upper, List.mem_flatMap]
  constructor
  · rintro ⟨c, hc, hmem⟩
    rwa [← eq_of_wildcard_mem hw hmem]
  · intro h
    exact ⟨w, h, by rw [upperChar_wildcard hw]; exact List.mem_singleton_self w⟩

end CatalogFinder.Text
