import CatalogFinder.Text.Case.Run
import Mathlib.Data.List.Basic

/-!
# Characters that a run moves

A table of runs moves a character by the shift of the first run that covers it. A sum that is no code point counts as
the first of all.

* `CaseRun.members`, `CaseRun.images` : the code points that a run moves, and those that it moves them to;
* `CaseRun.exists_of_map?` : where a character goes.
-/

namespace CatalogFinder.Text

/-- Numbers that are no code points are replaced by the first code point. -/
theorem toNat_ofNat (n : Nat) : (Char.ofNat n).toNat = n ∨ (Char.ofNat n).toNat = 0 := by
  by_cases h : n.isValidChar
  · left
    rw [Char.ofNat, dif_pos h]
    rfl
  · right
    rw [Char.ofNat, dif_neg h]
    rfl

namespace CaseRun
variable {r : CaseRun} {runs : List CaseRun} {n : Nat} {c d : Char}

/-- The code points that the run moves. -/
def members (r : CaseRun) : List Nat :=
  (List.range ((r.last - r.first) / r.step + 1)).map fun k => r.first + k * r.step

/-- The code points that the run moves them to. -/
def images (r : CaseRun) : List Nat := r.members.map fun (n : Nat) => (n + r.shift).toNat

theorem covers_iff : r.covers n = true ↔ (r.first ≤ n ∧ n ≤ r.last) ∧ (n - r.first) % r.step = 0 := by
  simp [covers]

theorem mem_members (h : r.covers n = true) : n ∈ r.members := by
  obtain ⟨⟨hfirst, hlast⟩, hstep⟩ := covers_iff.1 h
  refine List.mem_map.2 ⟨(n - r.first) / r.step, List.mem_range.2 ?_, ?_⟩
  · have hle : (n - r.first) / r.step ≤ (r.last - r.first) / r.step := Nat.div_le_div_right (by omega)
    omega
  · rw [Nat.div_mul_cancel (Nat.dvd_of_mod_eq_zero hstep)]
    omega

/-- A character that a table moves is covered by a run, and moved by its shift. -/
theorem exists_of_map? (h : map? runs c = some d) :
    ∃ r ∈ runs, r.covers c.toNat = true ∧ (d.toNat = ((c.toNat : Int) + r.shift).toNat ∨ d.toNat = 0) := by
  obtain ⟨r, hr, rfl⟩ := Option.map_eq_some_iff.1 h
  have hcovers : r.covers c.toNat = true := List.find?_some (p := fun r : CaseRun => r.covers c.toNat) hr
  exact ⟨r, List.mem_of_find?_eq_some hr, hcovers, toNat_ofNat _⟩

/-- A character that no run covers is not moved. -/
theorem map?_eq_none_iff : map? runs c = none ↔ ∀ r ∈ runs, ¬ r.covers c.toNat = true := by
  rw [map?, Option.map_eq_none_iff, List.find?_eq_none]

end CaseRun

end CatalogFinder.Text
