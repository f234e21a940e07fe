/-!
# Bytes and characters

A text has at least as many bytes in UTF-8 as it has characters. It has no more exactly if it is in ASCII.

* `size_ofList`, `utf8ByteSize_ofList` : the bytes of a list of characters;
* `IsAscii`, `length_eq_utf8ByteSize_iff` : the texts with one byte for each character.
-/

namespace CatalogFinder.Text

theorem utf8Size_eq_one_iff (c : Char) : c.utf8Size = 1 ↔ c.toNat < 0x80 := by
  rw [Char.utf8Size_eq_one_iff, UInt32.le_iff_toNat_le]
  exact Nat.lt_succ_iff.symm

theorem size_ofList (cs : List Char) : cs.length ≤ (String.ofList cs).utf8ByteSize ∧
    (cs.length = (String.ofList cs).utf8ByteSize ↔ ∀ c ∈ cs, c.toNat < 0x80) := by
  induction cs with
  | nil => exact ⟨Nat.le_refl 0, by simp⟩
  | cons c cs ih =>
    have hsize := c.utf8Size_pos
    have hone := utf8Size_eq_one_iff c
    rw [String.ofList_cons, String.utf8ByteSize_append, String.utf8ByteSize_singleton, List.length_cons,
      List.forall_mem_cons, ← hone, ← ih.2]
    omega

/-- Characters of ASCII are one byte each. -/
theorem utf8ByteSize_ofList {cs : List Char} (h : ∀ c ∈ cs, c.toNat < 0x80) :
    (String.ofList cs).utf8ByteSize = cs.length := ((size_ofList cs).2.2 h).symm

/-- All characters are in ASCII. -/
def IsAscii (s : String) : Prop := ∀ c ∈ s.toList, c.toNat < 0x80

theorem length_le_utf8ByteSize (s : String) : s.length ≤ s.utf8ByteSize := by
  have hsize := (size_ofList s.toList).1
  rwa [String.ofList_toList, String.length_toList] at hsize

/-- A text has one byte for each character if it is in ASCII, and else more. -/
theorem length_eq_utf8ByteSize_iff (s : String) : s.length = s.utf8ByteSize ↔ IsAscii s := by
  have hsize := (size_ofList s.toList).2
  rwa [String.ofList_toList, String.length_toList] at hsize

end CatalogFinder.Text
