import CatalogFinder.Text.Digits

/-!
# Decimal digits are read as they are written

* `natOfChars?_decimalDigits` : the digits of a number spell it;
* `unsigned?_decimalDigits` : so does the text made of them;
* `decimalDigits_head` : no number but zero starts with a zero.
-/

namespace CatalogFinder.Text

theorem digitValue?_digitChar {d : Nat} (h : d < 10) : digitValue? 10 (Nat.digitChar d) = some d := by
  have hall : ∀ d < 10, digitValue? 10 (Nat.digitChar d) = some d := by decide
  exact hall d h

theorem decimalDigits_of_lt {n : Nat} (h : n < 10) : decimalDigits n = [Nat.digitChar n] :=
  Nat.toDigits_of_lt_base h

theorem decimalDigits_of_ge {n : Nat} (h : 10 ≤ n) :
    decimalDigits n = decimalDigits (n / 10) ++ [Nat.digitChar (n % 10)] :=
  Nat.toDigits_of_base_le (by decide) h

theorem decimalDigits_ne_nil (n : Nat) : decimalDigits n ≠ [] := Nat.toDigits_ne_nil

/-- The values of the digits of a number put the number together. -/
theorem mapM_decimalDigits (n : Nat) :
    ∃ values, (decimalDigits n).mapM (digitValue? 10) = some values ∧ natOfDigits 10 values = n := by
  induction n using Nat.strongRecOn with
  | ind n ih =>
    by_cases h : n < 10
    · refine ⟨[n], ?_, ?_⟩
      · rw [decimalDigits_of_lt h, List.mapM_cons, digitValue?_digitChar h]
        rfl
      · simp [natOfDigits]
    · obtain ⟨values, hvalues, hn⟩ := ih (n / 10) (by omega)
      refine ⟨values ++ [n % 10], ?_, ?_⟩
      · rw [decimalDigits_of_ge (by omega), List.mapM_append, hvalues, List.mapM_cons,
          digitValue?_digitChar (Nat.mod_lt n (by decide))]
        rfl
      · rw [natOfDigits, List.foldl_append, ← natOfDigits, hn]
        simp only [List.foldl_cons, List.foldl_nil]
        omega

theorem natOfChars?_decimalDigits (n : Nat) : natOfChars? 10 (decimalDigits n) = some n := by
  obtain ⟨values, hvalues, hn⟩ := mapM_decimalDigits n
  rw [natOfChars?, hvalues, Option.map_some, hn]

theorem isDigit_of_mem_decimalDigits {n : Nat} {c : Char} (h : c ∈ decimalDigits n) : isDigit c = true := by
  obtain ⟨values, hvalues, -⟩ := mapM_decimalDigits n
  rw [isDigit]
  cases hc : digitValue? 10 c with
  | some d => rfl
  | none =>
    obtain ⟨before, behind, hsplit⟩ := List.append_of_mem h
    rw [hsplit, List.mapM_append, List.mapM_cons, hc] at hvalues
    cases hbefore : before.mapM (digitValue? 10) <;> rw [hbefore] at hvalues <;> cases hvalues

/-- No number but zero starts with a zero. -/
theorem decimalDigits_head {n : Nat} (h : n ≠ 0) : (decimalDigits n).head? ≠ some '0' := by
  induction n using Nat.strongRecOn with
  | ind n ih =>
    by_cases hlt : n < 10
    · have hall : ∀ n < 10, n ≠ 0 → [Nat.digitChar n].head? ≠ some '0' := by decide
      rw [decimalDigits_of_lt hlt]
      exact hall n hlt h
    · have hrest := ih (n / 10) (by omega) (by omega)
      rw [decimalDigits_of_ge (by omega)]
      cases hdigits : decimalDigits (n / 10) with
      | nil => exact absurd hdigits (decimalDigits_ne_nil _)
      | cons c cs =>
        rw [hdigits] at hrest
        exact hrest

/-- A text of the digits of a number spells it. -/
theorem unsigned?_decimalDigits (n : Nat) : unsigned? (String.ofList (decimalDigits n)) = some n := by
  have hplus : ∀ rest, decimalDigits n ≠ '+' :: rest := by
    intro rest h
    have hdigit : isDigit '+' = true := isDigit_of_mem_decimalDigits (n := n) (h ▸ List.mem_cons_self)
    exact absurd hdigit (by decide)
  unfold unsigned?
  rw [String.toList_ofList]
  have hempty : (decimalDigits n).isEmpty = false := by
    rw [List.isEmpty_eq_false_iff]
    exact decimalDigits_ne_nil n
  split
  next rest h => exact absurd h (hplus rest)
  next =>
    simp only [hempty, Bool.false_eq_true, if_false]
    exact natOfChars?_decimalDigits n

theorem intDigits_natCast (n : Nat) : intDigits n = decimalDigits n := by
  rw [intDigits, if_neg (by omega), Int.natAbs_natCast]

end CatalogFinder.Text
