import CatalogFinder.Proofs.Json.Reading
import CatalogFinder.Proofs.Text.Ascii

/-!
# The characters of a written value

A written value consists of its strings, character by character, and of marks around them. No control character is in
it, and a character outside of ASCII only if one of the strings has it.

* `Json.texts` : the strings of a value, the names of members among them;
* `Json.forall_compactChars_iff` : what holds of the marks and of every string holds of the whole;
* `Json.blank_le_of_mem`, `Json.isAscii_compact_iff` : so no control character is written, and only ASCII for ASCII.
-/

namespace CatalogFinder

namespace Json

open Text (hexDigit)

/-! ## The strings of a value -/

mutual

/-- The strings in a value, and the names of members. -/
def texts : Json → List String
  | string s => [s]
  | array items => itemTexts items
  | object members => memberTexts members
  | _ => []

def itemTexts : List Json → List String
  | [] => []
  | j :: rest => texts j ++ itemTexts rest

def memberTexts : List (String × Json) → List String
  | [] => []
  | (name, j) :: rest => name :: texts j ++ memberTexts rest

end

/-! ## What is written -/

/-- The characters that stand around strings. -/
def marks : List Char := "\x7b\x7d[]:,-0123456789nulltruefalse".toList

/-- The character is one of ASCII, and no control character. -/
def isPrintable (c : Char) : Bool := 0x20 ≤ c.toNat && c.toNat < 0x80

theorem isPrintable_iff (c : Char) : isPrintable c = true ↔ 0x20 ≤ c.toNat ∧ c.toNat < 0x80 := by
  rw [isPrintable, Bool.and_eq_true, decide_eq_true_iff, decide_eq_true_iff]

theorem isPrintable_of_mem_marks {c : Char} (h : c ∈ marks) : isPrintable c = true := by
  have hall : marks.all isPrintable = true := by decide
  exact List.all_eq_true.1 hall c h

theorem digit_mem_marks {n : Nat} {c : Char} (h : c ∈ Text.decimalDigits n) : c ∈ marks := by
  have hall : ∀ n < 58, 48 ≤ n → Char.ofNat n ∈ marks := by decide
  have hdigit : 48 ≤ c.val ∧ c.val ≤ 57 := by
    simpa [Char.isDigit] using Nat.isDigit_of_mem_toDigits (by decide) (by decide) h
  rw [UInt32.le_iff_toNat_le, UInt32.le_iff_toNat_le] at hdigit
  rw [← Char.ofNat_toNat c]
  exact hall c.toNat (Nat.lt_succ_of_le hdigit.2) hdigit.1

section Pieces

variable {P : Char → Prop} (hmarks : ∀ c ∈ marks, P c)

include hmarks

theorem forall_intDigits (i : Int) : ∀ c ∈ Text.intDigits i, P c := by
  have hdigits : ∀ c ∈ Text.decimalDigits i.natAbs, P c := fun c hc => hmarks c (digit_mem_marks hc)
  unfold Text.intDigits
  split
  next => exact List.forall_mem_cons.2 ⟨hmarks '-' (by decide), hdigits⟩
  next => exact hdigits

theorem forall_compactItems_cons (j : Json) (rest : List Json) :
    (∀ c ∈ compactItems (j :: rest), P c) ↔ (∀ c ∈ compactChars j, P c) ∧ ∀ c ∈ compactItems rest, P c := by
  have hbracket : P ']' := hmarks _ (by decide)
  have hcomma : P ',' := hmarks _ (by decide)
  cases rest with
  | nil => simp only [compactItems, List.forall_mem_append]
  | cons k rest => simp only [compactItems, List.forall_mem_append, List.forall_mem_cons, hcomma, true_and]

theorem forall_compactMembers_cons (name : String) (j : Json) (rest : List (String × Json)) :
    (∀ c ∈ compactMembers ((name, j) :: rest), P c) ↔
      (∀ c ∈ quoted name, P c) ∧ (∀ c ∈ compactChars j, P c) ∧ ∀ c ∈ compactMembers rest, P c := by
  have hcolon : P ':' := hmarks _ (by decide)
  have hcomma : P ',' := hmarks _ (by decide)
  cases rest with
  | nil =>
    simp only [compactMembers, List.append_assoc, List.cons_append, List.forall_mem_append, List.forall_mem_cons,
      hcolon, true_and]
  | cons k rest =>
    simp only [compactMembers, List.append_assoc, List.cons_append, List.forall_mem_append, List.forall_mem_cons,
      hcolon, hcomma, true_and]

mutual

/-- What holds of the marks and of every string holds of the whole. -/
theorem forall_compactChars_iff (j : Json) (h : j.exact = true) :
    (∀ c ∈ compactChars j, P c) ↔ ∀ s ∈ j.texts, ∀ c ∈ quoted s, P c := by
  have hword : ∀ cs : List Char, cs ⊆ marks →
      ((∀ c ∈ cs, P c) ↔ ∀ s ∈ ([] : List String), ∀ c ∈ quoted s, P c) := fun cs hcs =>
    ⟨fun _ s hs => absurd hs List.not_mem_nil, fun _ c hc => hmarks c (hcs hc)⟩
  match j, h with
  | null, _ => exact hword _ (by decide)
  | boolean true, _ => exact hword _ (by decide)
  | boolean false, _ => exact hword _ (by decide)
  | integer i, _ => exact ⟨fun _ s hs => absurd hs List.not_mem_nil, fun _ => forall_intDigits hmarks i⟩
  | string s, _ =>
    rw [texts, List.forall_mem_singleton]
    rfl
  | array items, h =>
    rw [compactChars, List.forall_mem_cons, forall_compactItems_iff items (by simpa [exact] using h)]
    exact and_iff_right (hmarks '[' (by decide))
  | object members, h =>
    rw [compactChars, List.forall_mem_cons, forall_compactMembers_iff members (by simpa [exact] using h)]
    exact and_iff_right (hmarks '{' (by decide))

theorem forall_compactItems_iff (items : List Json) (h : exactItems items = true) :
    (∀ c ∈ compactItems items, P c) ↔ ∀ s ∈ itemTexts items, ∀ c ∈ quoted s, P c := by
  match items, h with
  | [], _ =>
    rw [compactItems, List.forall_mem_singleton]
    exact ⟨fun _ s hs => absurd hs List.not_mem_nil, fun _ => hmarks ']' (by decide)⟩
  | j :: rest, h =>
    rw [exactItems, Bool.and_eq_true] at h
    rw [forall_compactItems_cons hmarks, forall_compactChars_iff j h.1, forall_compactItems_iff rest h.2, itemTexts,
      List.forall_mem_append]

theorem forall_compactMembers_iff (members : List (String × Json)) (h : exactMembers members = true) :
    (∀ c ∈ compactMembers members, P c) ↔ ∀ s ∈ memberTexts members, ∀ c ∈ quoted s, P c := by
  match members, h with
  | [], _ =>
    rw [compactMembers, List.forall_mem_singleton]
    exact ⟨fun _ s hs => absurd hs List.not_mem_nil, fun _ => hmarks '}' (by decide)⟩
  | (name, j) :: rest, h =>
    rw [exactMembers, Bool.and_eq_true] at h
    rw [forall_compactMembers_cons hmarks, forall_compactChars_iff j h.1, forall_compactMembers_iff rest h.2,
      memberTexts, List.cons_append, List.forall_mem_cons, List.forall_mem_append]

end

end Pieces

/-! ## Control characters and ASCII -/

/-- A character is written as it is, or with printable characters because it is a special one of ASCII. -/
theorem escaped_cases (c : Char) :
    escaped c = [c] ∧ 0x20 ≤ c.toNat ∨ c.toNat < 0x80 ∧ (escaped c).all isPrintable = true := by
  have hhex : ∀ n, isPrintable (hexDigit n) = true := by
    have hall : Text.hexDigits.all isPrintable = true := by decide
    exact fun n => List.all_eq_true.1 hall _ (Text.hexDigit_mem n)
  unfold escaped
  split
  case h_8 =>
    split
    case isTrue hcontrol =>
      refine .inr ⟨by omega, ?_⟩
      simp only [List.all_cons, hhex]
      decide
    case isFalse hplain => exact .inl ⟨rfl, by omega⟩
  all_goals exact .inr (by decide)

theorem forall_quoted_iff {P : Char → Prop} (hquote : P '"') (s : String) :
    (∀ c ∈ quoted s, P c) ↔ ∀ c ∈ s.toList, ∀ d ∈ escaped c, P d := by
  simp only [quoted, List.cons_append, List.forall_mem_cons, List.forall_mem_append, List.forall_mem_flatMap, hquote,
    List.not_mem_nil, false_imp_iff, implies_true, and_true, true_and]

/-- No control character is written for a string. -/
theorem blank_le_of_mem_quoted (s : String) : ∀ c ∈ quoted s, 0x20 ≤ c.toNat := by
  refine (forall_quoted_iff (by decide) s).2 fun c _ d hd => ?_
  rcases escaped_cases c with ⟨hplain, hc⟩ | ⟨-, hall⟩
  · rw [hplain, List.mem_singleton] at hd
    exact hd ▸ hc
  · exact ((isPrintable_iff d).1 (List.all_eq_true.1 hall d hd)).1

theorem isAscii_quoted_iff (s : String) : (∀ c ∈ quoted s, c.toNat < 0x80) ↔ Text.IsAscii s := by
  rw [forall_quoted_iff (by decide)]
  refine forall₂_congr fun c _ => ?_
  rcases escaped_cases c with ⟨hplain, -⟩ | ⟨hc, hall⟩
  · rw [hplain, List.forall_mem_singleton]
  · exact iff_of_true (fun d hd => ((isPrintable_iff d).1 (List.all_eq_true.1 hall d hd)).2) hc

variable {j : Json}

/-- No control character is written. -/
theorem blank_le_of_mem (h : j.exact = true) : ∀ c ∈ compactChars j, 0x20 ≤ c.toNat := by
  have hmarks : ∀ c ∈ marks, 0x20 ≤ c.toNat := fun c hc => ((isPrintable_iff c).1 (isPrintable_of_mem_marks hc)).1
  exact (forall_compactChars_iff hmarks j h).2 fun s _ => blank_le_of_mem_quoted s

theorem isAscii_compact_iff (h : j.exact = true) : Text.IsAscii j.compact ↔ ∀ s ∈ j.texts, Text.IsAscii s := by
  have hmarks : ∀ c ∈ marks, c.toNat < 0x80 := fun c hc => ((isPrintable_iff c).1 (isPrintable_of_mem_marks hc)).2
  rw [Text.IsAscii, compact, String.toList_ofList, forall_compactChars_iff hmarks j h]
  simp only [isAscii_quoted_iff]

end Json

end CatalogFinder
