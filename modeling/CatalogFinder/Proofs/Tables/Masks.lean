import CatalogFinder.Tables.Answer
import Mathlib.Data.List.TakeWhile

/-!
# What masks select

Whether a text matches a mask is said by `Text.Matches` on the characters that are compared. A name that is looked up
in one schema has in addition to begin with the literal start of the mask, which only tells texts apart that differ in
a character that is never compared.

* `Mask.Fits` : a text matches a mask;
* `Mask.Finds` : a name is selected by a mask, within a schema or everywhere;
* `selectsName_iff` : the look-up selects the names that the mask finds;
* `finds_iff_fits` : where the start is plain, a look-up in one schema selects no less than one everywhere;
* `finds_iff_matches` : on plain texts a mask is a pattern and nothing else.
-/

namespace CatalogFinder

namespace Text

/-! ## Literal characters -/

/-- The character stands for itself in a pattern. -/
def IsLiteral (c : Char) : Prop := c ≠ '%' ∧ c ≠ '_'

/-- Literal characters cover themselves. -/
theorem Matches.literal {l ps cs : List Char} (hl : ∀ c ∈ l, IsLiteral c) (h : Matches .exact ps cs) :
    Matches .exact (l ++ ps) (l ++ cs) := by
  induction l with
  | nil => exact h
  | cons c l ih =>
    obtain ⟨hrun, hone⟩ := hl c List.mem_cons_self
    refine .one hrun ?_ (ih fun c hc => hl c (List.mem_cons_of_mem _ hc))
    simp [LikeRule.covers, LikeRule.exact, hone]

/-- A text that matches a pattern begins with the literal characters that the pattern begins with. -/
theorem Matches.prefix_of_literal {l ps cs : List Char} (hl : ∀ c ∈ l, IsLiteral c)
    (h : Matches .exact (l ++ ps) cs) : l <+: cs := by
  induction l generalizing cs with
  | nil => exact List.nil_prefix
  | cons c l ih =>
    obtain ⟨hrun, hone⟩ := hl c List.mem_cons_self
    cases h with
    | skip => exact absurd rfl hrun
    | more => exact absurd rfl hrun
    | @one _ _ d cs _ hcovers h =>
      have hc : c = d := by simpa [LikeRule.covers, LikeRule.exact, hone] using hcovers
      rw [← hc]
      exact List.cons_prefix_cons.2 ⟨rfl, ih (fun c hc => hl c (List.mem_cons_of_mem _ hc)) h⟩

/-- Where wildcards cover everything, there is one that matches every text. -/
theorem Matches.run {r : LikeRule} (hwild : ∀ c, r.wild c = true) (cs : List Char) : Matches r ['%'] cs := by
  induction cs with
  | nil => exact .skip .nil
  | cons c cs ih => exact .more (hwild c) ih

/-! ## Compared characters -/

/-- The text holds only characters that are compared as they are. -/
def IsPlain (s : String) : Prop := ∀ c ∈ s.toList, c ≠ '\x00' ∧ comparedChar c = c

theorem comparedChar_eq_of_literal {c d : Char} (hd : d.toNat < 0xFFFD) : comparedChar c = d ↔ c = d := by
  unfold comparedChar
  split
  next hc =>
    constructor
    · intro h
      rw [← h] at hd
      exact absurd hd (by decide)
    · intro h
      rw [h, Bool.or_eq_true, decide_eq_true_eq, decide_eq_true_eq] at hc
      rcases hc with hc | hc <;> exact absurd hd (by rw [hc]; decide)
  next => rfl

theorem eq_of_comparedChar {c d : Char} (h : comparedChar c = d) (hd : d ≠ replacement) : c = d := by
  unfold comparedChar at h
  split at h
  next => exact absurd h.symm hd
  next => exact h

/-- Characters that no other one is compared as are found where they are compared. -/
theorem prefix_of_prefix_map {l cs : List Char} (hl : ∀ c ∈ l, c ≠ replacement) (h : l <+: cs.map comparedChar) :
    l <+: cs := by
  induction l generalizing cs with
  | nil => exact List.nil_prefix
  | cons c l ih =>
    cases cs with
    | nil => exact absurd (List.prefix_nil.1 h) (List.cons_ne_nil c l)
    | cons d cs =>
      rw [List.map_cons, List.cons_prefix_cons] at h
      obtain ⟨hc, hrest⟩ := h
      have hd : d = c := eq_of_comparedChar hc.symm (hl c List.mem_cons_self)
      exact List.cons_prefix_cons.2 ⟨hd.symm, ih (fun c hc => hl c (List.mem_cons_of_mem _ hc)) hrest⟩

theorem isLiteral_comparedChar {c : Char} (h : IsLiteral c) : IsLiteral (comparedChar c) :=
  ⟨fun hc => h.1 ((comparedChar_eq_of_literal (by decide)).1 hc),
    fun hc => h.2 ((comparedChar_eq_of_literal (by decide)).1 hc)⟩

theorem compared_eq_of_plain {s : String} (h : IsPlain s) : compared s = s.toList := by
  have hall : s.toList.takeWhile (· ≠ '\x00') = s.toList := by
    rw [List.takeWhile_eq_self_iff]
    intro c hc
    simpa using (h c hc).1
  rw [compared, hall, List.map_congr_left fun c hc => (h c hc).2, List.map_id']

/-- Nothing is compared that stands behind a zero character. -/
theorem compared_append (a b : String) :
    compared (a ++ b) = if '\x00' ∈ a.toList then compared a else compared a ++ compared b := by
  unfold compared
  rw [String.toList_append]
  split
  next hzero =>
    rw [List.takeWhile_append, if_neg]
    intro hlength
    have hall := List.takeWhile_eq_self_iff.1 ((List.takeWhile_prefix _).eq_of_length hlength)
    simpa using hall _ hzero
  next hzero =>
    have hall : ∀ c ∈ a.toList, decide (c ≠ '\x00') = true := by
      intro c hc
      simpa using fun heq : c = '\x00' => hzero (heq ▸ hc)
    rw [List.takeWhile_append_of_pos hall, List.map_append, List.takeWhile_eq_self_iff.2 hall]

end Text

open Text (IsLiteral IsPlain)

namespace Mask

/-- The text matches the mask, as the two are compared. -/
def Fits (mask text : String) : Prop := Text.Matches .exact (Text.compared mask) (Text.compared text)

/-- The mask selects the name. In one schema, where names are looked up, the name begins with the start of the mask. -/
def Finds (scope : Option String) (mask name : String) : Prop :=
  Fits mask name ∧ (scope.isSome → start mask <+: name.toList)

theorem isLike_text (mask text : String) : (Value.text text).isLike mask = true ↔ Fits mask text :=
  ⟨Text.matches_of_likeChars _ _ _, Text.likeChars_of_matches⟩

instance (mask text : String) : Decidable (Fits mask text) := decidable_of_iff _ (isLike_text mask text)

@[simp] theorem isLike_null (mask : String) : Value.null.isLike mask = false := rfl

theorem isLiteral_start {mask : String} {c : Char} (hc : c ∈ start mask) : IsLiteral c := by
  have h := List.mem_takeWhile_imp hc
  simpa [IsLiteral] using h

theorem begins_text (mask text : String) : begins mask (.text text) = true ↔ start mask <+: text.toList :=
  List.isPrefixOf_iff_prefix

/-- Where nothing but a final wildcard follows the start, the texts that begin with it match. -/
theorem fits_of_startOnly {mask text : String} (hmask : isStartOnly mask = true)
    (htext : start mask <+: text.toList) : Fits mask text := by
  obtain ⟨rest, hrest⟩ := htext
  have hvisible : visible mask = start mask ++ ['%'] := by simpa [isStartOnly] using hmask
  have hpattern : Text.compared mask = (start mask).map Text.comparedChar ++ ['%'] := by
    rw [Text.compared, ← visible, hvisible, List.map_append]
    rfl
  have hstart : ∀ c ∈ start mask, decide (c ≠ '\x00') = true := by
    intro c hc
    have hmem : c ∈ mask.toList.takeWhile (· ≠ '\x00') := (List.takeWhile_prefix _).subset hc
    simpa using List.mem_takeWhile_imp hmem
  have hchars : Text.compared text =
      (start mask).map Text.comparedChar ++ (rest.takeWhile (· ≠ '\x00')).map Text.comparedChar := by
    rw [Text.compared, ← hrest, List.takeWhile_append_of_pos hstart, List.map_append]
  rw [Fits, hpattern, hchars]
  refine Text.Matches.literal ?_ (Text.Matches.run (fun _ => rfl) _)
  intro c hc
  obtain ⟨d, hd, rfl⟩ := List.mem_map.1 hc
  exact Text.isLiteral_comparedChar (isLiteral_start hd)

theorem selects_text (mask name : String) :
    selects mask (.text name) = true ↔ Fits mask name ∧ start mask <+: name.toList := by
  unfold selects compares
  rw [Bool.and_eq_true, begins_text]
  constructor
  · rintro ⟨hbegins, h⟩
    refine ⟨?_, hbegins⟩
    rw [(begins_text _ _).2 hbegins, Bool.true_and, Bool.or_eq_true, isLike_text] at h
    rcases h with h | h
    · refine fits_of_startOnly ?_ hbegins
      simp at h
      exact h.2
    · exact h
  · rintro ⟨hfits, hbegins⟩
    exact ⟨hbegins, by rw [(isLike_text _ _).2 hfits, Bool.or_true]⟩

/-- The look-up of names selects those that the mask finds. -/
theorem selectsName_iff (scope : Option String) (mask : String) (r : RelationEntry) (name : String)
    (hname : r.name = .text name) : Tables.selectsName scope mask r = true ↔ Finds scope mask name := by
  unfold Tables.selectsName Finds
  rw [hname]
  cases scope with
  | none => simp [isLike_text]
  | some schema => simp [selects_text]

/-- Each character of the start of the mask is compared as it is, and no other one as it. -/
def StartsPlain (mask : String) : Prop := ∀ c ∈ start mask, Text.comparedChar c = c ∧ c ≠ Text.replacement

/-- A mask with a plain start finds in one schema the names that it finds everywhere. -/
theorem finds_iff_fits {mask : String} (hmask : StartsPlain mask) (scope : Option String) (name : String) :
    Finds scope mask name ↔ Fits mask name := by
  refine ⟨And.left, fun h => ⟨h, fun _ => ?_⟩⟩
  have hpattern : Text.compared mask =
      start mask ++ ((visible mask).dropWhile fun c => c != '%' && c != '_').map Text.comparedChar := by
    have hstart : (start mask).map Text.comparedChar = start mask := by
      rw [List.map_congr_left fun c hc => (hmask c hc).1, List.map_id']
    calc Text.compared mask
        = ((start mask) ++ (visible mask).dropWhile fun c => c != '%' && c != '_').map Text.comparedChar := by
          rw [start, List.takeWhile_append_dropWhile, visible, Text.compared]
      _ = _ := by rw [List.map_append, hstart]
  rw [Fits, hpattern] at h
  have hcompared : start mask <+: Text.compared name := h.prefix_of_literal fun c hc => isLiteral_start hc
  exact (Text.prefix_of_prefix_map (fun c hc => (hmask c hc).2) hcompared).trans (List.takeWhile_prefix _)

/-- A plain mask finds the plain names that match it as a pattern. -/
theorem finds_iff_matches {mask name : String} (hmask : IsPlain mask) (hname : IsPlain name) (scope : Option String) :
    Finds scope mask name ↔ Text.Matches .exact mask.toList name.toList := by
  rw [Finds, Fits, Text.compared_eq_of_plain hmask, Text.compared_eq_of_plain hname]
  refine ⟨And.left, fun h => ⟨h, fun _ => ?_⟩⟩
  have hvisible : visible mask = mask.toList := by
    rw [visible, List.takeWhile_eq_self_iff]
    intro c hc
    simpa using (hmask c hc).1
  have hsplit : start mask ++ (mask.toList.dropWhile fun c => c != '%' && c != '_') = mask.toList := by
    rw [start, hvisible, List.takeWhile_append_dropWhile]
  rw [← hsplit] at h
  exact h.prefix_of_literal fun c hc => isLiteral_start hc

end Mask

end CatalogFinder
