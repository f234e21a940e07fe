import CatalogFinder.Catalog.TypeCode
import Mathlib.Data.List.Nodup

/-!
# Codes and categories

A code belongs to one category, so that the relations of some wanted categories are those stored under one of their
codes.

* `categoryFor?_iff` : the category of a stored code letter is the one that the letter is assigned to;
* `mem_codesForAll`, `nodup_codesForAll` : the codes of several categories, each of which is listed once.
-/

namespace CatalogFinder

namespace TypeCodes

theorem mem_dropRepeats {code : Char} {codes : List Char} : code ∈ dropRepeats codes ↔ code ∈ codes := by
  fun_induction dropRepeats codes with
  | case1 a rest ih => simp [ih]
  | case2 a b rest hne ih => simp [ih]
  | case3 cs hcs => rfl

/-- No code of the standard assignment is blank, and none is assigned twice. -/
theorem standard_entries :
    standard.assigned.all fun e => !Text.isBlank e.1 && standard.assigned.lookup e.1 == some e.2 := by decide

theorem mem_of_lookup {code : Char} {c : Category} {entries : List (Char × Category)}
    (h : entries.lookup code = some c) : (code, c) ∈ entries := by
  obtain ⟨before, behind, rfl, -⟩ := List.lookup_eq_some_iff.1 h
  simp

theorem trim_letter {code : Char} (h : Text.isBlank code = false) : (Text.trim code.toString).toList = [code] := by
  simp [Text.trim, Text.trimEndChars, h]

theorem trim_blank {code : Char} (h : Text.isBlank code = true) : (Text.trim code.toString).toList = [] := by
  simp [Text.trim, Text.trimEndChars, h]

/-- The category of a stored code letter is the one that the letter is assigned to. -/
theorem categoryFor?_iff (code : Char) (c : Category) :
    standard.categoryFor? code.toString = some c ↔ (code, c) ∈ standard.assigned := by
  have hentries := List.all_eq_true.1 standard_entries
  constructor
  · intro h
    unfold categoryFor? at h
    cases hblank : Text.isBlank code with
    | true =>
      rw [trim_blank hblank] at h
      cases h
    | false =>
      rw [trim_letter hblank, List.head?_cons, Option.bind_some] at h
      exact mem_of_lookup h
  · intro h
    have hentry := hentries _ h
    rw [Bool.and_eq_true, beq_iff_eq, Bool.not_eq_true'] at hentry
    rw [categoryFor?, trim_letter hentry.1, List.head?_cons, Option.bind_some, hentry.2]

theorem mem_codesFor {codes : TypeCodes} {c : Category} {code : Char} :
    code ∈ codes.codesFor c ↔ (code, c) ∈ codes.assigned := by
  unfold codesFor
  constructor
  · intro h
    obtain ⟨⟨code, category⟩, hentry, rfl⟩ := List.mem_map.1 h
    obtain ⟨hassigned, hcategory⟩ := List.mem_filter.1 hentry
    obtain rfl : category = c := of_decide_eq_true hcategory
    exact hassigned
  · intro h
    exact List.mem_map.2 ⟨(code, c), List.mem_filter.2 ⟨h, decide_eq_true rfl⟩, rfl⟩

/-- The codes of several categories are those whose category is one of them. -/
theorem mem_codesForAll (categories : List Category) (code : Char) :
    code ∈ standard.codesForAll categories ↔ ∃ c ∈ categories, standard.categoryFor? code.toString = some c := by
  simp only [codesForAll, mem_dropRepeats, List.mem_flatMap, mem_codesFor, categoryFor?_iff]

/-! ## Codes without repetitions -/

theorem dropRepeats_sublist (codes : List Char) : (dropRepeats codes).Sublist codes := by
  fun_induction dropRepeats codes with
  | case1 a rest ih => exact ih.trans (List.sublist_cons_self _ _)
  | case2 a b rest hne ih => exact ih.cons_cons a
  | case3 cs hcs => exact List.Sublist.refl _

/-- Where no code is assigned twice, the codes of different categories have none twice. So it does no harm that only
neighbours are compared when repetitions are dropped. -/
theorem nodup_codesForAll {codes : TypeCodes} (hcodes : (codes.assigned.map (·.1)).Nodup) {categories : List Category}
    (hcategories : categories.Nodup) : (codes.codesForAll categories).Nodup := by
  refine List.Nodup.sublist (dropRepeats_sublist _) (List.nodup_flatMap.2 ⟨fun c _ => ?_, ?_⟩)
  · exact hcodes.sublist (List.filter_sublist.map _)
  · refine hcategories.imp fun hne code hc hc' => hne ?_
    have hentry := List.inj_on_of_nodup_map hcodes (mem_codesFor.1 hc) (mem_codesFor.1 hc') rfl
    exact congrArg (·.2) hentry

theorem nodup_standard : (standard.assigned.map (·.1)).Nodup := by decide

/-- A category of relations has codes. -/
theorem codesFor_standard_ne_nil {c : Category} (h : c.isTableLike = true) : standard.codesFor c ≠ [] := by
  cases c with
  | column => cases h
  | routine => cases h
  | _ => decide

/-- Only categories of relations have codes. -/
theorem isTableLike_of_assigned {code : Char} {c : Category} (h : (code, c) ∈ standard.assigned) :
    c.isTableLike = true := by
  have hall : standard.assigned.all fun e => e.2.isTableLike := by decide
  exact List.all_eq_true.1 hall _ h

theorem isTableLike_of_categoryFor? {raw : String} {c : Category} (h : standard.categoryFor? raw = some c) :
    c.isTableLike = true := by
  obtain ⟨code, -, hlookup⟩ := Option.bind_eq_some_iff.1 h
  exact isTableLike_of_assigned (mem_of_lookup hlookup)

end TypeCodes

end CatalogFinder
