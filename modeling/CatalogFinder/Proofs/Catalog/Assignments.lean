import CatalogFinder.Proofs.Catalog.Codes
import CatalogFinder.Proofs.Folds

/-!
# Tables of codes

A list of entries, each a category with some codes, makes a table exactly if nothing is wrong with it: if every code is
a letter that is given once, to a category of relations, and each such category has one. What is refused is refused for
something that is in the list. The table gives each category its codes in the order of the entries, and tells the
category of each code from them.

* `TypeCodes.Consistent`, `TypeCodeError.IsIn` : entries that nothing is wrong with, and what may be wrong with them;
* `TypeCodes.Holds` : a table that holds some entries, which each step of filling it keeps;
* `TypeCodes.isIn_of_ofEntries`, `TypeCodes.holds_of_ofEntries` : what it means that entries are refused or make a table;
* `CodeMaps` : a table in two parts, one for each direction, filled in one pass;
* `TypeCodes.ofEntries_iff` : which entries make a table, and what the table holds.
-/

namespace CatalogFinder

variable {entries : List (Category × List Char)} {c : Category} {code : Char} {codes : TypeCodes}

namespace TypeCodes

/-- The codes of the entries one by one, each with its category. -/
def assignments (entries : List (Category × List Char)) : List (Char × Category) :=
  entries.flatMap fun e => e.2.map (·, e.1)

/-- Nothing is wrong with the entries. -/
structure Consistent (entries : List (Category × List Char)) : Prop where
  tableLike : ∀ e ∈ entries, e.1.isTableLike = true
  letters : ∀ e ∈ entries, ∀ code ∈ e.2, 'A' ≤ code ∧ code ≤ 'Z'
  distinct : (entries.flatMap (·.2)).Nodup
  complete : ∀ c : Category, c.isTableLike = true → ∃ e ∈ entries, e.1 = c ∧ e.2 ≠ []

/-! ## Entries one by one -/

theorem mem_assignments : (code, c) ∈ assignments entries ↔ ∃ e ∈ entries, e.1 = c ∧ code ∈ e.2 := by
  simp only [assignments, List.mem_flatMap, List.mem_map, Prod.mk.injEq]
  constructor
  · rintro ⟨e, he, _, hcode, rfl, rfl⟩
    exact ⟨e, he, rfl, hcode⟩
  · rintro ⟨e, he, rfl, hcode⟩
    exact ⟨e, he, code, hcode, rfl, rfl⟩

/-- The entries end in one that gets another code. -/
theorem assignments_concat (done : List (Category × List Char)) (c : Category) (front : List Char) (code : Char) :
    assignments (done ++ [(c, front ++ [code])]) = assignments (done ++ [(c, front)]) ++ [(code, c)] := by
  simp [assignments]

theorem map_fst_assignments (entries : List (Category × List Char)) :
    (assignments entries).map (·.1) = entries.flatMap (·.2) := by
  rw [assignments, List.map_flatMap]
  congr 1
  funext e
  simp [Function.comp_def]

/-- The codes that a category is given are those of its entries. -/
theorem filter_assignments (entries : List (Category × List Char)) (c : Category) :
    ((assignments entries).filter (·.2 = c)).map (·.1) = (entries.filter (·.1 = c)).flatMap (·.2) := by
  induction entries with
  | nil => rfl
  | cons e entries ih =>
    rw [assignments, List.flatMap_cons, ← assignments, List.filter_append, List.map_append, ih, List.filter_map]
    by_cases he : e.1 = c
    · simp [he, Function.comp_def]
    · simp [he, Function.comp_def]

end TypeCodes

open TypeCodes

/-! ## What may be wrong -/

/-- What the error tells of is in the entries. -/
def TypeCodeError.IsIn (entries : List (Category × List Char)) : TypeCodeError → Prop
  | missingCodes c => c.isTableLike = true ∧ ∀ e ∈ entries, e.1 = c → e.2 = []
  | notTableLike c => c.isTableLike = false ∧ ∃ e ∈ entries, e.1 = c
  | duplicateCode code first second =>
    ∃ before behind, assignments entries = before ++ (code, second) :: behind ∧ (code, first) ∈ before
  | invalidCode code => ¬ ('A' ≤ code ∧ code ≤ 'Z') ∧ ∃ e ∈ entries, code ∈ e.2

theorem TypeCodeError.IsIn.not_consistent {e : TypeCodeError} (h : e.IsIn entries) : ¬ Consistent entries := by
  intro hentries
  cases e with
  | missingCodes c =>
    obtain ⟨entry, hentry, hc, hcodes⟩ := hentries.complete c h.1
    exact hcodes (h.2 entry hentry hc)
  | notTableLike c =>
    obtain ⟨hc, entry, hentry, rfl⟩ := h
    rw [hentries.tableLike entry hentry] at hc
    cases hc
  | duplicateCode code first second =>
    obtain ⟨before, behind, hsplit, hfirst⟩ := h
    have hdistinct := hentries.distinct
    rw [← map_fst_assignments, hsplit, List.map_append, List.map_cons, List.nodup_append] at hdistinct
    exact hdistinct.2.2 code (List.mem_map.2 ⟨_, hfirst, rfl⟩) code List.mem_cons_self rfl
  | invalidCode code =>
    obtain ⟨hcode, entry, hentry, hmem⟩ := h
    exact hcode (hentries.letters entry hentry code hmem)

namespace TypeCodes

theorem isCode_iff : isCode code = true ↔ 'A' ≤ code ∧ code ≤ 'Z' := by
  simp [isCode]

theorem lookup_eq_none_iff : codes.assigned.lookup code = none ↔ code ∉ codes.assigned.map (·.1) := by
  rw [List.lookup_eq_none_iff, List.mem_map]
  constructor
  · rintro h ⟨a, ha, rfl⟩
    simpa using h a ha
  · intro h a ha
    simp only [bne_iff_ne]
    rintro rfl
    exact h ⟨a, ha, rfl⟩

/-! ## Filling a table -/

/-- The table holds the entries, none of which is wrong. -/
structure Holds (done : List (Category × List Char)) (codes : TypeCodes) : Prop where
  assigned : codes.assigned = assignments done
  tableLike : ∀ e ∈ done, e.1.isTableLike = true
  letters : ∀ a ∈ codes.assigned, isCode a.1 = true
  distinct : (codes.assigned.map (·.1)).Nodup

theorem holds_nil : Holds [] ⟨[]⟩ where
  assigned := rfl
  tableLike := by simp
  letters := by simp
  distinct := List.nodup_nil

variable {done : List (Category × List Char)} {front : List Char}

theorem Holds.begin (h : Holds done codes) (hc : c.isTableLike = true) : Holds (done ++ [(c, [])]) codes where
  assigned := by simp [h.assigned, assignments]
  tableLike e he := by
    rcases List.mem_append.1 he with he | he
    · exact h.tableLike e he
    · rwa [List.mem_singleton.1 he]
  letters := h.letters
  distinct := h.distinct

theorem Holds.assign {later : TypeCodes} (h : Holds (done ++ [(c, front)]) codes)
    (hassign : assign c codes code = .ok later) : Holds (done ++ [(c, front ++ [code])]) later := by
  unfold TypeCodes.assign at hassign
  split at hassign
  next => cases hassign
  next hcode =>
    split at hassign
    next => cases hassign
    next hnew =>
      cases hassign
      have hcode : isCode code = true := by simpa using hcode
      have hnew := lookup_eq_none_iff.1 hnew
      refine ⟨?_, ?_, ?_, ?_⟩
      · show codes.assigned ++ _ = _
        rw [assignments_concat, h.assigned]
      · intro e he
        rcases List.mem_append.1 he with he | he
        · exact h.tableLike e (List.mem_append_left _ he)
        · rw [List.mem_singleton.1 he]
          exact h.tableLike (c, front) (by simp)
      · intro a ha
        rcases List.mem_append.1 ha with ha | ha
        · exact h.letters a ha
        · rwa [List.mem_singleton.1 ha]
      · rw [List.map_append, List.nodup_append]
        refine ⟨h.distinct, by simp, ?_⟩
        rintro a ha b hb rfl
        rw [List.map_singleton, List.mem_singleton] at hb
        subst hb
        exact hnew ha

/-- A code that is refused is no letter, or is there. -/
theorem isIn_of_assign {e : TypeCodeError} {back : List Char} {rest : List (Category × List Char)}
    (h : Holds (done ++ [(c, front)]) codes) (hassign : assign c codes code = .error e) :
    e.IsIn (done ++ (c, front ++ code :: back) :: rest) := by
  unfold TypeCodes.assign at hassign
  split at hassign
  next hcode =>
    cases hassign
    refine ⟨?_, (c, front ++ code :: back), by simp, by simp⟩
    rw [← isCode_iff]
    simpa using hcode
  next =>
    split at hassign
    next first hfirst =>
      cases hassign
      refine ⟨codes.assigned, back.map (·, c) ++ assignments rest, ?_, mem_of_lookup hfirst⟩
      rw [h.assigned]
      simp [assignments]
    next => cases hassign

theorem Holds.foldl_assign {later : TypeCodes} {cs : List Char} (h : Holds done codes) (hc : c.isTableLike = true)
    (hfold : cs.foldlM (TypeCodes.assign c) codes = .ok later) : Holds (done ++ [(c, cs)]) later :=
  foldlM_induct (motive := fun front now => Holds (done ++ [(c, front)]) now) Holds.assign (h.begin hc) hfold

theorem Holds.assignAll {later : TypeCodes} {entry : Category × List Char} (h : Holds done codes)
    (hassign : assignAll codes entry = .ok later) : Holds (done ++ [entry]) later := by
  unfold TypeCodes.assignAll at hassign
  split at hassign
  next => cases hassign
  next hc => exact h.foldl_assign (by simpa using hc) hassign

/-- An entry that is refused is not for a category of relations, or has a code that is refused. -/
theorem isIn_of_assignAll {e : TypeCodeError} {entry : Category × List Char} {rest : List (Category × List Char)}
    (h : Holds done codes) (hassign : assignAll codes entry = .error e) : e.IsIn (done ++ entry :: rest) := by
  obtain ⟨c, cs⟩ := entry
  unfold TypeCodes.assignAll at hassign
  split at hassign
  next hc =>
    cases hassign
    exact ⟨by simpa using hc, (c, cs), by simp, rfl⟩
  next hc =>
    obtain ⟨front, code, back, now, rfl, hfront, hcode⟩ := exists_of_foldlM_error hassign
    exact isIn_of_assign (h.foldl_assign (by simpa using hc) hfront) hcode

theorem holds_of_foldlM (h : entries.foldlM assignAll ⟨[]⟩ = .ok codes) : Holds entries codes :=
  foldlM_induct (motive := Holds) Holds.assignAll holds_nil h

/-! ## Tables of entries -/

theorem Holds.codesFor_eq (h : Holds entries codes) (c : Category) :
    codes.codesFor c = (entries.filter (·.1 = c)).flatMap (·.2) := by
  rw [codesFor, h.assigned, filter_assignments]

theorem codesFor_eq_nil_iff (h : Holds entries codes) :
    codes.codesFor c = [] ↔ ∀ e ∈ entries, e.1 = c → e.2 = [] := by
  simp [h.codesFor_eq]

theorem ofEntries_eq_ok_iff :
    ofEntries entries = .ok codes ↔
      entries.foldlM assignAll ⟨[]⟩ = .ok codes ∧ ∀ c : Category, c.isTableLike = true → codes.codesFor c ≠ [] := by
  unfold ofEntries
  cases entries.foldlM assignAll ⟨[]⟩ with
  | error e => simp [bind, Except.bind]
  | ok filled =>
    have hnone : (Category.tableLike.find? fun c => (filled.codesFor c).isEmpty) = none ↔
        ∀ c : Category, c.isTableLike = true → filled.codesFor c ≠ [] := by
      simp [List.find?_eq_none, Category.tableLike, Category.mem_all]
    simp only [bind, Except.bind, Except.ok.injEq]
    constructor
    · intro h
      split at h
      next => cases h
      next hfind =>
        cases h
        exact ⟨rfl, hnone.1 hfind⟩
    · rintro ⟨rfl, hcodes⟩
      rw [hnone.2 hcodes]

/-- Entries are refused for something that is in them. -/
theorem isIn_of_ofEntries {e : TypeCodeError} (h : ofEntries entries = .error e) : e.IsIn entries := by
  unfold ofEntries at h
  cases hfold : entries.foldlM assignAll ⟨[]⟩ with
  | error e' =>
    rw [hfold] at h
    cases h
    obtain ⟨done, entry, rest, now, rfl, hdone, hentry⟩ := exists_of_foldlM_error hfold
    exact isIn_of_assignAll (holds_of_foldlM hdone) hentry
  | ok filled =>
    rw [hfold] at h
    simp only [bind, Except.bind] at h
    split at h
    next c hfind =>
      cases h
      have hc := List.find?_some hfind
      have hmem := List.mem_of_find?_eq_some hfind
      rw [List.isEmpty_iff, codesFor_eq_nil_iff (holds_of_foldlM hfold)] at hc
      exact ⟨(List.mem_filter.1 hmem).2, hc⟩
    next => cases h

theorem holds_of_ofEntries (h : ofEntries entries = .ok codes) : Holds entries codes :=
  holds_of_foldlM (ofEntries_eq_ok_iff.1 h).1

theorem consistent_of_ofEntries (h : ofEntries entries = .ok codes) : Consistent entries := by
  have hholds := holds_of_ofEntries h
  refine ⟨hholds.tableLike, ?_, ?_, ?_⟩
  · intro e he code hcode
    have hmem : (code, e.1) ∈ assignments entries := mem_assignments.2 ⟨e, he, rfl, hcode⟩
    rw [← hholds.assigned] at hmem
    exact isCode_iff.1 (hholds.letters _ hmem)
  · rw [← map_fst_assignments, ← hholds.assigned]
    exact hholds.distinct
  · intro c hc
    have hcodes := (ofEntries_eq_ok_iff.1 h).2 c hc
    rw [Ne, codesFor_eq_nil_iff hholds] at hcodes
    simpa using hcodes

theorem exists_of_consistent (h : Consistent entries) : ∃ codes, ofEntries entries = .ok codes := by
  cases hresult : ofEntries entries with
  | error e => exact absurd h (isIn_of_ofEntries hresult).not_consistent
  | ok codes => exact ⟨codes, rfl⟩

/-! ## Look-ups -/

theorem Holds.lookup_iff (h : Holds entries codes) :
    codes.assigned.lookup code = some c ↔ code ∈ codes.codesFor c := by
  rw [mem_codesFor]
  refine ⟨mem_of_lookup, fun hmem => ?_⟩
  cases hlookup : codes.assigned.lookup code with
  | none => exact absurd (List.mem_map.2 ⟨_, hmem, rfl⟩) (lookup_eq_none_iff.1 hlookup)
  | some first =>
    have hfirst := List.inj_on_of_nodup_map h.distinct (mem_of_lookup hlookup) hmem rfl
    rw [(Prod.mk.inj hfirst).2]

theorem Holds.categoryFor?_eq_some_iff (h : Holds entries codes) (raw : String) :
    codes.categoryFor? raw = some c ↔ ∃ code, (Text.trim raw).toList.head? = some code ∧ code ∈ codes.codesFor c := by
  rw [categoryFor?, Option.bind_eq_some_iff]
  simp only [h.lookup_iff]

/-- Nothing is dropped where nothing is repeated. -/
theorem dropRepeats_of_nodup {cs : List Char} (h : cs.Nodup) : dropRepeats cs = cs := by
  fun_induction dropRepeats cs with
  | case1 a rest => exact absurd h (by simp)
  | case2 a b rest hne ih => rw [ih h.of_cons]
  | case3 cs hcs => rfl

theorem Holds.codesForAll_eq (h : Holds entries codes) {categories : List Category} (hcategories : categories.Nodup) :
    codes.codesForAll categories = categories.flatMap codes.codesFor := by
  refine dropRepeats_of_nodup (List.nodup_flatMap.2 ⟨fun c _ => ?_, ?_⟩)
  · exact h.distinct.sublist (List.filter_sublist.map _)
  · refine hcategories.imp fun hne code hc hc' => hne ?_
    have hc := h.lookup_iff.2 hc
    rw [h.lookup_iff.2 hc'] at hc
    exact (Option.some.inj hc).symm

end TypeCodes

/-! ## Both directions -/

/-- A table in two parts: the codes of each category, and the category of each code. -/
structure CodeMaps where
  codesOf : Category → List Char
  categoryOf : Char → Option Category

namespace CodeMaps

/-- Gives one more code to a category, in both parts. -/
def assign (c : Category) (maps : CodeMaps) (code : Char) : Except TypeCodeError CodeMaps :=
  if !isCode code then .error (.invalidCode code)
  else match maps.categoryOf code with
    | some first => .error (.duplicateCode code first c)
    | none => .ok ⟨Function.update maps.codesOf c (maps.codesOf c ++ [code]),
        Function.update maps.categoryOf code (some c)⟩

def assignAll (maps : CodeMaps) (entry : Category × List Char) : Except TypeCodeError CodeMaps :=
  if !entry.1.isTableLike then .error (.notTableLike entry.1)
  else entry.2.foldlM (assign entry.1) maps

/-- The table of some entries, both parts filled in one pass. -/
def ofEntries (entries : List (Category × List Char)) : Except TypeCodeError CodeMaps := do
  let maps ← entries.foldlM assignAll ⟨fun _ => [], fun _ => none⟩
  match Category.tableLike.find? fun c => (maps.codesOf c).isEmpty with
  | some c => .error (.missingCodes c)
  | none => .ok maps

end CodeMaps

namespace TypeCodes

/-- Both directions of a table. -/
def maps (codes : TypeCodes) : CodeMaps := ⟨codes.codesFor, fun code => codes.assigned.lookup code⟩

@[simp] theorem codesOf_maps (codes : TypeCodes) : codes.maps.codesOf = codes.codesFor := rfl

@[simp] theorem categoryOf_maps (codes : TypeCodes) (code : Char) :
    codes.maps.categoryOf code = codes.assigned.lookup code := rfl

/-- The codes of the categories with one more, which is new. -/
theorem codesFor_concat (codes : TypeCodes) (c : Category) (code : Char) :
    codesFor ⟨codes.assigned ++ [(code, c)]⟩ = Function.update codes.codesFor c (codes.codesFor c ++ [code]) := by
  funext c'
  unfold codesFor
  rw [List.filter_append, List.map_append, Function.update_apply]
  by_cases h : c' = c
  · subst h
    simp
  · have hne : c ≠ c' := Ne.symm h
    simp [h, hne]

theorem categoryOf_concat (h : codes.assigned.lookup code = none) (c : Category) :
    (maps ⟨codes.assigned ++ [(code, c)]⟩).categoryOf = Function.update codes.maps.categoryOf code (some c) := by
  funext code'
  rw [categoryOf_maps, List.lookup_append, Function.update_apply, categoryOf_maps]
  by_cases hcode : code' = code
  · subst hcode
    simp [h]
  · have hne : (code' == code) = false := by simpa using hcode
    simp [List.lookup_cons, hne, hcode]

theorem assign_maps (c : Category) (codes : TypeCodes) (code : Char) :
    CodeMaps.assign c codes.maps code = (assign c codes code).map maps := by
  unfold CodeMaps.assign assign
  split
  next => rfl
  next =>
    rw [categoryOf_maps]
    cases hlookup : codes.assigned.lookup code with
    | some first => rfl
    | none =>
      simp only [Except.map, Except.ok.injEq]
      rw [codesOf_maps, ← codesFor_concat, ← categoryOf_concat hlookup]
      rfl

theorem assignAll_maps (codes : TypeCodes) (entry : Category × List Char) :
    CodeMaps.assignAll codes.maps entry = (assignAll codes entry).map maps := by
  unfold CodeMaps.assignAll assignAll
  split
  next => rfl
  next => exact foldlM_map (assign_maps entry.1) codes entry.2

/-- The two parts are filled as the table is, and the same entries are refused for the same. -/
theorem ofEntries_maps (entries : List (Category × List Char)) :
    CodeMaps.ofEntries entries = (ofEntries entries).map maps := by
  unfold CodeMaps.ofEntries ofEntries
  rw [show (⟨fun _ => [], fun _ => none⟩ : CodeMaps) = maps ⟨[]⟩ from rfl, foldlM_map assignAll_maps]
  cases entries.foldlM assignAll ⟨[]⟩ with
  | error e => rfl
  | ok codes =>
    simp only [Except.map, bind, Except.bind, codesOf_maps]
    cases Category.tableLike.find? fun c => (codes.codesFor c).isEmpty with
    | some c => rfl
    | none => rfl

/-! ## Which entries make a table -/

/-- **Entries make a table exactly if nothing is wrong with them.** The table gives a category the codes of its entries
in their order, tells the category of a value by its first character after blanks, and lists the codes of different
categories one category after the other, each code once. A table in two parts, one for each direction, is made of the
same entries, and its parts are the two directions of this one. -/
theorem ofEntries_iff (entries : List (Category × List Char)) :
    ((∃ codes, ofEntries entries = .ok codes) ↔ Consistent entries) ∧
      CodeMaps.ofEntries entries = (ofEntries entries).map maps ∧
      ∀ codes, ofEntries entries = .ok codes →
        (∀ c, codes.codesFor c = (entries.filter (·.1 = c)).flatMap (·.2)) ∧
        (∀ raw c, codes.categoryFor? raw = some c ↔
          ∃ code, (Text.trim raw).toList.head? = some code ∧ code ∈ codes.codesFor c) ∧
        ∀ categories : List Category, categories.Nodup →
          codes.codesForAll categories = categories.flatMap codes.codesFor ∧ (codes.codesForAll categories).Nodup := by
  refine ⟨⟨?_, exists_of_consistent⟩, ofEntries_maps entries, ?_⟩
  · rintro ⟨codes, h⟩
    exact consistent_of_ofEntries h
  · intro codes h
    have hholds := holds_of_ofEntries h
    refine ⟨hholds.codesFor_eq, fun raw c => hholds.categoryFor?_eq_some_iff raw, fun categories hcategories => ?_⟩
    exact ⟨hholds.codesForAll_eq hcategories, nodup_codesForAll hholds.distinct hcategories⟩

/-- Entries in some order, with a category that comes twice and one of its entries empty. -/
def scattered : List (Category × List Char) :=
  [(.view, ['W']), (.nickname, ['N']), (.table, ['T']), (.view, []), (.materializedView, ['S']), (.table, ['U', 'G']),
    (.tableAlias, ['A']), (.view, ['V'])]

theorem ofEntries_scattered :
    ∃ codes, ofEntries scattered = .ok codes ∧ codes.codesFor .view = ['W', 'V'] ∧
      codes.categoryFor? " Vx" = some .view ∧ codes.codesForAll [.table, .view] = ['T', 'U', 'G', 'W', 'V'] := by
  have hcomplete : ∀ c : Category, c.isTableLike = true → ∃ e ∈ scattered, e.1 = c ∧ e.2 ≠ [] := by
    intro c hc
    cases c with
    | column => cases hc
    | routine => cases hc
    | _ => decide
  have hletters : ∀ e ∈ scattered, ∀ code ∈ e.2, 'A' ≤ code ∧ code ≤ 'Z' := by simp [scattered]
  obtain ⟨codes, h⟩ := (ofEntries_iff scattered).1.2 ⟨by decide, hletters, by decide, hcomplete⟩
  obtain ⟨hcodes, hcategory, hall⟩ := (ofEntries_iff scattered).2.2 codes h
  refine ⟨codes, h, by rw [hcodes]; rfl, (hcategory _ _).2 ⟨'V', by decide, by rw [hcodes]; decide⟩, ?_⟩
  rw [(hall _ (by decide)).1]
  simp only [List.flatMap_cons, List.flatMap_nil, hcodes]
  rfl

end TypeCodes

end CatalogFinder
