import CatalogFinder.Proofs.Search.Prefixes
import CatalogFinder.Proofs.Search.Uncut

/-!
# Searching with and without case

A search without case folds its mask to upper case, and compares names and texts as they are stored. So it finds what is
stored in upper case, and misses other things that a search with case finds. The two find the same with a mask that is
in upper case, and such is every mask that matches something in upper case, as far as the mask counts.

* `Params.withCase` : the search with case or without;
* `Text.upperChar_of_matches` : a mask that matches upper case is in upper case;
* `Mask.visible_upper_of_fits` : folding leaves such a mask as it is, as far as it counts;
* `Stored.LooksAt` : the names and texts for which a reference is returned, if the mask matches them;
* `Stored.search_findsFor` : the references that a search returns, told by these names and texts;
* `search_cased` : both searches for the same, `search_mixedCase` : things that are found with case only.
-/

namespace CatalogFinder

/-! ## Masks in upper case -/

namespace Text

/-- The characters of a text in upper case stay. -/
theorem upperChar_of_upper {s : String} (h : upper s = s) : ∀ c ∈ s.toList, upperChar c = [c] := by
  intro c hc
  rw [← h, toList_upper, List.mem_flatMap] at hc
  obtain ⟨d, -, hc⟩ := hc
  exact upperChar_of_mem hc

theorem flatMap_upperChar {l : List Char} (h : ∀ c ∈ l, upperChar c = [c]) : l.flatMap upperChar = l := by
  rw [List.flatMap_congr h]
  exact List.flatMap_singleton' l

/-- What matches nothing but upper case is in upper case. -/
theorem upperChar_of_matches {ps cs : List Char} (h : Matches .exact ps cs) (hcs : ∀ c ∈ cs, upperChar c = [c]) :
    ∀ p ∈ ps, upperChar p = [p] := by
  induction h with
  | nil => simp
  | skip _ ih => exact List.forall_mem_cons.2 ⟨upperChar_wildcard (.inl rfl), ih hcs⟩
  | more _ _ ih => exact ih fun c hc => hcs c (List.mem_cons_of_mem _ hc)
  | @one p ps c cs _ hcovers _ ih =>
    have hp : upperChar p = [p] := by
      rcases covers_exact_iff.1 hcovers with rfl | rfl
      · exact hcs c List.mem_cons_self
      · exact upperChar_wildcard (.inr rfl)
    exact List.forall_mem_cons.2 ⟨hp, ih fun c hc => hcs c (List.mem_cons_of_mem _ hc)⟩

theorem upperChar_comparedChar_iff {c : Char} : upperChar (comparedChar c) = [comparedChar c] ↔ upperChar c = [c] := by
  unfold comparedChar
  split
  next hc =>
    have hmarks : upperChar replacement = [replacement] ∧ upperChar '\uFFFE' = ['\uFFFE'] ∧
        upperChar '\uFFFF' = ['\uFFFF'] := by decide +kernel
    rw [Bool.or_eq_true, decide_eq_true_eq, decide_eq_true_eq] at hc
    refine iff_of_true hmarks.1 ?_
    rcases hc with rfl | rfl
    · exact hmarks.2.1
    · exact hmarks.2.2
  next => rfl

end Text

namespace Mask

variable {mask mask' text : String}

/-- Folding leaves a mask as it is, as far as it counts, if it leaves the characters that count. -/
theorem visible_upper (h : ∀ c ∈ visible mask, Text.upperChar c = [c]) : visible (Text.upper mask) = visible mask := by
  have hzero : Text.upperChar '\x00' = ['\x00'] := by decide +kernel
  have hcounts : ∀ c ∈ visible mask, decide (c ≠ '\x00') = true := by
    intro c hc
    exact List.mem_takeWhile_imp (p := fun c : Char => decide (c ≠ '\x00')) hc
  -- what does not count begins with a zero character, and this is not folded
  have hbehind : ((mask.toList.dropWhile (· ≠ '\x00')).flatMap Text.upperChar).takeWhile (· ≠ '\x00') = [] := by
    cases hrest : mask.toList.dropWhile (· ≠ '\x00') with
    | nil => rfl
    | cons c rest =>
      have hc : c = '\x00' := by
        have hhead := List.head?_dropWhile_not (fun c : Char => decide (c ≠ '\x00')) mask.toList
        rw [hrest] at hhead
        simpa using hhead
      rw [hc, List.flatMap_cons, hzero]
      rfl
  calc visible (Text.upper mask)
      = ((visible mask ++ mask.toList.dropWhile (· ≠ '\x00')).flatMap Text.upperChar).takeWhile (· ≠ '\x00') := by
        rw [visible, visible, Text.toList_upper, List.takeWhile_append_dropWhile]
    _ = visible mask := by
        rw [List.flatMap_append, Text.flatMap_upperChar h, List.takeWhile_append_of_pos hcounts, hbehind,
          List.append_nil]

/-- A mask that matches something in upper case is left as it is, as far as it counts. -/
theorem visible_upper_of_fits (h : Fits mask text) (htext : Text.upper text = text) :
    visible (Text.upper mask) = visible mask := by
  have hcompared : ∀ c ∈ Text.compared text, Text.upperChar c = [c] := by
    intro c hc
    obtain ⟨d, hd, rfl⟩ := List.mem_map.1 hc
    exact Text.upperChar_comparedChar_iff.2 (Text.upperChar_of_upper htext d ((List.takeWhile_prefix _).subset hd))
  refine visible_upper fun c hc => ?_
  exact Text.upperChar_comparedChar_iff.1 (Text.upperChar_of_matches h hcompared _ (List.mem_map_of_mem hc))

/-- Masks find the same if they are the same as far as they count. -/
theorem finds_congr (h : visible mask = visible mask') (scope : Option String) (name : String) :
    Finds scope mask name ↔ Finds scope mask' name := by
  have hcompared : Text.compared mask = Text.compared mask' := congrArg (List.map Text.comparedChar) h
  rw [Finds, Finds, Fits, Fits, hcompared, start, start, h]

end Mask

/-! ## Parameters -/

namespace Params

/-- The search for the same with case, or without. -/
def withCase (p : Params) (caseSensitive : Bool) : Params := { p with caseSensitive := caseSensitive }

variable (p : Params) (b : Bool)

@[simp] theorem categories_withCase : (p.withCase b).categories = p.categories := rfl

@[simp] theorem inDefinitions_withCase : (p.withCase b).inDefinitions = p.inDefinitions := rfl

@[simp] theorem foldedMask_withCase : (p.withCase b).foldedMask = if b then p.mask else Text.upper p.mask := rfl

theorem effectiveMask_withCase : (p.withCase false).effectiveMask = Text.upper (p.withCase true).effectiveMask := by
  have hpercent : Text.upper "%" = "%" := by decide
  rw [effectiveMask_eq, effectiveMask_eq, foldedMask_withCase, foldedMask_withCase, if_neg Bool.false_ne_true,
    if_pos rfl]
  by_cases h : '%' ∈ p.mask.toList
  · rw [if_pos h, if_pos ((Text.wildcard_mem_upper (.inl rfl) _).2 h)]
  · rw [if_neg h, if_neg (mt (Text.wildcard_mem_upper (.inl rfl) _).1 h), Text.upper_append, hpercent]

/-- With a mask in upper case it does not matter whether case does. -/
theorem plan_withCase (h : Text.upper p.mask = p.mask) (dialect : Dialect) (defaultSchema : Option String)
    (fetchSize : UInt32) : (p.withCase false).plan dialect defaultSchema fetchSize =
      (p.withCase true).plan dialect defaultSchema fetchSize := by
  have hmask : (p.withCase false).effectiveMask = (p.withCase true).effectiveMask := by
    rw [effectiveMask_eq, effectiveMask_eq, foldedMask_withCase, foldedMask_withCase, if_neg Bool.false_ne_true,
      if_pos rfl, h]
  have hrequest : ∀ g : Group, ∀ scope, g.request (p.withCase false) scope = g.request (p.withCase true) scope := by
    intro g scope
    cases g <;> simp only [Group.request, hmask, categories_withCase, inDefinitions_withCase]
  unfold plan
  simp only [hrequest]
  rfl

end Params

/-- With a mask in upper case, searching with case or without is the same run. -/
theorem search_withCase {p : Params} (h : Text.upper p.mask = p.mask) (cache : Cache) (session : Session)
    (fetchSize : UInt32) : search cache session fetchSize (p.withCase false) =
      search cache session fetchSize (p.withCase true) := by
  cases hp : (p.withCase true).validate with
  | error e =>
    have hp' : (p.withCase false).validate = .error e := hp
    rw [Search.search_of_invalid _ _ _ hp, Search.search_of_invalid _ _ _ hp']
  | ok =>
    have hp' : (p.withCase false).validate = .ok () := hp
    rw [Search.search_eq_runPlan _ _ _ hp, Search.search_eq_runPlan _ _ _ hp', p.plan_withCase h]
    rfl

/-! ## What a search looks at -/

namespace Stored

section LooksAt
variable (s : Stored) (categories : List Category) (definitions : Bool) (scope : Option String) (cache : Cache)

/-- A search for some categories returns the reference if its mask finds the text. The mask is looked up in the scope
for names of relations, and only compared with the other texts. Neither the mask nor its case has a part in this. -/
inductive LooksAt (reference : Reference) : (lookup : Option String) → (text : String) → Prop
  | relation {r : RelationRow} {c : Category} : r ∈ s.relations.rows → InScope scope r.schema → c ∈ categories →
      TypeCodes.standard.categoryFor? r.code.toString = some c → r.reference? cache = some reference →
      LooksAt reference scope r.name
  | viewText {r : RelationRow} {c : Category} {v : ViewRow} : r ∈ s.relations.rows → InScope scope r.schema →
      c ∈ categories → TypeCodes.standard.categoryFor? r.code.toString = some c →
      r.reference? cache = some reference → definitions = true → v ∈ s.views.rows → v.schema = r.schema →
      v.name = r.name → LooksAt reference none v.text
  | column {c : ColumnRow} : .column ∈ categories → c ∈ s.columns.rows → InScope scope c.schema →
      c.reference? cache = some reference → LooksAt reference none c.name
  | routine {r : RoutineRow} : .routine ∈ categories → r ∈ s.routines.rows → InScope scope r.schema →
      routineReference? cache (r.schema, r.name) = some reference → LooksAt reference none r.name
  | routineText {r : RoutineRow} {text : String} : .routine ∈ categories → r ∈ s.routines.rows →
      InScope scope r.schema → routineReference? cache (r.schema, r.name) = some reference → definitions = true →
      r.text = some text → LooksAt reference none text

/-- The mask finds one of the texts that are looked at for the reference. -/
def FindsFor (mask : String) (reference : Reference) : Prop :=
  ∃ lookup text, s.LooksAt categories definitions scope cache reference lookup text ∧ Mask.Finds lookup mask text

end LooksAt

section References
variable {s : Stored} {p : Params} {scope : Option String} {cache : Cache} {reference : Reference}

theorem FindsFor.mem_references (h : s.FindsFor p.categories p.inDefinitions scope cache p.effectiveMask reference)
    (f : s.Findings p scope) : reference ∈ f.references cache := by
  obtain ⟨lookup, text, hlooks, hfinds⟩ := h
  rw [f.mem_references_iff]
  cases hlooks with
  | relation hr hscope hc hcategory hreference =>
    exact .inl ⟨_, (f.mem_relations _).2 ⟨hr, hscope, ⟨_, hc, hcategory⟩, .inl hfinds⟩, hreference⟩
  | viewText hr hscope hc hcategory hreference hdefinitions hv hschema hname =>
    exact .inl ⟨_, (f.mem_relations _).2
      ⟨hr, hscope, ⟨_, hc, hcategory⟩, .inr ⟨hdefinitions, _, hv, hschema, hname, hfinds.1⟩⟩, hreference⟩
  | column hwanted hc hscope hreference =>
    exact .inr (.inl ⟨_, (f.mem_columns _).2 ⟨hwanted, hc, hscope, hfinds.1⟩, hreference⟩)
  | routine hwanted hr hscope hreference =>
    exact .inr (.inr ⟨_, (f.mem_routines _ _).2 ⟨hwanted, hscope, _, hr, rfl, rfl, .inl hfinds.1⟩, hreference⟩)
  | routineText hwanted hr hscope hreference hdefinitions htext =>
    exact .inr (.inr ⟨_, (f.mem_routines _ _).2
      ⟨hwanted, hscope, _, hr, rfl, rfl, .inr ⟨hdefinitions, _, htext, hfinds.1⟩⟩, hreference⟩)

theorem Findings.findsFor (f : s.Findings p scope) (h : reference ∈ f.references cache) :
    s.FindsFor p.categories p.inDefinitions scope cache p.effectiveMask reference := by
  -- outside the look-up of names a mask finds what it matches
  have hfinds : ∀ {text}, Mask.Fits p.effectiveMask text → Mask.Finds none p.effectiveMask text :=
    fun hfits => ⟨hfits, Bool.false_ne_true.elim⟩
  rcases f.mem_references_iff.1 h with ⟨r, hr, hreference⟩ | ⟨c, hc, hreference⟩ | ⟨⟨schema, name⟩, hr, hreference⟩
  · obtain ⟨hrow, hscope, ⟨c, hc, hcategory⟩, hname | ⟨hdefinitions, v, hv, hschema, hname, hfits⟩⟩ :=
      (f.mem_relations r).1 hr
    · exact ⟨_, _, .relation hrow hscope hc hcategory hreference, hname⟩
    · exact ⟨_, _, .viewText hrow hscope hc hcategory hreference hdefinitions hv hschema hname, hfinds hfits⟩
  · obtain ⟨hwanted, hrow, hscope, hfits⟩ := (f.mem_columns c).1 hc
    exact ⟨_, _, .column hwanted hrow hscope hreference, hfinds hfits⟩
  · obtain ⟨hwanted, hscope, r, hrow, rfl, rfl, hfits | ⟨hdefinitions, text, htext, hfits⟩⟩ :=
      (f.mem_routines schema name).1 hr
    · exact ⟨_, _, .routine hwanted hrow hscope hreference, hfinds hfits⟩
    · exact ⟨_, _, .routineText hwanted hrow hscope hreference hdefinitions htext, hfinds hfits⟩

/-- **A reference is found if the mask finds one of the texts that are looked at for it, and only then.** -/
theorem Findings.mem_references_iff_findsFor (f : s.Findings p scope) : reference ∈ f.references cache ↔
    s.FindsFor p.categories p.inDefinitions scope cache p.effectiveMask reference :=
  ⟨f.findsFor, fun h => h.mem_references f⟩

/-- A search that is not cut short returns the references for which its mask finds something, unless the mask is too
long. -/
theorem search_findsFor (name : String) (defaultSchema : Option String) (cache : Cache) (fetchSize : UInt32)
    (hp : p.validate = .ok ()) (hcap : s.tables.rowCount < p.maxResults.toNat) :
    (∃ hits, (search cache (HostedCatalog.session ⟨name, defaultSchema, s.tables, false⟩) fetchSize p).result =
        .ok hits ∧ ∀ reference, reference ∈ hits ↔
          s.FindsFor p.categories p.inDefinitions (p.scopeWithin defaultSchema) cache p.effectiveMask reference) ∨
      Mask.isTooLong p.effectiveMask = true ∧
        (search cache (HostedCatalog.session ⟨name, defaultSchema, s.tables, false⟩) fetchSize p).result =
          .error (.dataAccess name (.database .patternTooLong)) := by
  rcases search_uncut name defaultSchema cache fetchSize hp hcap rfl with ⟨-, hall⟩ | ⟨⟨hlong, -⟩, hrefused⟩
  · exact .inl ⟨_, hall, fun _ => Findings.mem_references_iff_findsFor _⟩
  · exact .inr ⟨hlong, hrefused⟩

end References

end Stored

/-! ## Searching for the same with case and without -/

/-- **A search without case returns the references that its mask finds, folded**, for the names and texts as they are
stored. So it returns what a search with case returns for something in upper case, and the same if the mask is in upper
case, unless folding makes the mask too long. -/
theorem search_cased (additions : List Addition) (name : String) (defaultSchema : Option String) (cache : Cache)
    (fetchSize : UInt32) (p : Params) (hp : p.validate = .ok ())
    (hcap : (Tables.filled additions).rowCount < p.maxResults.toNat) (hits : List Reference)
    (h : (search cache (HostedCatalog.session ⟨name, defaultSchema, Tables.filled additions, false⟩) fetchSize
      (p.withCase true)).result = .ok hits) :
    (Text.upper p.mask = p.mask →
      (search cache (HostedCatalog.session ⟨name, defaultSchema, Tables.filled additions, false⟩) fetchSize
        (p.withCase false)).result = .ok hits) ∧
    (∀ reference, reference ∈ hits ↔ (Stored.ofAdditions additions).FindsFor p.categories p.inDefinitions
      (p.scopeWithin defaultSchema) cache (p.withCase true).effectiveMask reference) ∧
    ((∃ found, (search cache (HostedCatalog.session ⟨name, defaultSchema, Tables.filled additions, false⟩) fetchSize
          (p.withCase false)).result = .ok found ∧
        (∀ reference, reference ∈ found ↔ (Stored.ofAdditions additions).FindsFor p.categories p.inDefinitions
          (p.scopeWithin defaultSchema) cache (Text.upper (p.withCase true).effectiveMask) reference) ∧
        ∀ reference lookup text, (Stored.ofAdditions additions).LooksAt p.categories p.inDefinitions
          (p.scopeWithin defaultSchema) cache reference lookup text →
            Mask.Finds lookup (p.withCase true).effectiveMask text → Text.upper text = text → reference ∈ found) ∨
      Mask.isTooLong (Text.upper (p.withCase true).effectiveMask) = true ∧
        (search cache (HostedCatalog.session ⟨name, defaultSchema, Tables.filled additions, false⟩) fetchSize
          (p.withCase false)).result = .error (.dataAccess name (.database .patternTooLong))) := by
  refine ⟨fun hmask => by rw [search_withCase hmask, h], ?_⟩
  rw [Tables.filled_eq] at hcap h ⊢
  generalize Stored.ofAdditions additions = s at hcap h ⊢
  constructor
  · obtain ⟨hits', hall, hmem⟩ | ⟨-, hrefused⟩ :=
      Stored.search_findsFor name defaultSchema cache fetchSize (p := p.withCase true) hp hcap
    · rw [hall] at h
      cases h
      exact hmem
    · rw [hrefused] at h
      cases h
  · rw [← p.effectiveMask_withCase]
    obtain ⟨found, hall, hmem⟩ | hrefused :=
      Stored.search_findsFor name defaultSchema cache fetchSize (p := p.withCase false) hp hcap
    · refine .inl ⟨found, hall, hmem, ?_⟩
      intro reference lookup text hlooks hfinds htext
      have hvisible := Mask.visible_upper_of_fits hfinds.1 htext
      rw [← p.effectiveMask_withCase] at hvisible
      exact (hmem reference).2 ⟨lookup, text, hlooks, (Mask.finds_congr hvisible lookup text).2 hfinds⟩
    · exact .inr hrefused

/-- A table in upper case, and a table, a view and a routine in mixed case. -/
def mixedAdditions : List Addition :=
  [.relation "S" "LOG" 'T', .relation "S" "Customers" 'T', .view "S" "Recent" "select * from Customers",
    .routine "S" "refresh" "refresh_1" (some "update LOG")]

def mixedCase : HostedCatalog := ⟨"mixed", none, Tables.filled mixedAdditions, false⟩

def mixedCache : Cache := Cache.empty.insert { name := "S" }

/-- A search for what has a name or a text that a mask matches. -/
def namedOrDefinedBy (mask : String) : Params where
  mask := mask
  objectTypes := [.category .table, .category .view, .category .routine]
  globalSearch := true
  inDefinitions := true

theorem search_mixedAdditions :
    (namedOrDefinedBy "%L%").validate = .ok () ∧ (Tables.filled mixedAdditions).rowCount < 100 ∧
    Text.upper (namedOrDefinedBy "%L%").mask = (namedOrDefinedBy "%L%").mask ∧
    (search mixedCache mixedCase.session 1000 ((namedOrDefinedBy "%L%").withCase true)).result =
      .ok [⟨"LOG", .schema "S", .table⟩, ⟨"refresh", .schema "S", .routine⟩] ∧
    (search mixedCache mixedCase.session 1000 ((namedOrDefinedBy "%L%").withCase false)).result =
      .ok [⟨"LOG", .schema "S", .table⟩, ⟨"refresh", .schema "S", .routine⟩] := by
  have hcap : (Tables.filled mixedAdditions).rowCount < 100 := by decide +kernel
  have hmask : Text.upper (namedOrDefinedBy "%L%").mask = (namedOrDefinedBy "%L%").mask := by decide +kernel
  have hcased : (search mixedCache mixedCase.session 1000 ((namedOrDefinedBy "%L%").withCase true)).result =
      .ok [⟨"LOG", .schema "S", .table⟩, ⟨"refresh", .schema "S", .routine⟩] := by
    decide +kernel
  exact ⟨rfl, hcap, hmask, hcased,
    (search_cased mixedAdditions "mixed" none mixedCache 1000 (namedOrDefinedBy "%L%") rfl hcap _ hcased).1 hmask⟩

/-- What is stored in mixed case is found by a part of its name or text with case, and not without. -/
theorem search_mixedCase :
    (∀ mask ∈ ["Cust", "%select%", "%update%"], (namedOrDefinedBy mask).validate = .ok ()) ∧
    (Tables.filled mixedAdditions).rowCount < 100 ∧
    (search mixedCache mixedCase.session 1000 ((namedOrDefinedBy "Cust").withCase true)).result =
      .ok [⟨"Customers", .schema "S", .table⟩] ∧
    (search mixedCache mixedCase.session 1000 ((namedOrDefinedBy "Cust").withCase false)).result = .ok [] ∧
    (search mixedCache mixedCase.session 1000 ((namedOrDefinedBy "%select%").withCase true)).result =
      .ok [⟨"Recent", .schema "S", .view⟩] ∧
    (search mixedCache mixedCase.session 1000 ((namedOrDefinedBy "%select%").withCase false)).result = .ok [] ∧
    (search mixedCache mixedCase.session 1000 ((namedOrDefinedBy "%update%").withCase true)).result =
      .ok [⟨"refresh", .schema "S", .routine⟩] ∧
    (search mixedCache mixedCase.session 1000 ((namedOrDefinedBy "%update%").withCase false)).result = .ok [] := by
  decide +kernel

end CatalogFinder
