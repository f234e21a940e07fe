import CatalogFinder.Catalog.Load
import CatalogFinder.Proofs.Catalog.Codes
import CatalogFinder.Proofs.Tables.Served
import CatalogFinder.Proofs.Text.Ascii
import CatalogFinder.Proofs.Search.Walk
import CatalogFinder.Search.Run
import CatalogFinder.Tables.Hosted

/-!
# Searches in a filled catalog

A search in a catalog that has been filled by additions finds relations, columns and routines, each in their order, and
returns the first references to them that a cache allows.

* `Search.Serves` : a reply is read to its end without an error, or is a refusal;
* `Search.runPlan_of_serves` : a plan of such replies gives the first references of them all;
* `Stored.Findings` : the rows that a search asks for, in their order, and the references to them;
* `Stored.findings` : these rows, as they are served;
* `Stored.search_findings` : a search returns the first of these references.
-/

namespace CatalogFinder

namespace Search

/-! ## Replies that are read to the end -/

section Serves
variable (session : Session) (cache : Cache) (refusal : SessionError)

/-- The reply to the query of a group gives these references when it is read to its end, or it is the refusal. -/
inductive Serves (g : Group) (q : Query) : List Reference → Prop
  | rows {α : Type} (row : α → Row) (hit? : α → Option Reference) (items : List α) :
      session.reply q = ⟨items.map row, none⟩ → (∀ a first, g.read cache first (row a) = .ok (hit? a)) →
      Serves g q (items.filterMap hit?)
  | refused (hits : List Reference) : session.reply q = ⟨[], some refusal⟩ → Serves g q hits

variable {session cache refusal}

theorem not_cancelled (hnever : session.cancelAfter = none) (fetched : Nat) : session.cancelled fetched = false := by
  rw [Session.cancelled, hnever]

/-- Rows that are read without an error give the first references to them. -/
theorem readRows_of_read (hnever : session.cancelAfter = none) {g : Group} {α : Type} {row : α → Row}
    {hit? : α → Option Reference} (hread : ∀ a first, g.read cache first (row a) = .ok (hit? a)) (items : List α)
    (room fetched : Nat) (first : Bool) (hroom : 0 < room) :
    (readRows session cache g none room fetched first (items.map row)).failure = none ∧
      (readRows session cache g none room fetched first (items.map row)).hits = (items.filterMap hit?).take room := by
  induction items generalizing room fetched first with
  | nil => simp [readRows]
  | cons a items ih =>
    rw [List.map_cons, readRows]
    simp only [not_cancelled hnever, Bool.false_eq_true, if_false, hread]
    cases hhit : hit? a with
    | none =>
      rw [List.filterMap_cons_none hhit]
      exact ih room (fetched + 1) false hroom
    | some hit =>
      rw [List.filterMap_cons_some hhit]
      by_cases hlast : room ≤ 1
      · have hone : room = 1 := by omega
        subst hone
        exact ⟨rfl, rfl⟩
      · obtain ⟨hfailure, hhits⟩ := ih (room - 1) (fetched + 1) false (by omega)
        have htake : (hit :: items.filterMap hit?).take room = hit :: (items.filterMap hit?).take (room - 1) := by
          rw [← List.take_succ_cons, Nat.sub_add_cancel hroom]
        simp only [hlast, if_false]
        rw [htake]
        exact ⟨hfailure, congrArg (hit :: ·) hhits⟩

/-- **A plan whose replies are read to the end gives the first references of them all**, unless one of the replies is
the refusal. -/
theorem runPlan_of_serves (hnever : session.cancelAfter = none) (found : Group → List Reference)
    (plan : List (Group × Query)) (hserves : ∀ e ∈ plan, Serves session cache refusal e.1 e.2 (found e.1))
    (room fetched : Nat) :
    (runPlan session cache room fetched plan).result = .ok ((plan.flatMap fun e => found e.1).take room) ∨
      (∃ e ∈ plan, session.reply e.2 = ⟨[], some refusal⟩) ∧
        (runPlan session cache room fetched plan).result = .error refusal := by
  induction plan generalizing room fetched with
  | nil => simp [runPlan]
  | cons e plan ih =>
    obtain ⟨g, q⟩ := e
    rw [runPlan]
    by_cases hroom : room = 0
    · subst hroom
      simp
    · simp only [not_cancelled hnever, hroom, Bool.or_false, decide_false, Bool.false_eq_true, if_false]
      have hg : Serves session cache refusal g q (found g) := hserves (g, q) List.mem_cons_self
      generalize hhits : found g = hits at hg
      cases hg with
      | refused _ hreply =>
        refine .inr ⟨⟨(g, q), List.mem_cons_self, hreply⟩, ?_⟩
        simp [hreply, readRows]
      | rows row hit? items hreply hread =>
        obtain ⟨hfailure, htake⟩ := readRows_of_read hnever hread items room fetched true (by omega)
        rw [hreply]
        simp only [hfailure, htake]
        -- cutting each reply to the room that is left cuts the whole
        have hlength : room - ((items.filterMap hit?).take room).length = room - (items.filterMap hit?).length := by
          rw [List.length_take]
          omega
        rw [hlength, List.flatMap_cons, hhits, List.take_append]
        rcases ih (fun e he => hserves e (List.mem_cons_of_mem _ he)) (room - (items.filterMap hit?).length)
          _ with hok | ⟨⟨e, he, hrefused⟩, herror⟩
        · left
          rw [hok]
          rfl
        · right
          rw [herror]
          exact ⟨⟨e, List.mem_cons_of_mem _ he, hrefused⟩, rfl⟩

/-- A plan that is refused one of its replies is refused, if the other replies do not fill the room. -/
theorem runPlan_of_refused (hnever : session.cancelAfter = none) (found : Group → List Reference)
    (plan : List (Group × Query)) (hserves : ∀ e ∈ plan, Serves session cache refusal e.1 e.2 (found e.1))
    (hrefused : ∃ e ∈ plan, session.reply e.2 = ⟨[], some refusal⟩) (room fetched : Nat)
    (hroom : (plan.flatMap fun e => found e.1).length < room) :
    (runPlan session cache room fetched plan).result = .error refusal := by
  induction plan generalizing room fetched with
  | nil =>
    obtain ⟨e, he, -⟩ := hrefused
    cases he
  | cons e plan ih =>
    obtain ⟨g, q⟩ := e
    rw [List.flatMap_cons, List.length_append] at hroom
    have hne : room ≠ 0 := by omega
    rw [runPlan]
    simp only [not_cancelled hnever, hne, Bool.or_false, decide_false, Bool.false_eq_true, if_false]
    have hg : Serves session cache refusal g q (found g) := hserves (g, q) List.mem_cons_self
    generalize found g = hits at hg hroom
    cases hg with
    | refused _ hreply => simp [hreply, readRows]
    | rows row hit? items hreply hread =>
      obtain ⟨hfailure, htake⟩ := readRows_of_read hnever hread items room fetched true (by omega)
      rw [List.take_of_length_le (by omega)] at htake
      have hlater : ∃ e ∈ plan, session.reply e.2 = ⟨[], some refusal⟩ := by
        obtain ⟨e, he, hrefusal⟩ := hrefused
        rcases List.mem_cons.1 he with rfl | he
        · rw [hreply] at hrefusal
          exact absurd (congrArg Reply.failure hrefusal) (by simp)
        · exact ⟨e, he, hrefusal⟩
      rw [hreply]
      simp only [hfailure, htake]
      rw [ih (fun e he => hserves e (List.mem_cons_of_mem _ he)) hlater _ _ (by omega)]
      rfl

end Serves

end Search

/-! ## References to rows -/

/-- The reference to a relation, if its code is known and its schema is cached. -/
def RelationRow.reference? (cache : Cache) (r : RelationRow) : Option Reference :=
  match TypeCodes.standard.categoryFor? r.code.toString, cache.schema? (Text.trimEnd r.schema) with
  | some category, some _ => some ⟨r.name, .schema (Text.trimEnd r.schema), category⟩
  | _, _ => none

/-- The reference to a column, if its owner is cached as a table or a view. -/
def ColumnRow.reference? (cache : Cache) (c : ColumnRow) : Option Reference :=
  (Group.ownerContainer? cache (Text.trimEnd c.schema) c.owner).map fun container => ⟨c.name, container, .column⟩

/-- The reference to a routine of a schema and name, if its schema is cached. -/
def routineReference? (cache : Cache) (routine : String × String) : Option Reference :=
  (cache.schema? (Text.trimEnd routine.1)).map fun _ => ⟨routine.2, .schema (Text.trimEnd routine.1), .routine⟩

theorem RelationRow.of_reference? {cache : Cache} {r : RelationRow} {reference : Reference}
    (h : r.reference? cache = some reference) : reference.name = r.name ∧
      reference.container = .schema (Text.trimEnd r.schema) ∧ reference.category.isTableLike = true := by
  unfold reference? at h
  split at h
  next hcategory _ =>
    cases h
    exact ⟨rfl, rfl, TypeCodes.isTableLike_of_categoryFor? hcategory⟩
  next => cases h

theorem ColumnRow.of_reference? {cache : Cache} {c : ColumnRow} {reference : Reference}
    (h : c.reference? cache = some reference) : reference.name = c.name ∧
      reference.container.schemaName = Text.trimEnd c.schema ∧ reference.container.name = c.owner ∧
        reference.category = .column := by
  obtain ⟨container, hcontainer, rfl⟩ := Option.map_eq_some_iff.1 h
  obtain ⟨kept, -, howner⟩ := Option.bind_eq_some_iff.1 hcontainer
  split at howner
  · cases howner
    exact ⟨rfl, rfl, rfl, rfl⟩
  · split at howner
    · cases howner
      exact ⟨rfl, rfl, rfl, rfl⟩
    · cases howner

theorem of_routineReference? {cache : Cache} {routine : String × String} {reference : Reference}
    (h : routineReference? cache routine = some reference) : reference.name = routine.2 ∧
      reference.container = .schema (Text.trimEnd routine.1) ∧ reference.category = .routine := by
  obtain ⟨kept, -, rfl⟩ := Option.map_eq_some_iff.1 h
  exact ⟨rfl, rfl, rfl⟩

theorem read_relation (cache : Cache) (r : RelationRow) (first : Bool) :
    Group.tableLike.read cache first r.hitRow = .ok (r.reference? cache) := by
  have hcolumns : (if first then Group.tableLike.requiredColumns.find? (!r.hitRow.has ·) else none) = none := by
    cases first <;> rfl
  have hschema : r.hitRow.requireTrimmed "TABSCHEMA" = .ok (Text.trimEnd r.schema) := rfl
  have hname : r.hitRow.require "TABNAME" = .ok r.name := rfl
  have hcode : r.hitRow.require "TYPE" = .ok r.code.toString := rfl
  rw [Group.read, hcolumns]
  unfold Group.tag Group.tagRelation RelationRow.reference?
  rw [hschema, hname, hcode]
  simp only [bind, Except.bind, pure, Except.pure]
  cases TypeCodes.standard.categoryFor? r.code.toString with
  | none => rfl
  | some category => cases cache.schema? (Text.trimEnd r.schema) <;> rfl

theorem read_column (cache : Cache) (c : ColumnRow) (first : Bool) :
    Group.columns.read cache first c.hitRow = .ok (c.reference? cache) := by
  have hcolumns : (if first then Group.columns.requiredColumns.find? (!c.hitRow.has ·) else none) = none := by
    cases first <;> rfl
  rw [Group.read, hcolumns]
  rfl

theorem read_routine (cache : Cache) (routine : String × String) (first : Bool) :
    Group.routines.read cache first (routineHitRow routine) = .ok (routineReference? cache routine) := by
  have hcolumns : (if first then Group.routines.requiredColumns.find? (!(routineHitRow routine).has ·) else none) =
      none := by
    cases first <;> rfl
  rw [Group.read, hcolumns]
  rfl

/-! ## Groups that are asked for -/

theorem mem_groups {p : Params} {g : Group} : g ∈ p.groups ↔ ∃ c ∈ p.categories, Group.ofCategory c = g := by
  have hall : g ∈ Group.all := by cases g <;> decide
  simp [Params.groups, hall]

theorem ofCategory_of_isTableLike {c : Category} (h : c.isTableLike = true) : Group.ofCategory c = .tableLike := by
  cases c <;> first | rfl | cases h

theorem columns_mem_groups {p : Params} : Group.columns ∈ p.groups ↔ .column ∈ p.categories := by
  rw [mem_groups]
  constructor
  · rintro ⟨c, hc, hgroup⟩
    cases c <;> first | exact hc | cases hgroup
  · intro h
    exact ⟨_, h, rfl⟩

theorem routines_mem_groups {p : Params} : Group.routines ∈ p.groups ↔ .routine ∈ p.categories := by
  rw [mem_groups]
  constructor
  · rintro ⟨c, hc, hgroup⟩
    cases c <;> first | exact hc | cases hgroup
  · intro h
    exact ⟨_, h, rfl⟩

/-- What the wanted groups have is what all groups have, if the others have nothing. -/
theorem flatMap_groups {α : Type} (p : Params) (f : Group → List α) (hf : ∀ g, g ∉ p.groups → f g = []) :
    p.groups.flatMap f = f .tableLike ++ (f .columns ++ f .routines) := by
  have hfilter : ∀ gs : List Group, (gs.filter fun g => p.categories.any (Group.ofCategory · == g)).flatMap f =
      gs.flatMap f := by
    intro gs
    induction gs with
    | nil => rfl
    | cons g gs ih =>
      rw [List.filter_cons]
      split
      next => rw [List.flatMap_cons, List.flatMap_cons, ih]
      next hg =>
        have hnot : g ∉ p.groups := by
          rw [mem_groups]
          simpa using hg
        rw [ih, List.flatMap_cons, hf g hnot, List.nil_append]
  rw [Params.groups, hfilter]
  simp [Group.all]

/-! ## Findings -/

namespace Stored

/-- The rows that a search asks for, in their order. -/
structure Findings (s : Stored) (p : Params) (scope : Option String) where
  relations : List RelationRow
  columns : List ColumnRow
  routines : List (String × String)
  relations_sorted : relations.Pairwise fun a b => Precedes a.key b.key
  /-- A relation is stored under a code of a wanted category, and its name or text matches. -/
  mem_relations : ∀ r, r ∈ relations ↔ r ∈ s.relations.rows ∧ InScope scope r.schema ∧
    (∃ c ∈ p.categories, TypeCodes.standard.categoryFor? r.code.toString = some c) ∧
    (Mask.Finds scope p.effectiveMask r.name ∨ p.inDefinitions = true ∧
      ∃ v ∈ s.views.rows, v.schema = r.schema ∧ v.name = r.name ∧ Mask.Fits p.effectiveMask v.text)
  columns_sorted : columns.Pairwise ColumnRow.Ordered
  columns_nodup : columns.Nodup
  mem_columns : ∀ c, c ∈ columns ↔ .column ∈ p.categories ∧ c ∈ s.columns.rows ∧ InScope scope c.schema ∧
    Mask.Fits p.effectiveMask c.name
  routines_sorted : routines.Pairwise Precedes
  /-- One overload with a matching name or text is enough. -/
  mem_routines : ∀ schema name, (schema, name) ∈ routines ↔ .routine ∈ p.categories ∧ InScope scope schema ∧
    ∃ r ∈ s.routines.rows, r.schema = schema ∧ r.name = name ∧
      (Mask.Fits p.effectiveMask name ∨ p.inDefinitions = true ∧
        ∃ text, r.text = some text ∧ Mask.Fits p.effectiveMask text)

/-- The references to the rows that are cached. -/
def Findings.references {s : Stored} {p : Params} {scope : Option String} (f : s.Findings p scope) (cache : Cache) :
    List Reference :=
  f.relations.filterMap (·.reference? cache) ++ (f.columns.filterMap (·.reference? cache) ++
    f.routines.filterMap (routineReference? cache))

theorem Findings.mem_references_iff {s : Stored} {p : Params} {scope : Option String} (f : s.Findings p scope)
    {cache : Cache} {reference : Reference} : reference ∈ f.references cache ↔
      (∃ r ∈ f.relations, r.reference? cache = some reference) ∨
        (∃ c ∈ f.columns, c.reference? cache = some reference) ∨
          ∃ r ∈ f.routines, routineReference? cache r = some reference := by
  rw [references, List.mem_append, List.mem_append, List.mem_filterMap, List.mem_filterMap, List.mem_filterMap]

section Search
variable (s : Stored) (p : Params) (scope : Option String)

/-- The references of a group, among those of some findings. -/
def Findings.ofGroup {s : Stored} {p : Params} {scope : Option String} (f : s.Findings p scope) (cache : Cache) :
    Group → List Reference
  | .tableLike => f.relations.filterMap (·.reference? cache)
  | .columns => f.columns.filterMap (·.reference? cache)
  | .routines => f.routines.filterMap (routineReference? cache)

/-- The rows of a group, among some findings, as they are served. -/
def Findings.rowsOf {s : Stored} {p : Params} {scope : Option String} (f : s.Findings p scope) : Group → List Row
  | .tableLike => f.relations.map RelationRow.hitRow
  | .columns => f.columns.map ColumnRow.hitRow
  | .routines => f.routines.map routineHitRow

/-- The rows that a search asks for, as they are served. -/
def findings : s.Findings p scope where
  relations := s.wantedRelations scope p.effectiveMask (TypeCodes.standard.codesForAll p.categories) p.inDefinitions
  columns := if .column ∈ p.categories then s.wantedColumns scope p.effectiveMask else []
  routines := if .routine ∈ p.categories then s.wantedRoutines scope p.effectiveMask p.inDefinitions else []
  relations_sorted := s.pairwise_wantedRelations ..
  mem_relations r := by rw [mem_wantedRelations, WantsRelation, TypeCodes.mem_codesForAll]
  columns_sorted := by
    split
    next => exact s.pairwise_wantedColumns ..
    next => exact .nil
  columns_nodup := by
    split
    next => exact s.nodup_wantedColumns ..
    next => exact .nil
  mem_columns c := by
    split
    next h => rw [mem_wantedColumns, and_iff_right h, WantsColumn]
    next h => simp [h]
  routines_sorted := by
    split
    next => exact s.pairwise_wantedRoutines ..
    next => exact .nil
  mem_routines schema name := by
    split
    next h =>
      rw [mem_wantedRoutines, and_iff_right h]
      constructor
      · rintro ⟨r, hr, rfl, rfl, hscope, hwants⟩
        exact ⟨hscope, r, hr, rfl, rfl, hwants⟩
      · rintro ⟨hscope, r, hr, rfl, rfl, hwants⟩
        exact ⟨r, hr, rfl, rfl, hscope, hwants⟩
    next h => simp [h]

theorem relations_findings : (s.findings p scope).relations = s.wantedRelations scope p.effectiveMask
    (TypeCodes.standard.codesForAll p.categories) p.inDefinitions := rfl

theorem columns_findings : (s.findings p scope).columns =
    if .column ∈ p.categories then s.wantedColumns scope p.effectiveMask else [] := rfl

theorem routines_findings : (s.findings p scope).routines =
    if .routine ∈ p.categories then s.wantedRoutines scope p.effectiveMask p.inDefinitions else [] := rfl

/-- Something has to be compared with the mask to serve a group. -/
def compares : Group → Bool
  | .tableLike =>
    s.comparesRelations scope p.effectiveMask (TypeCodes.standard.codesForAll p.categories) p.inDefinitions
  | .columns => s.comparesColumns scope
  | .routines => s.comparesRoutines scope

/-- A wanted group is served its findings, unless something is compared with a mask that is too long. -/
theorem answer_group {g : Group} (hg : g ∈ p.groups) : s.tables.answer (g.request p scope) =
    (Tables.guardMask p.effectiveMask (s.compares p scope g)).map fun _ => (s.findings p scope).rowsOf g := by
  cases g with
  | tableLike => exact s.answer_matchingRelations ..
  | columns =>
    rw [Findings.rowsOf, columns_findings, if_pos (columns_mem_groups.1 hg)]
    exact s.answer_matchingColumns ..
  | routines =>
    rw [Findings.rowsOf, routines_findings, if_pos (routines_mem_groups.1 hg)]
    exact s.answer_matchingRoutines ..

/-- A group that is not wanted has no findings. -/
theorem rowsOf_findings_eq_nil {g : Group} (hg : g ∉ p.groups) : (s.findings p scope).rowsOf g = [] := by
  cases g with
  | tableLike =>
    rw [Findings.rowsOf, List.map_eq_nil_iff, List.eq_nil_iff_forall_not_mem]
    intro r hr
    obtain ⟨-, -, ⟨c, hc, hcategory⟩, -⟩ := ((s.findings p scope).mem_relations r).1 hr
    exact hg (mem_groups.2 ⟨c, hc, ofCategory_of_isTableLike (TypeCodes.isTableLike_of_categoryFor? hcategory)⟩)
  | columns => rw [Findings.rowsOf, columns_findings, if_neg (mt columns_mem_groups.2 hg), List.map_nil]
  | routines => rw [Findings.rowsOf, routines_findings, if_neg (mt routines_mem_groups.2 hg), List.map_nil]

/-- **There are rows that a search asks for, and they are what the groups of the search are served.** -/
theorem exists_findings : ∃ f : s.Findings p scope,
    (∀ g ∈ p.groups, s.Answers p.effectiveMask (g.request p scope) (f.rowsOf g)) ∧
      ∀ g, g ∉ p.groups → f.rowsOf g = [] :=
  ⟨s.findings p scope, fun _ hg => s.answers_of_guarded _ (s.answer_group p scope hg),
    fun _ hg => s.rowsOf_findings_eq_nil p scope hg⟩

variable {s p scope}

theorem Findings.ofGroup_eq_nil (f : s.Findings p scope) (cache : Cache) {g : Group} (h : f.rowsOf g = []) :
    f.ofGroup cache g = [] := by
  cases g <;> rw [ofGroup, List.map_eq_nil_iff.1 h, List.filterMap_nil]

theorem Findings.references_eq (f : s.Findings p scope) (cache : Cache) (h : ∀ g, g ∉ p.groups → f.rowsOf g = []) :
    f.references cache = p.groups.flatMap (f.ofGroup cache) :=
  (flatMap_groups p _ fun g hg => f.ofGroup_eq_nil cache (h g hg)).symm

/-- What is served to a group is read to the end, unless the mask is too long. -/
theorem Findings.serves (f : s.Findings p scope) (cache : Cache) (session : Session) {g : Group} {q : Query}
    (hreply : session.reply q = s.tables.reply q.request)
    (hanswers : s.Answers p.effectiveMask q.request (f.rowsOf g)) :
    Search.Serves session cache (.database .patternTooLong) g q (f.ofGroup cache g) := by
  rcases hanswers with hok | ⟨-, herror⟩
  · rw [Tables.reply, hok] at hreply
    cases g with
    | tableLike => exact .rows RelationRow.hitRow _ _ hreply (read_relation cache)
    | columns => exact .rows ColumnRow.hitRow _ _ hreply (read_column cache)
    | routines => exact .rows routineHitRow _ _ hreply (read_routine cache)
  · rw [Tables.reply, herror] at hreply
    exact .refused _ hreply

end Search

section Runs
variable (s : Stored) (name : String) (defaultSchema : Option String) (cache : Cache) (fetchSize : UInt32) (p : Params)

theorem result_search (hp : p.validate = .ok ()) :
    (search cache (HostedCatalog.session ⟨name, defaultSchema, s.tables, false⟩) fetchSize p).result =
      (Search.runPlan (HostedCatalog.session ⟨name, defaultSchema, s.tables, false⟩) cache p.maxResults.toNat 0
        (p.plan .sqlite defaultSchema fetchSize)).result.mapError (.dataAccess name) := by
  rw [Search.search_eq_runPlan _ _ _ hp]
  rfl

/-- The queries of a search are served the findings, or are refused. -/
theorem serves_plan : ∀ e ∈ p.plan .sqlite defaultSchema fetchSize,
    Search.Serves (HostedCatalog.session ⟨name, defaultSchema, s.tables, false⟩) cache (.database .patternTooLong) e.1
      e.2 ((s.findings p (p.scopeWithin defaultSchema)).ofGroup cache e.1) := by
  intro e he
  obtain ⟨g, hg, rfl⟩ := List.mem_map.1 he
  exact (s.findings p _).serves cache _ rfl (s.answers_of_guarded _ (s.answer_group p _ hg))

theorem flatMap_plan : ((p.plan .sqlite defaultSchema fetchSize).flatMap fun e =>
    (s.findings p (p.scopeWithin defaultSchema)).ofGroup cache e.1) =
      (s.findings p (p.scopeWithin defaultSchema)).references cache := by
  rw [Findings.references_eq _ cache fun _ hg => s.rowsOf_findings_eq_nil p _ hg, Params.plan, List.flatMap_map]

/-- The query of a group is refused when something is compared with a mask that is too long, and only then. -/
theorem refused_iff {g : Group} (hg : g ∈ p.groups) (scope : Option String) :
    s.tables.reply (g.request p scope) = ⟨[], some (.database .patternTooLong)⟩ ↔
      Mask.isTooLong p.effectiveMask = true ∧ s.compares p scope g = true := by
  rw [Tables.reply, s.answer_group p scope hg, Tables.guardMask]
  cases Mask.isTooLong p.effectiveMask <;> cases s.compares p scope g <;> simp [Except.map]

end Runs

/-- **A search in a filled catalog returns the first references to the rows that it asks for**, unless its mask is too
long to be compared with. -/
theorem search_findings (s : Stored) (name : String) (defaultSchema : Option String) (cache : Cache)
    (fetchSize : UInt32) (p : Params) (hp : p.validate = .ok ()) :
    ∃ f : s.Findings p (p.scopeWithin defaultSchema),
      (search cache (HostedCatalog.session ⟨name, defaultSchema, s.tables, false⟩) fetchSize p).result =
          .ok ((f.references cache).take p.maxResults.toNat) ∨
        Mask.isTooLong p.effectiveMask = true ∧
          (search cache (HostedCatalog.session ⟨name, defaultSchema, s.tables, false⟩) fetchSize p).result =
            .error (.dataAccess name (.database .patternTooLong)) := by
  refine ⟨s.findings p _, ?_⟩
  rw [s.result_search name defaultSchema cache fetchSize p hp]
  rcases Search.runPlan_of_serves rfl _ _ (s.serves_plan name defaultSchema cache fetchSize p) p.maxResults.toNat 0 with
    hok | ⟨⟨e, he, hrefused⟩, herror⟩
  · left
    rw [hok, flatMap_plan]
    rfl
  · right
    obtain ⟨g, hg, rfl⟩ := List.mem_map.1 he
    rw [herror]
    exact ⟨((s.refused_iff p hg _).1 hrefused).1, rfl⟩

end Stored

/-! ## Catalogs filled by additions -/

/-- **A search in a catalog that has been filled by additions returns the first references to the relations, columns and
routines that it asks for, in this order**, unless its mask is too long to be compared with. -/
theorem search_filled (additions : List Addition) (name : String) (defaultSchema : Option String) (cache : Cache)
    (fetchSize : UInt32) (p : Params) (hp : p.validate = .ok ()) :
    ∃ s : Stored, Tables.filled additions = s.tables ∧
      ∃ f : s.Findings p (p.scopeWithin defaultSchema),
        (search cache (HostedCatalog.session ⟨name, defaultSchema, Tables.filled additions, false⟩) fetchSize p).result =
            .ok ((f.references cache).take p.maxResults.toNat) ∨
          Mask.isTooLong p.effectiveMask = true ∧
            (search cache (HostedCatalog.session ⟨name, defaultSchema, Tables.filled additions, false⟩) fetchSize
              p).result = .error (.dataAccess name (.database .patternTooLong)) := by
  rw [Tables.filled_eq]
  exact ⟨_, rfl, Stored.search_findings _ name defaultSchema cache fetchSize p hp⟩

/-- Relations in three schemas, columns out of order and two overloads of a routine. -/
def smallAdditions : List Addition :=
  [.relation "S" "VENDORS" 'T', .column "S" "VENDORS" "VAT" 1 "INTEGER" true,
    .column "S" "VENDORS" "VALUE" 0 "INTEGER" true, .view "R" "NAMES" "VENDORS by name", .relation "Q" "VOID" 'T',
    .routine "S" "VOTE" "VOTE_1" none, .routine "S" "VISIT" "VISIT_1" none,
    .routine "S" "VISIT" "VISIT_2" (some "V1")]

def smallCatalog : HostedCatalog := ⟨"small", none, Tables.filled smallAdditions, false⟩

/-- The cache of this catalog, without one of its schemas. -/
def smallCache : Cache :=
  let names : Relation :=
    { name := "NAMES", category := .view, typeCode := 'V', definition := some "VENDORS by name" }
  let vendors : Relation :=
    { name := "VENDORS", category := .table, typeCode := 'T'
      columns := [⟨"VALUE", 0, "INTEGER", true⟩, ⟨"VAT", 1, "INTEGER", true⟩] }
  (Cache.empty.insert (Schema.addRelation { name := "R" } names)).insert
    ((((Schema.addRelation { name := "S" } vendors).addRoutine "VOTE" "VOTE_1" none).addRoutine "VISIT" "VISIT_1"
      none).addRoutine "VISIT" "VISIT_2" (some "V1"))

/-- A search for everything whose name or text begins with a letter. -/
def allWithV : Params where
  mask := "V"
  objectTypes := [.category .table, .category .view, .category .column, .category .routine]
  globalSearch := true
  inDefinitions := true

/-- What it finds where this catalog is cached. -/
def hitsWithV : List Reference :=
  [⟨"NAMES", .schema "R", .view⟩, ⟨"VENDORS", .schema "S", .table⟩, ⟨"VALUE", .table "S" "VENDORS", .column⟩,
    ⟨"VAT", .table "S" "VENDORS", .column⟩, ⟨"VISIT", .schema "S", .routine⟩, ⟨"VOTE", .schema "S", .routine⟩]

/-- The cap cuts the last routine off. The table of a schema that is not cached does not count. -/
theorem search_smallAdditions :
    load smallCatalog.session ⟨[], ["Q"]⟩ 1000 = .ok smallCache ∧
    (search smallCache smallCatalog.session 1000 allWithV).result = .ok hitsWithV ∧
    { allWithV with maxResults := 5 }.validate = .ok () ∧
    (search smallCache smallCatalog.session 1000 { allWithV with maxResults := 5 }).result = .ok (hitsWithV.take 5) ∧
    ∃ s : Stored, Tables.filled smallAdditions = s.tables ∧
      ∃ f : s.Findings { allWithV with maxResults := 5 } none,
        (f.references smallCache).take 5 = hitsWithV.take 5 := by
  have hload : load smallCatalog.session ⟨[], ["Q"]⟩ 1000 = .ok smallCache := by decide +kernel
  have hall : (search smallCache smallCatalog.session 1000 allWithV).result = .ok hitsWithV := by decide +kernel
  have hfive : (search smallCache smallCatalog.session 1000 { allWithV with maxResults := 5 }).result =
      .ok (hitsWithV.take 5) := by
    decide +kernel
  obtain ⟨s, hs, f, hfound⟩ :=
    search_filled smallAdditions "small" none smallCache 1000 { allWithV with maxResults := 5 } rfl
  refine ⟨hload, hall, rfl, hfive, s, hs, f, ?_⟩
  rcases hfound with hok | ⟨-, herror⟩
  · exact Except.ok.inj (hok.symm.trans hfive)
  · cases hfive.symm.trans herror

/-! ## Masks that are too long -/

/-- A mask of so many wildcards. -/
def wildcards (n : Nat) : String := String.ofList (List.replicate n '%')

/-- A search for the tables whose name matches a mask. -/
def tablesLike (mask : String) : Params where
  mask := mask
  caseSensitive := true
  objectTypes := [.category .table]
  globalSearch := true

/-- A catalog with one table. -/
def singleTable : HostedCatalog := ⟨"single", none, Tables.filled [.relation "S" "T" 'T'], false⟩

theorem utf8ByteSize_wildcards (n : Nat) : (wildcards n).utf8ByteSize = n := by
  have hascii : ∀ c ∈ List.replicate n '%', c.toNat < 0x80 := by
    intro c hc
    rw [List.eq_of_mem_replicate hc]
    decide
  rw [wildcards, Text.utf8ByteSize_ofList hascii, List.length_replicate]

theorem effectiveMask_wildcards {n : Nat} (hn : n ≠ 0) : (tablesLike (wildcards n)).effectiveMask = wildcards n := by
  have hrun : (wildcards n).toList.contains '%' = true := by
    rw [wildcards, String.toList_ofList, List.contains_iff_mem, List.mem_replicate]
    exact ⟨hn, rfl⟩
  show (if (wildcards n).toList.contains '%' then wildcards n else wildcards n ++ "%") = wildcards n
  rw [if_pos hrun]

theorem validate_wildcards {n : Nat} (hn : n ≠ 0) : (tablesLike (wildcards n)).validate = .ok () := by
  have hempty : (wildcards n).isEmpty = false := by
    rw [Bool.eq_false_iff]
    intro h
    rw [String.isEmpty_iff] at h
    exact hn (by rw [← utf8ByteSize_wildcards n, h]; rfl)
  unfold Params.validate
  rw [tablesLike, hempty]
  rfl

theorem answer_singleTable {mask : String} (hmask : Mask.isTooLong mask = true) (codes : List Char) :
    singleTable.tables.answer (.matchingRelations none mask codes false) = .error .patternTooLong := by
  show (Tables.guardMask mask (true || _) >>= fun _ => _) = _
  rw [Tables.guardMask, hmask]
  rfl

theorem search_wildcards (cache : Cache) (fetchSize : UInt32) {n : Nat} (hn : Mask.maxSize < n) :
    (search cache singleTable.session fetchSize (tablesLike (wildcards n))).result =
      .error (.dataAccess "single" (.database .patternTooLong)) := by
  have hne : n ≠ 0 := by
    intro h
    exact absurd hn (by rw [h]; decide)
  have hmask : Mask.isTooLong (tablesLike (wildcards n)).effectiveMask = true := by
    rw [effectiveMask_wildcards hne, Mask.isTooLong, utf8ByteSize_wildcards]
    exact decide_eq_true hn
  -- under another name the long mask is not written out by the steps below
  generalize hp : tablesLike (wildcards n) = p at hmask
  have hreply : singleTable.session.reply ⟨.matchingRelations none p.effectiveMask
      (TypeCodes.standard.codesForAll p.categories) false, .sqlite, fetchSize⟩ =
      ⟨[], some (.database .patternTooLong)⟩ := by
    show singleTable.tables.reply _ = _
    rw [Tables.reply, answer_singleTable hmask]
  have hplan : p.plan .sqlite none fetchSize = [(.tableLike, ⟨.matchingRelations none p.effectiveMask
      (TypeCodes.standard.codesForAll p.categories) false, .sqlite, fetchSize⟩)] := by
    rw [← hp]
    rfl
  have hroom : p.maxResults.toNat = 100 := by
    rw [← hp]
    rfl
  rw [Search.search_eq_runPlan _ _ _ (hp ▸ validate_wildcards hne)]
  show (Search.runPlan singleTable.session _ p.maxResults.toNat 0 (p.plan .sqlite none fetchSize)).result.mapError _ = _
  rw [hplan, hroom, Search.runPlan, hreply]
  rfl

/-- The table is not found by a mask that every name matches, since the mask is too long. -/
theorem search_longMask :
    (tablesLike (wildcards 50001)).validate = .ok () ∧
    (search (Cache.empty.insert { name := "S" }) singleTable.session 1000 (tablesLike (wildcards 50001))).result =
      .error (.dataAccess "single" (.database .patternTooLong)) :=
  ⟨validate_wildcards (by decide), search_wildcards _ _ (by decide)⟩

end CatalogFinder
