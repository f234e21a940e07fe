import CatalogFinder.Proofs.Catalog.Codes
import CatalogFinder.Proofs.Search.Hosted
import CatalogFinder.Proofs.Session.Bound

/-!
# The texts of planned queries

What a caller looks for never gets into the text of a query. The text has a placeholder for the schema to search in,
where there is one, and one for each comparison with the mask; these are bound in the order in which they stand there.
Of the parameters only the categories that are wanted decide on the text, as the codes that relations are stored under.

* `Group.isBound_request` : the placeholders of a planned query, each in front of its value;
* `Group.sql_request` : the text depends on whether there is a schema to search in, and on nothing else of it;
* `Query.ListsTypes`, `Query.listsTypes` : where the text of a query for relations lists the codes;
* `plan_wellBound` : the texts and parameters of a plan.
-/

namespace CatalogFinder

/-! ## Values behind placeholders -/

namespace Request

/-- A list of codes is made of the codes, quotes, commas and blanks. -/
theorem mem_codeList {codes : List Char} {x : Char} (h : x ∈ (codeList codes).toList) :
    x ∈ codes ∨ x ∈ ['\'', ',', ' '] := by
  induction codes with
  | nil => cases h
  | cons code codes ih =>
    have hquoted : ∀ y ∈ (String.ofList ['\'', code, '\'']).toList, y ∈ code :: codes ∨ y ∈ ['\'', ',', ' '] := by
      intro y hy
      rw [String.toList_ofList] at hy
      rcases List.mem_cons.1 hy with rfl | hy
      · exact .inr List.mem_cons_self
      · rcases List.mem_cons.1 hy with rfl | hy
        · exact .inl List.mem_cons_self
        · exact .inr (List.mem_cons.2 (.inl (List.mem_singleton.1 hy)))
    cases codes with
    | nil => exact hquoted x (by simpa [codeList] using h)
    | cons next codes =>
      unfold codeList at h ih
      rw [List.map_cons, List.map_cons, String.intercalate_cons_cons, String.toList_append, String.toList_append,
        List.mem_append, List.mem_append] at h
      rcases h with (hx | hx) | hx
      · exact hquoted x hx
      · exact .inr (List.mem_cons_of_mem _ hx)
      · exact (ih hx).imp_left (List.mem_cons_of_mem _)

/-- Codes are letters, so that the list of them is read as what it is. -/
theorem notMem_codeList {categories : List Category} {x : Char} (hx : TypeCodes.isCode x = false)
    (hlist : x ∉ ['\'', ',', ' ']) : x ∉ (codeList (TypeCodes.standard.codesForAll categories)).toList := by
  intro h
  rcases mem_codeList h with hcode | hother
  · have hletters : TypeCodes.standard.assigned.all fun e => TypeCodes.isCode e.1 := by decide
    obtain ⟨c, -, hc⟩ := List.mem_flatMap.1 (TypeCodes.mem_dropRepeats.1 hcode)
    rw [List.all_eq_true.1 hletters _ (TypeCodes.mem_codesFor.1 hc)] at hx
    cases hx
  · exact hlist hother

section Steps
variable {scope : Option String} {mask : String} {s : Statement}

/-- A column can be compared with the mask in front of a list of codes. -/
theorem isBound_masked (hs : s.IsBound (searched scope mask)) (categories : List Category) {sql front back : String}
    (hsql : sql = front ++ Comparison.like.placeholder ++ back) (hfront : '?' ∉ front.toList)
    (hback : '?' ∉ back.toList) :
    ((s.push (sql ++ codeList (TypeCodes.standard.codesForAll categories) ++ ")")).bind mask).IsBound
      (searched scope mask) := by
  have hcodes : '?' ∉ (codeList (TypeCodes.standard.codesForAll categories)).toList := notMem_codeList rfl (by decide)
  have hlist : '?' ∉ (back ++ codeList (TypeCodes.standard.codesForAll categories) ++ ")").toList :=
    notMem_append (notMem_append hback hcodes) (notMem_ofList rfl (by decide))
  have hsplit : sql ++ codeList (TypeCodes.standard.codesForAll categories) ++ ")" =
      front ++ Comparison.like.placeholder ++ (back ++ codeList (TypeCodes.standard.codesForAll categories) ++ ")") := by
    simp only [hsql, String.append_assoc]
  exact hs.push_bind rfl hsplit hfront hlist

theorem isBound_pushDefinitions (hs : s.IsBound (searched scope mask)) (categories : List Category) :
    (pushDefinitions scope mask (TypeCodes.standard.codesForAll categories) s).IsBound (searched scope mask) := by
  have htext : "WHERE v.TEXT LIKE ? AND t.TYPE IN (" =
      "WHERE v.TEXT " ++ Comparison.like.placeholder ++ " AND t.TYPE IN (" := rfl
  have hschema : " AND t.TABSCHEMA = ?" = " AND t.TABSCHEMA " ++ Comparison.equals.placeholder ++ "" := rfl
  refine .pushScope (isBound_masked (.push hs (notMem_append ?_ ?_)) categories htext ?_ ?_) rfl hschema ?_
    (notMem_ofList rfl List.not_mem_nil)
  all_goals exact notMem_ofList rfl (by decide)

theorem isBound_relationsStatement (categories : List Category) (definitions : Bool) :
    (relationsStatement scope mask (TypeCodes.standard.codesForAll categories) definitions).IsBound
      (searched scope mask) := by
  have hschema : "TABSCHEMA = ? AND " = "TABSCHEMA " ++ Comparison.equals.placeholder ++ " AND " := rfl
  have hname : "TABNAME LIKE ? AND TYPE IN (" =
      "TABNAME " ++ Comparison.like.placeholder ++ " AND TYPE IN (" := rfl
  cases definitions with
  | false =>
    refine .push (isBound_masked (.pushScope (.of_notMem ?_) rfl hschema ?_ ?_) categories hname ?_ ?_) ?_
    all_goals exact notMem_ofList rfl (by decide)
  | true =>
    refine .push (isBound_pushDefinitions
      (isBound_masked (.pushScope (.of_notMem ?_) rfl hschema ?_ ?_) categories hname ?_ ?_) categories) ?_
    all_goals exact notMem_ofList rfl (by decide)

theorem isBound_columnsStatement : (columnsStatement scope mask).IsBound (searched scope mask) := by
  have hschema : "TABSCHEMA = ? AND " = "TABSCHEMA " ++ Comparison.equals.placeholder ++ " AND " := rfl
  have hname : "COLNAME LIKE ?\nORDER BY TABSCHEMA, TABNAME, COLNO" =
      "COLNAME " ++ Comparison.like.placeholder ++ "\nORDER BY TABSCHEMA, TABNAME, COLNO" := rfl
  refine .push_bind (.pushScope (.of_notMem ?_) rfl hschema ?_ ?_) (c := .like) rfl hname ?_ ?_
  all_goals exact notMem_ofList rfl (by decide)

/-- Where texts are searched too, both placeholders are written before the first of the masks is bound. -/
theorem isBound_routinesStatement (definitions : Bool) :
    (routinesStatement scope mask definitions).IsBound (searched scope mask) := by
  have hschema : "ROUTINESCHEMA = ? AND " = "ROUTINESCHEMA " ++ Comparison.equals.placeholder ++ " AND " := rfl
  have hname : "ROUTINENAME LIKE ?" = "ROUTINENAME " ++ Comparison.like.placeholder ++ "" := rfl
  have htext : "(TEXT LIKE ?" = "(TEXT " ++ Comparison.like.placeholder ++ "" := rfl
  have hor : " OR ROUTINENAME LIKE ?)" = " OR ROUTINENAME " ++ Comparison.like.placeholder ++ ")" := rfl
  have heither : "(TEXT LIKE ? OR ROUTINENAME LIKE ?)" = "(TEXT LIKE ?" ++ " OR ROUTINENAME LIKE ?)" := rfl
  cases definitions with
  | false =>
    refine .push (.push_bind (.pushScope (.of_notMem ?_) rfl hschema ?_ ?_) (c := .like) rfl hname ?_
      (notMem_ofList rfl List.not_mem_nil)) ?_
    all_goals exact notMem_ofList rfl (by decide)
  | true =>
    simp only [routinesStatement, if_true]
    rw [heither, ← Statement.push_bind_push]
    refine .push (.push_bind (.push_bind (.pushScope (.of_notMem ?_) rfl hschema ?_ ?_) (c := .like) rfl htext ?_
      (notMem_ofList rfl List.not_mem_nil)) (c := .like) rfl hor ?_ ?_) ?_
    all_goals exact notMem_ofList rfl (by decide)

end Steps

end Request

/-- The placeholders of a planned query stand in front of the values that they are compared with. -/
theorem Group.isBound_request (p : Params) (scope : Option String) (g : Group) :
    (g.request p scope).statement.IsBound (searched scope p.effectiveMask) := by
  cases g with
  | tableLike => exact Request.isBound_relationsStatement p.categories p.inDefinitions
  | columns => exact Request.isBound_columnsStatement
  | routines => exact Request.isBound_routinesStatement p.inDefinitions

/-! ## Texts that do not tell what they are bound to -/

/-- The text of a planned query is the same for other masks, and in other schemas to search in. -/
theorem Group.sql_request (p p' : Params) (hcategories : p'.categories = p.categories)
    (hdefinitions : p'.inDefinitions = p.inDefinitions) {scope scope' : Option String}
    (h : scope'.isSome = scope.isSome) (g : Group) :
    (g.request p' scope').statement.sql = (g.request p scope).statement.sql := by
  cases g with
  | tableLike =>
    show (Request.relationsStatement scope' _ _ p'.inDefinitions).sql = (Request.relationsStatement scope _ _ _).sql
    simp only [Request.relationsStatement, hcategories, hdefinitions]
    cases p.inDefinitions <;> simp [Request.pushDefinitions, h]
  | columns =>
    show (Request.columnsStatement scope' _).sql = (Request.columnsStatement scope _).sql
    simp [Request.columnsStatement, h]
  | routines =>
    show (Request.routinesStatement scope' _ p'.inDefinitions).sql = (Request.routinesStatement scope _ _).sql
    simp only [Request.routinesStatement, hdefinitions]
    cases p.inDefinitions <;> simp [h]

/-! ## The codes of the wanted categories -/

/-- The text of a query consists of so many selections, joined by `UNION`. Each has one pair of parentheses, and in it
lists the codes for the column `TYPE`. -/
def Query.ListsTypes (q : Query) (codes : List Char) (selections : Nat) : Prop :=
  ∃ arms : List String, arms.length = selections ∧
    q.sql = q.dialect.finish ("\nUNION\n".intercalate arms ++ "\nORDER BY 1, 2") ∧
    ∀ arm ∈ arms, ∃ before after, arm = before ++ "TYPE IN (" ++ Request.codeList codes ++ ")" ++ after ∧
      '(' ∉ before.toList ∧ '(' ∉ after.toList

namespace Request

/-- The selection of the relations whose name matches, up to the list of codes. -/
def namesFront (inSchema : Bool) : String :=
  "SELECT TABSCHEMA, TABNAME, TYPE\nFROM SYSCAT.TABLES\nWHERE " ++ (if inSchema then "TABSCHEMA = ? AND " else "") ++
    "TABNAME LIKE ? AND "

/-- The selection of the relations whose view text matches, up to the list of codes. -/
def textsFront : String :=
  "SELECT t.TABSCHEMA, t.TABNAME, t.TYPE\nFROM SYSIBM.SYSVIEWS v\n" ++
    "INNER JOIN SYSCAT.TABLES t ON v.CREATOR = t.TABSCHEMA AND v.NAME = t.TABNAME\n" ++ "WHERE v.TEXT LIKE ? AND t."

/-- What is behind the list of codes there. -/
def textsTail (inSchema : Bool) : String := if inSchema then " AND t.TABSCHEMA = ?" else ""

theorem sql_matchingRelations (scope : Option String) (mask : String) (codes : List Char) (definitions : Bool) :
    (matchingRelations scope mask codes definitions).statement.sql =
      "\nUNION\n".intercalate
        ((namesFront scope.isSome ++ "TYPE IN (" ++ codeList codes ++ ")" ++ "") ::
          if definitions then [textsFront ++ "TYPE IN (" ++ codeList codes ++ ")" ++ textsTail scope.isSome]
          else []) ++ "\nORDER BY 1, 2" := by
  -- the text is written in other parts than the selections
  have hname : "TABNAME LIKE ? AND TYPE IN (" = "TABNAME LIKE ? AND " ++ "TYPE IN (" := rfl
  have htext : "WHERE v.TEXT LIKE ? AND t.TYPE IN (" = "WHERE v.TEXT LIKE ? AND t." ++ "TYPE IN (" := rfl
  have hunion : "\nUNION\nSELECT t.TABSCHEMA, t.TABNAME, t.TYPE\nFROM SYSIBM.SYSVIEWS v\n" =
      "\nUNION\n" ++ "SELECT t.TABSCHEMA, t.TABNAME, t.TYPE\nFROM SYSIBM.SYSVIEWS v\n" := rfl
  show (relationsStatement scope mask codes definitions).sql = _
  unfold namesFront textsFront textsTail
  cases definitions with
  | false =>
    simp only [-String.reduceAppend, relationsStatement, Statement.sql_push, Statement.sql_bind,
      Statement.sql_pushScope, hname, Bool.false_eq_true, if_false, String.intercalate_singleton, String.append_empty,
      String.append_assoc]
  | true =>
    simp only [-String.reduceAppend, relationsStatement, pushDefinitions, Statement.sql_push,
      Statement.sql_bind, Statement.sql_pushScope, hname, htext, hunion, if_true, String.intercalate_cons_cons,
      String.intercalate_singleton, String.append_empty, String.append_assoc]

theorem paren_notMem_namesFront (inSchema : Bool) : '(' ∉ (namesFront inSchema).toList := by
  refine notMem_append (notMem_append (notMem_ofList rfl (by decide)) ?_) (notMem_ofList rfl (by decide))
  cases inSchema with
  | false => exact notMem_ofList rfl List.not_mem_nil
  | true => exact notMem_ofList rfl (by decide)

theorem paren_notMem_textsFront : '(' ∉ textsFront.toList :=
  notMem_append (notMem_append (notMem_ofList rfl (by decide)) (notMem_ofList rfl (by decide)))
    (notMem_ofList rfl (by decide))

theorem paren_notMem_textsTail (inSchema : Bool) : '(' ∉ (textsTail inSchema).toList := by
  cases inSchema with
  | false => exact notMem_ofList rfl List.not_mem_nil
  | true => exact notMem_ofList rfl (by decide)

end Request

/-- A query for relations selects them by name, and by text too where texts are searched. -/
theorem Query.listsTypes {q : Query} {scope : Option String} {mask : String} {codes : List Char} {definitions : Bool}
    (h : q.request = .matchingRelations scope mask codes definitions) :
    q.ListsTypes codes (if definitions then 2 else 1) := by
  refine ⟨_, ?_, by rw [sql, h, Request.sql_matchingRelations], ?_⟩
  · cases definitions <;> rfl
  · intro arm harm
    rcases List.mem_cons.1 harm with rfl | harm
    · exact ⟨_, "", rfl, Request.paren_notMem_namesFront scope.isSome, notMem_ofList rfl List.not_mem_nil⟩
    · cases definitions with
      | false => cases harm
      | true =>
        obtain rfl := List.mem_singleton.1 harm
        exact ⟨_, _, rfl, Request.paren_notMem_textsFront, Request.paren_notMem_textsTail scope.isSome⟩

/-! ## Plans -/

section Plans
variable {p : Params}

theorem Params.mem_categories {c : Category} :
    c ∈ p.categories ↔ ∃ type ∈ p.objectTypes, type.category? = some c := by
  unfold categories
  rw [List.mem_filter, List.any_eq_true]
  constructor
  · rintro ⟨-, type, htype, hc⟩
    exact ⟨type, htype, by simpa using hc⟩
  · rintro ⟨type, htype, hc⟩
    exact ⟨c.mem_all, type, htype, by simpa using hc⟩

theorem Params.nodup_categories : p.categories.Nodup := List.Nodup.filter _ (by decide)

/-- The codes that relations of the wanted categories are stored under. -/
theorem Params.mem_codes {code : Char} : code ∈ TypeCodes.standard.codesForAll p.categories ↔
    ∃ type ∈ p.objectTypes, ∃ c, type.category? = some c ∧ c.isTableLike = true ∧
      code ∈ TypeCodes.standard.codesFor c := by
  rw [TypeCodes.codesForAll, TypeCodes.mem_dropRepeats, List.mem_flatMap]
  constructor
  · rintro ⟨c, hc, hcode⟩
    obtain ⟨type, htype, hcategory⟩ := Params.mem_categories.1 hc
    exact ⟨type, htype, c, hcategory, TypeCodes.isTableLike_of_assigned (TypeCodes.mem_codesFor.1 hcode), hcode⟩
  · rintro ⟨type, htype, c, hcategory, -, hcode⟩
    exact ⟨c, Params.mem_categories.2 ⟨type, htype, hcategory⟩, hcode⟩

/-- Where relations are searched, there are codes to search for. -/
theorem Params.codes_ne_nil (h : Group.tableLike ∈ p.groups) : TypeCodes.standard.codesForAll p.categories ≠ [] := by
  obtain ⟨c, hc, hgroup⟩ := mem_groups.1 h
  have htableLike : c.isTableLike = true := by
    cases c with
    | column => cases hgroup
    | routine => cases hgroup
    | _ => rfl
  obtain ⟨code, hcode⟩ := List.exists_mem_of_ne_nil _ (TypeCodes.codesFor_standard_ne_nil htableLike)
  have hmem : code ∈ TypeCodes.standard.codesForAll p.categories :=
    TypeCodes.mem_dropRepeats.2 (List.mem_flatMap.2 ⟨c, hc, hcode⟩)
  exact List.ne_nil_of_mem hmem

theorem isSome_scopeWithin {scope' defaultSchema defaultSchema' : Option String} {mask' : String}
    (hscope : scope'.isSome = p.scope.isSome) (hdefault : defaultSchema'.isSome = defaultSchema.isSome) :
    ({ p with mask := mask', scope := scope' }.scopeWithin defaultSchema').isSome =
      (p.scopeWithin defaultSchema).isSome := by
  unfold Params.scopeWithin
  cases hp : p.scope with
  | some schema =>
    obtain ⟨schema', rfl⟩ := Option.isSome_iff_exists.1 (hscope.trans (by rw [hp]; rfl))
    rfl
  | none =>
    obtain rfl : scope' = none := by simpa [hp] using hscope
    cases p.globalSearch with
    | true => rfl
    | false => exact hdefault

/-- Plans for other masks, in other schemas, have the same groups with the same texts. -/
theorem texts_plan (dialect : Dialect) (fetchSize : UInt32) {scope' defaultSchema defaultSchema' : Option String}
    (mask' : String) (hscope : scope'.isSome = p.scope.isSome)
    (hdefault : defaultSchema'.isSome = defaultSchema.isSome) :
    (Params.plan { p with mask := mask', scope := scope' } dialect defaultSchema' fetchSize).map
        (fun e => (e.1, e.2.sql)) =
      (p.plan dialect defaultSchema fetchSize).map fun e => (e.1, e.2.sql) := by
  have hsql : ∀ g : Group, (g.request { p with mask := mask', scope := scope' }
      ({ p with mask := mask', scope := scope' }.scopeWithin defaultSchema')).statement.sql =
        (g.request p (p.scopeWithin defaultSchema)).statement.sql :=
    Group.sql_request p { p with mask := mask', scope := scope' } rfl rfl (isSome_scopeWithin hscope hdefault)
  unfold Params.plan
  rw [List.map_map, List.map_map]
  refine List.map_congr_left fun g _ => ?_
  simp only [Function.comp_apply, Query.sql, hsql]

end Plans

/-- **What a caller looks for is bound, and never becomes part of a text.** Each placeholder of a planned query stands
for the schema to search in or for the mask, as the operator in front of it says, and the text is the same for any
other. A query for relations lists the codes of the wanted categories, each once and no others, in each selection. -/
theorem plan_wellBound (dialect : Dialect) (defaultSchema : Option String) (fetchSize : UInt32) (p : Params)
    (hp : p.validate = .ok ()) :
    ∃ planned, plan dialect defaultSchema fetchSize p = .ok planned ∧
      (∀ e ∈ planned, e.2.WellBound (p.scopeWithin defaultSchema) p.effectiveMask) ∧
      (∀ mask' scope' defaultSchema', { p with mask := mask', scope := scope' }.validate = .ok () →
        scope'.isSome = p.scope.isSome → defaultSchema'.isSome = defaultSchema.isSome →
        ∃ planned', plan dialect defaultSchema' fetchSize { p with mask := mask', scope := scope' } = .ok planned' ∧
          planned'.map (fun e => (e.1, e.2.sql)) = planned.map fun e => (e.1, e.2.sql)) ∧
      ∀ q, (.tableLike, q) ∈ planned → ∃ codes, codes ≠ [] ∧ codes.Nodup ∧
        (∀ code, code ∈ codes ↔ ∃ type ∈ p.objectTypes, ∃ c, type.category? = some c ∧ c.isTableLike = true ∧
          code ∈ TypeCodes.standard.codesFor c) ∧
        q.ListsTypes codes (if p.inDefinitions then 2 else 1) := by
  refine ⟨p.plan dialect defaultSchema fetchSize, by rw [plan, hp]; rfl, ?_, ?_, ?_⟩
  · intro e he
    obtain ⟨g, -, rfl⟩ := List.mem_map.1 he
    exact (Query.binds _ (g.isBound_request p (p.scopeWithin defaultSchema))).wellBound
  · intro mask' scope' defaultSchema' hp' hscope hdefault
    refine ⟨_, by rw [plan, hp']; rfl, texts_plan dialect fetchSize mask' hscope hdefault⟩
  · intro q hq
    obtain ⟨g, hg, hgroup⟩ := List.mem_map.1 hq
    obtain ⟨rfl, rfl⟩ := Prod.mk.inj hgroup
    exact ⟨_, Params.codes_ne_nil hg, TypeCodes.nodup_codesForAll TypeCodes.nodup_standard Params.nodup_categories,
      fun code => Params.mem_codes, Query.listsTypes rfl⟩

/-- A search whose mask and scope are written like parts of a statement, and that asks for views twice. -/
def quotedSearch : Params where
  mask := "x' OR ? = '"
  caseSensitive := true
  objectTypes := [.category .view, .procedure, .category .nickname, .category .view]
  scope := some "S'); -- LIKE ?"
  inDefinitions := true

theorem plan_quoted_wellBound :
    quotedSearch.validate = .ok () ∧ ∃ planned, plan .db2 (some "D") 10 quotedSearch = .ok planned ∧
      (∀ e ∈ planned, e.2.WellBound (some "S'); -- LIKE ?") "x' OR ? = '%") ∧
      ({ quotedSearch with mask := "T", scope := some "R" }.validate = .ok () ∧
        ∃ planned', plan .db2 (some "?") 10 { quotedSearch with mask := "T", scope := some "R" } = .ok planned' ∧
          planned'.map (fun e => (e.1, e.2.sql)) = planned.map fun e => (e.1, e.2.sql)) ∧
      ∃ q, (.tableLike, q) ∈ planned ∧
        q.parameters = ["S'); -- LIKE ?", "x' OR ? = '%", "x' OR ? = '%", "S'); -- LIKE ?"] ∧
        ∃ codes, codes ≠ [] ∧ codes.Nodup ∧ ('V' ∈ codes ∧ 'N' ∈ codes ∧ 'T' ∉ codes) ∧ q.ListsTypes codes 2 := by
  obtain ⟨planned, hplanned, hbound, htexts, hlists⟩ := plan_wellBound .db2 (some "D") 10 quotedSearch rfl
  obtain rfl : planned = quotedSearch.plan .db2 (some "D") 10 := (Except.ok.inj hplanned).symm
  have htableLike : (.tableLike, ⟨Group.tableLike.request quotedSearch quotedSearch.scope, .db2, 10⟩) ∈
      quotedSearch.plan .db2 (some "D") 10 := List.mem_map.2 ⟨.tableLike, by decide, rfl⟩
  obtain ⟨codes, hne, hnodup, hcodes, harms⟩ := hlists _ htableLike
  have hview : 'V' ∈ codes := (hcodes 'V').2 ⟨.category .view, by decide, .view, rfl, rfl, by decide⟩
  have hnickname : 'N' ∈ codes := (hcodes 'N').2 ⟨.category .nickname, by decide, .nickname, rfl, rfl, by decide⟩
  have htable : 'T' ∉ codes := by
    intro h
    obtain ⟨type, htype, c, hc, -, hcode⟩ := (hcodes 'T').1 h
    have hnone : ∀ type ∈ quotedSearch.objectTypes, ∀ c ∈ type.category?, 'T' ∉ TypeCodes.standard.codesFor c := by
      decide
    exact hnone type htype c hc hcode
  have hmask : quotedSearch.effectiveMask = "x' OR ? = '%" := by decide +kernel
  rw [hmask] at hbound
  exact ⟨rfl, _, hplanned, hbound, ⟨rfl, htexts "T" (some "R") (some "?") rfl rfl rfl⟩, _, htableLike,
    by decide +kernel, codes, hne, hnodup, ⟨hview, hnickname, htable⟩, harms⟩

end CatalogFinder
