import CatalogFinder.Session.Request

/-!
# Placeholders and what is bound to them

A text with placeholders and a list of parameters belong together if there are as many of the one as of the other, and
if each parameter is what its placeholder is compared with: the operator in front of the placeholder tells which value
that has to be.

* `Comparison` : the operators that a placeholder can follow;
* `Binds` : a text and its parameters belong together, and so they do when both go on (`Binds.append`);
* `Statement.IsBound` : those of a statement do, with one lemma for each way in which it is written on;
* `Query.WellBound` : those of a query do, for the values that a search compares with.
-/

namespace CatalogFinder

/-- How a column is compared with a bound value. -/
inductive Comparison where
  | equals
  | like
  deriving DecidableEq, Repr

/-- The comparison with a placeholder. -/
def Comparison.placeholder : Comparison → String
  | equals => "= ?"
  | like => "LIKE ?"

/-- What stands in front of the placeholder. -/
def Comparison.lead : Comparison → List Char
  | equals => "= ".toList
  | like => "LIKE ".toList

namespace Comparison

theorem toList_placeholder (c : Comparison) : c.placeholder.toList = c.lead ++ ['?'] := by cases c <;> rfl

theorem notMem_lead (c : Comparison) : '?' ∉ c.lead := by cases c <;> decide

/-- No text ends in both operators. -/
theorem eq_of_lead {c c' : Comparison} {before : List Char} (h : c.lead <:+ before) (h' : c'.lead <:+ before) :
    c = c' := by
  have hneither : ¬ equals.lead <:+ like.lead := by decide
  cases c with
  | equals =>
    cases c' with
    | equals => rfl
    | like => exact absurd (List.suffix_of_suffix_length_le h h' (by decide)) hneither
  | like =>
    cases c' with
    | equals => exact absurd (List.suffix_of_suffix_length_le h' h (by decide)) hneither
    | like => rfl

end Comparison

/-! ## Texts -/

/-- A text has as many placeholders as there are parameters, and the parameter at the place of each is the value of the
comparison in front of it. -/
structure Binds (operand : Comparison → Option String) (text : List Char) (parameters : List String) : Prop where
  count : text.count '?' = parameters.length
  bound : ∀ before after, text = before ++ '?' :: after →
    ∃ c value, c.lead <:+ before ∧ operand c = some value ∧ parameters[before.count '?']? = some value

/-- A placeholder of two texts in a row stands in the first of them or in the second. -/
theorem split_append {text more before after : List Char} (h : text ++ more = before ++ '?' :: after) :
    (∃ rest, text = before ++ '?' :: rest) ∨ ∃ between, before = text ++ between ∧ more = between ++ '?' :: after := by
  rcases List.append_eq_append_iff.1 h with hsecond | ⟨behind, rfl, hbehind⟩
  · exact .inr hsecond
  · cases behind with
    | nil => exact .inr ⟨[], by simp, by simpa using hbehind.symm⟩
    | cons a behind =>
      obtain ⟨rfl, -⟩ := List.cons.inj hbehind
      exact .inl ⟨behind, rfl⟩

namespace Binds
variable {operand : Comparison → Option String} {text more : List Char} {parameters values : List String}

theorem of_notMem (h : '?' ∉ text) : Binds operand text [] := by
  constructor
  case count => exact List.count_eq_zero.2 h
  case bound =>
    intro before after htext
    exact absurd (htext ▸ List.mem_append_right _ List.mem_cons_self) h

/-- A comparison belongs together with its value. -/
theorem of_comparison {c : Comparison} {value : String} (hvalue : operand c = some value) :
    Binds operand c.placeholder.toList [value] := by
  have hlead : c.lead.count '?' = 0 := List.count_eq_zero.2 c.notMem_lead
  rw [c.toList_placeholder]
  constructor
  case count => rw [List.count_append, hlead]; rfl
  case bound =>
    intro before after hsplit
    rcases split_append hsplit with ⟨rest, hrest⟩ | ⟨between, rfl, hbetween⟩
    · exact absurd (hrest ▸ List.mem_append_right _ List.mem_cons_self) c.notMem_lead
    · obtain rfl : between = [] := by
        cases between with
        | nil => rfl
        | cons a between => simp at hbetween
      rw [List.append_nil]
      exact ⟨c, value, List.suffix_rfl, hvalue, by rw [hlead]; rfl⟩

/-- **What belongs together still does when both sides go on.** -/
theorem append (h : Binds operand text parameters) (hmore : Binds operand more values) :
    Binds operand (text ++ more) (parameters ++ values) := by
  constructor
  case count => rw [List.count_append, List.length_append, h.count, hmore.count]
  case bound =>
    intro before after hsplit
    rcases split_append hsplit with ⟨rest, hrest⟩ | ⟨between, rfl, hbetween⟩
    · obtain ⟨c, value, hlead, hvalue, hparameter⟩ := h.bound before rest hrest
      refine ⟨c, value, hlead, hvalue, ?_⟩
      obtain ⟨hlt, -⟩ := List.getElem?_eq_some_iff.1 hparameter
      rwa [List.getElem?_append_left hlt]
    · obtain ⟨c, value, hlead, hvalue, hparameter⟩ := hmore.bound between after hbetween
      refine ⟨c, value, hlead.trans (List.suffix_append _ _), hvalue, ?_⟩
      rwa [List.count_append, h.count, List.getElem?_append_right (Nat.le_add_right _ _), Nat.add_sub_cancel_left]

end Binds

/-! ## Statements -/

/-- What is not among the characters that a text is written with is not in the text. -/
theorem notMem_ofList {x : Char} {s : String} {cs : List Char} (hs : s = String.ofList cs) (h : x ∉ cs) :
    x ∉ s.toList := by
  rw [hs, String.toList_ofList]
  exact h

theorem notMem_append {x : Char} {s t : String} (hs : x ∉ s.toList) (ht : x ∉ t.toList) : x ∉ (s ++ t).toList := by
  rw [String.toList_append]
  exact fun h => (List.mem_append.1 h).elim hs ht

namespace Statement
variable {operand : Comparison → Option String} {s : Statement} {scope : Option String} {c : Comparison}
  {front back value : String}

@[simp] theorem sql_push (s : Statement) (sql : String) : (s.push sql).sql = s.sql ++ sql := rfl

@[simp] theorem sql_bind (s : Statement) (value : String) : (s.bind value).sql = s.sql := rfl

@[simp] theorem sql_pushScope (s : Statement) (condition : String) (scope : Option String) :
    (s.pushScope condition scope).sql = s.sql ++ if scope.isSome then condition else "" := by
  cases scope with
  | none => exact String.append_empty.symm
  | some schema => rfl

/-- The text of a statement and its parameters belong together. -/
def IsBound (operand : Comparison → Option String) (s : Statement) : Prop :=
  Binds operand s.sql.toList s.parameters

theorem IsBound.of_notMem {sql : String} (h : '?' ∉ sql.toList) : IsBound operand { sql } := Binds.of_notMem h

theorem IsBound.push (hs : s.IsBound operand) {sql : String} (h : '?' ∉ sql.toList) :
    (s.push sql).IsBound operand := by
  have happend : Binds operand (s.sql.toList ++ sql.toList) (s.parameters ++ []) := hs.append (.of_notMem h)
  unfold IsBound Statement.push
  rwa [String.toList_append, ← List.append_nil s.parameters]

/-- Text that is written behind a placeholder may come before or after the value is bound. -/
theorem push_bind_push (s : Statement) (sql more value : String) :
    ((s.push sql).bind value).push more = (s.push (sql ++ more)).bind value := by
  simp only [push, bind, String.append_assoc]

/-- A comparison and the value that is bound next belong together. -/
theorem IsBound.push_bind (hs : s.IsBound operand) (hvalue : operand c = some value) {sql : String}
    (hsql : sql = front ++ c.placeholder ++ back) (hfront : '?' ∉ front.toList) (hback : '?' ∉ back.toList) :
    ((s.push sql).bind value).IsBound operand := by
  have hpushed : Binds operand (s.sql.toList ++ (front.toList ++ c.placeholder.toList ++ back.toList))
      (s.parameters ++ ([] ++ [value] ++ [])) :=
    hs.append (((Binds.of_notMem hfront).append (.of_comparison hvalue)).append (.of_notMem hback))
  unfold IsBound Statement.push Statement.bind
  simpa only [hsql, String.toList_append, List.nil_append, List.append_nil] using hpushed

theorem IsBound.pushScope (hs : s.IsBound operand) (hscope : operand .equals = scope) {condition : String}
    (hcondition : condition = front ++ Comparison.equals.placeholder ++ back) (hfront : '?' ∉ front.toList)
    (hback : '?' ∉ back.toList) : (s.pushScope condition scope).IsBound operand := by
  cases scope with
  | none => exact hs
  | some schema => exact hs.push_bind hscope hcondition hfront hback

end Statement

/-- The last clause of a statement has no placeholders. -/
theorem Dialect.exists_tail (d : Dialect) :
    ∃ tail, '?' ∉ tail ∧ ∀ sql, (d.finish sql).toList = sql.toList ++ tail := by
  cases d with
  | db2 =>
    refine ⟨"\nWITH UR".toList, by decide, fun sql => ?_⟩
    simp only [finish, readIsolation?, String.toList_append, List.append_assoc]
    rfl
  | sqlite => exact ⟨[], List.not_mem_nil, fun sql => (List.append_nil _).symm⟩

theorem Query.binds (q : Query) {operand : Comparison → Option String} (h : q.request.statement.IsBound operand) :
    Binds operand q.sql.toList q.parameters := by
  obtain ⟨tail, htail, hfinish⟩ := q.dialect.exists_tail
  rw [sql, hfinish, ← List.append_nil q.parameters]
  exact h.append (.of_notMem htail)

/-! ## What a search compares with -/

/-- A schema is compared for equality, and a name or a text with a mask. -/
def searched (scope : Option String) (mask : String) : Comparison → Option String
  | .equals => scope
  | .like => some mask

/-- A query has as many placeholders as parameters. Each placeholder follows one of the two operators; the parameter at
its place is the schema to search in where that is `=`, and the mask where it is `LIKE`. -/
structure Query.WellBound (q : Query) (scope : Option String) (mask : String) : Prop where
  count : q.sql.toList.count '?' = q.parameters.length
  either : ∀ before after, q.sql.toList = before ++ '?' :: after →
    ("= ".toList <:+ before ↔ ¬ "LIKE ".toList <:+ before)
  equals : ∀ before after, q.sql.toList = before ++ '?' :: after → "= ".toList <:+ before →
    ∃ schema, scope = some schema ∧ q.parameters[before.count '?']? = some schema
  like : ∀ before after, q.sql.toList = before ++ '?' :: after → "LIKE ".toList <:+ before →
    q.parameters[before.count '?']? = some mask

theorem Binds.wellBound {q : Query} {scope : Option String} {mask : String}
    (h : Binds (searched scope mask) q.sql.toList q.parameters) : q.WellBound scope mask := by
  constructor
  case count => exact h.count
  case either =>
    intro before after hsplit
    obtain ⟨c, value, hlead, -, -⟩ := h.bound before after hsplit
    constructor
    · intro hequals hlike
      have heq : Comparison.equals = .like := Comparison.eq_of_lead hequals hlike
      cases heq
    · intro hlike
      cases c with
      | equals => exact hlead
      | like => exact absurd hlead hlike
  case equals =>
    intro before after hsplit hequals
    obtain ⟨c, schema, hlead, hschema, hparameter⟩ := h.bound before after hsplit
    obtain rfl : c = .equals := Comparison.eq_of_lead hlead hequals
    exact ⟨schema, hschema, hparameter⟩
  case like =>
    intro before after hsplit hlike
    obtain ⟨c, value, hlead, hvalue, hparameter⟩ := h.bound before after hsplit
    obtain rfl : c = .like := Comparison.eq_of_lead hlead hlike
    rw [hparameter, ← hvalue]
    rfl

end CatalogFinder
