import CatalogFinder.Settings.Basic
import Mathlib.Data.List.TakeWhile

/-!
# How variables are written

A text is written by spellings, one after the other: characters, variables with and without braces, and dollar signs
that stand alone. A variable without braces and a lone dollar sign end where they do only if what stands behind does
not go on with them. A text that is not spelled to its end is spelled to a brace that is not closed.

* `Spelling` : the ways to write a token, `Spelling.image` : what takes its place;
* `Spells` : how a text begins, and the rest of it;
* `Spells.ofChars` : the tokens of a text are those that are spelled;
* `exists_spells` : every text is spelled to its end, or to an open brace;
* `expandPath_spelled` : what becomes of a text that is spelled to its end.
-/

namespace CatalogFinder

/-- All of the variables are set. -/
def Environment.Sets (env : Environment) (names : List String) : Prop :=
  ∀ name ∈ names, (env.value? name).isSome = true

instance (env : Environment) (names : List String) : Decidable (env.Sets names) :=
  inferInstanceAs (Decidable (∀ name ∈ names, (env.value? name).isSome = true))

/-- A way to write a token. -/
inductive Spelling where
  | plain (c : Char)
  | braced (name : String)
  | bare (name : String)
  | dollar
  deriving DecidableEq, Repr

namespace Spelling

def chars : Spelling → List Char
  | plain c => [c]
  | braced name => '$' :: '{' :: (name.toList ++ ['}'])
  | bare name => '$' :: name.toList
  | dollar => ['$']

/-- It is written as it should be, and ends where it does if this stands behind it. -/
def StandsBefore (rest : List Char) : Spelling → Prop
  | plain c => c ≠ '$'
  | braced name => '}' ∉ name.toList
  | bare name => name ≠ "" ∧ (∀ c ∈ name.toList, Token.isNameChar c = true) ∧
      ∀ c ∈ rest.head?, Token.isNameChar c = false
  | dollar => ∀ c ∈ rest.head?, c ≠ '{' ∧ Token.isNameChar c = false

instance (rest : List Char) : (s : Spelling) → Decidable (s.StandsBefore rest)
  | plain c => inferInstanceAs (Decidable (c ≠ '$'))
  | braced name => inferInstanceAs (Decidable ('}' ∉ name.toList))
  | bare name => decidable_of_iff (name ≠ "" ∧ name.toList.all Token.isNameChar = true ∧
      rest.head?.all (!Token.isNameChar ·) = true)
      (by simp [StandsBefore, Option.all_eq_true])
  | dollar => decidable_of_iff (rest.head?.all (fun c => c ≠ '{' && !Token.isNameChar c) = true)
      (by simp [StandsBefore, Option.all_eq_true])

def token : Spelling → Token
  | plain c => .literal c
  | braced name => .reference name
  | bare name => .reference name
  | dollar => .literal '$'

/-- The variable that it names. -/
def name? : Spelling → Option String
  | plain _ => none
  | braced name => some name
  | bare name => some name
  | dollar => none

/-- What takes its place, if its variable is set. -/
def image (env : Environment) : Spelling → String
  | plain c => c.toString
  | braced name => (env.value? name).getD ""
  | bare name => (env.value? name).getD ""
  | dollar => "$"

/-- The variables that are named, in their order. -/
def names (l : List Spelling) : List String := l.filterMap name?

/-- What takes the place of a text, if its variables are set. -/
def images (env : Environment) (l : List Spelling) : String := String.join (l.map (image env))

end Spelling

/-! ## Spelled texts -/

/-- A text begins with some spellings, and the rest stands behind them. -/
inductive Spells : List Spelling → List Char → List Char → Prop
  | nil (rest : List Char) : Spells [] rest rest
  | cons {s : Spelling} {l : List Spelling} {text rest : List Char} :
      s.StandsBefore text → Spells l text rest → Spells (s :: l) (s.chars ++ text) rest

namespace Token

section Stops
variable {p : Char → Bool} {name rest : List Char} (hname : ∀ c ∈ name, p c = true)
  (hrest : ∀ c ∈ rest.head?, p c = false)
include hname hrest

/-- A name ends where something stands that is not part of one. -/
theorem takeWhile_name : (name ++ rest).takeWhile p = name := by
  rw [List.takeWhile_append_of_pos hname]
  cases rest with
  | nil => exact List.append_nil name
  | cons c rest => rw [List.takeWhile_cons_of_neg (by simp [hrest c rfl]), List.append_nil]

theorem dropWhile_name : (name ++ rest).dropWhile p = rest := by
  rw [List.dropWhile_append_of_pos hname]
  cases rest with
  | nil => rfl
  | cons c rest => exact List.dropWhile_cons_of_neg (by simp [hrest c rfl])

end Stops

theorem forall_ne_brace {name : List Char} (h : '}' ∉ name) : ∀ c ∈ name, (c != '}') = true :=
  fun _ hc => bne_iff_ne.2 (ne_of_mem_of_not_mem hc h)

theorem isNameChar_brace : isNameChar '{' = false := by decide +kernel

theorem ofChars_braced {name : List Char} (h : '}' ∉ name) (rest : List Char) :
    ofChars ('$' :: '{' :: (name ++ '}' :: rest)) = reference (String.ofList name) :: ofChars rest := by
  have hname := forall_ne_brace h
  have hclosed : ∀ c ∈ ('}' :: rest).head?, (c != '}') = false := by simp
  rw [ofChars, takeWhile_name hname hclosed, dropWhile_name hname hclosed, List.drop_one, List.tail_cons]

theorem ofChars_bare {name : String} {rest : List Char} (h : (Spelling.bare name).StandsBefore rest) :
    ofChars ('$' :: (name.toList ++ rest)) = reference name :: ofChars rest := by
  obtain ⟨hne, hname, hrest⟩ := h
  obtain ⟨c, cs, hcs⟩ := List.exists_cons_of_ne_nil fun hnil => hne (String.toList_eq_nil_iff.1 hnil)
  have hnobrace : ∀ rest', name.toList ++ rest = '{' :: rest' → False := by
    intro rest' heq
    rw [hcs, List.cons_append, List.cons.injEq] at heq
    have hc : isNameChar c = true := hname c (by simp [hcs])
    rw [heq.1, isNameChar_brace] at hc
    cases hc
  rw [ofChars.eq_3 _ hnobrace, takeWhile_name hname hrest, dropWhile_name hname hrest, hcs]
  show reference (String.ofList (c :: cs)) :: _ = _
  rw [← hcs, String.ofList_toList]

theorem ofChars_dollar {rest : List Char} (h : Spelling.dollar.StandsBefore rest) :
    ofChars ('$' :: rest) = literal '$' :: ofChars rest := by
  have hnobrace : ∀ rest', rest = '{' :: rest' → False := by
    rintro rest' rfl
    exact (h '{' rfl).1 rfl
  have hnone : rest.takeWhile isNameChar = [] := @takeWhile_name isNameChar [] rest (by simp) fun c hc => (h c hc).2
  rw [ofChars.eq_3 _ hnobrace, hnone]

/-- The first token is the one that is spelled. -/
theorem ofChars_append {s : Spelling} {rest : List Char} (h : s.StandsBefore rest) :
    ofChars (s.chars ++ rest) = s.token :: ofChars rest := by
  cases s with
  | plain c =>
    have hc : c = '$' → False := h
    exact ofChars.eq_4 c rest (fun _ hdollar _ => hc hdollar) hc
  | braced name =>
    have hbraced := ofChars_braced h rest
    rw [String.ofList_toList] at hbraced
    show ofChars ('$' :: '{' :: (name.toList ++ ['}'] ++ rest)) = _
    rw [List.append_assoc]
    exact hbraced
  | bare name => exact ofChars_bare h
  | dollar => exact ofChars_dollar h

end Token

/-- The tokens of a text are those that are spelled, and those of the rest. -/
theorem Spells.ofChars {l : List Spelling} {text rest : List Char} (h : Spells l text rest) :
    Token.ofChars text = l.map Spelling.token ++ Token.ofChars rest := by
  induction h with
  | nil => rfl
  | cons hs _ ih => rw [Token.ofChars_append hs, ih, List.map_cons, List.cons_append]

/-! ## Every text is spelled -/

/-- Nothing is left of a text but, maybe, a brace that is not closed. -/
def IsLeft (rest : List Char) : Prop := rest = [] ∨ ∃ name, '}' ∉ name ∧ rest = '$' :: '{' :: name

theorem exists_spells_append {s : Spelling} {text : List Char} (hs : s.StandsBefore text)
    (h : ∃ l rest, Spells l text rest ∧ IsLeft rest) : ∃ l rest, Spells l (s.chars ++ text) rest ∧ IsLeft rest := by
  obtain ⟨l, rest, hl, hrest⟩ := h
  exact ⟨s :: l, rest, .cons hs hl, hrest⟩

/-- Every text is spelled to its end, or to a brace that is not closed. -/
theorem exists_spells (text : List Char) : ∃ l rest, Spells l text rest ∧ IsLeft rest := by
  -- the cases are those of the scanner
  induction text using Token.ofChars.induct with
  | case1 => exact ⟨[], [], .nil [], .inl rfl⟩
  | case2 rest ih =>
    by_cases hclosed : '}' ∈ rest
    · obtain ⟨name, behind, rfl, hname⟩ := List.eq_append_cons_of_mem hclosed
      rw [Token.dropWhile_name (Token.forall_ne_brace hname) (by simp)] at ih
      have hstands : (Spelling.braced (String.ofList name)).StandsBefore behind := by
        show '}' ∉ (String.ofList name).toList
        rwa [String.toList_ofList]
      have h := exists_spells_append hstands ih
      simpa [Spelling.chars] using h
    · exact ⟨[], _, .nil _, .inr ⟨rest, hclosed, rfl⟩⟩
  | case3 rest hnobrace hnone ih =>
    refine exists_spells_append (s := .dollar) ?_ ih
    intro c hc
    obtain ⟨rest, rfl⟩ : ∃ rest', rest = c :: rest' := List.head?_eq_some_iff.1 hc
    constructor
    · rintro rfl
      exact hnobrace rest rfl
    · by_contra hname
      rw [Bool.not_eq_false] at hname
      rw [List.takeWhile_cons_of_pos hname] at hnone
      cases hnone
  | case4 rest hnobrace hsome ih =>
    have hstands : (Spelling.bare (String.ofList (rest.takeWhile Token.isNameChar))).StandsBefore
        (rest.dropWhile Token.isNameChar) := by
      refine ⟨?_, ?_, ?_⟩
      · intro hempty
        rw [← String.toList_eq_nil_iff, String.toList_ofList] at hempty
        exact hsome hempty
      · intro c hc
        rw [String.toList_ofList] at hc
        exact List.mem_takeWhile_imp hc
      · intro c hc
        have hhead := List.head?_dropWhile_not Token.isNameChar rest
        rw [Option.mem_def] at hc
        rw [hc] at hhead
        simpa using hhead
    have h := exists_spells_append hstands ih
    simpa [Spelling.chars] using h
  | case5 c rest _ hc ih => exact exists_spells_append (s := .plain c) hc ih

/-! ## Values -/

section Values
variable {env : Environment} {l : List Spelling}

theorem Spelling.value_token {s : Spelling} (h : ∀ name, s.name? = some name → (env.value? name).isSome = true) :
    s.token.value env = .ok (s.image env) := by
  have hreference : ∀ name, (env.value? name).isSome = true →
      (Token.reference name).value env = .ok ((env.value? name).getD "") := by
    intro name hname
    obtain ⟨v, hv⟩ := Option.isSome_iff_exists.1 hname
    simp only [Token.value, hv, Option.getD_some]
  cases s with
  | plain c => rfl
  | braced name => exact hreference name (h name rfl)
  | bare name => exact hreference name (h name rfl)
  | dollar => rfl

theorem Spelling.value_token_of_unset {s : Spelling} {name : String} (hs : s.name? = some name)
    (hname : env.value? name = none) : s.token.value env = .error name := by
  have hreference : (Token.reference name).value env = .error name := by simp only [Token.value, hname]
  cases s <;> cases hs <;> exact hreference

theorem values_of_set (h : env.Sets (Spelling.names l)) :
    (l.map Spelling.token).mapM (Token.value env) = .ok (l.map (Spelling.image env)) := by
  induction l with
  | nil => rfl
  | cons s l ih =>
    have hs : s.token.value env = .ok (s.image env) := by
      apply Spelling.value_token
      intro name hname
      exact h name (List.mem_filterMap.2 ⟨s, List.mem_cons_self, hname⟩)
    have hl : (l.map Spelling.token).mapM (Token.value env) = .ok (l.map (Spelling.image env)) := by
      apply ih
      intro name hname
      obtain ⟨t, ht, hname⟩ := List.mem_filterMap.1 hname
      exact h name (List.mem_filterMap.2 ⟨t, List.mem_cons_of_mem s ht, hname⟩)
    rw [List.map_cons, List.mapM_cons, hs, hl]
    rfl

/-- The first variable that is not set is the one that is reported. -/
theorem values_of_unset {before behind : List String} {name : String}
    (hl : Spelling.names l = before ++ name :: behind) (hbefore : env.Sets before) (hname : env.value? name = none) :
    (l.map Spelling.token).mapM (Token.value env) = .error name := by
  induction l generalizing before with
  | nil => simp [Spelling.names] at hl
  | cons s l ih =>
    unfold Spelling.names at hl
    rw [List.map_cons, List.mapM_cons]
    cases hs : s.name? with
    | none =>
      rw [List.filterMap_cons_none hs] at hl
      have hvalue : s.token.value env = .ok (s.image env) := Spelling.value_token (by simp [hs])
      rw [hvalue, ih hl hbefore]
      rfl
    | some first =>
      rw [List.filterMap_cons_some hs] at hl
      cases before with
      | nil =>
        obtain ⟨rfl, -⟩ := List.cons.inj hl
        rw [Spelling.value_token_of_unset hs hname]
        rfl
      | cons n before =>
        obtain ⟨rfl, hrest⟩ := List.cons.inj hl
        have hvalue : s.token.value env = .ok (s.image env) := by
          apply Spelling.value_token
          intro name hname
          rw [hs, Option.some.injEq] at hname
          rw [← hname]
          exact hbefore first List.mem_cons_self
        rw [hvalue, ih hrest fun n hn => hbefore n (List.mem_cons_of_mem _ hn)]
        rfl

/-! ## Texts that are spelled to their end -/

variable {text : String} (h : Spells l text.toList [])
include h

theorem ofChars_of_spells : Token.ofChars text.toList = l.map Spelling.token := by
  rw [h.ofChars, Token.ofChars, List.append_nil]

theorem expandPath_of_set (hset : env.Sets (Spelling.names l)) :
    expandPath env text = .ok (Spelling.images env l) := by
  rw [expandPath, expand, ofChars_of_spells h, values_of_set hset]
  rfl

theorem expandPath_of_unset {before behind : List String} {name : String}
    (hl : Spelling.names l = before ++ name :: behind) (hbefore : env.Sets before) (hname : env.value? name = none) :
    expandPath env text = .error (.missingVariable name) := by
  rw [expandPath, expand, ofChars_of_spells h, values_of_unset hl hbefore hname]
  rfl

end Values

/-- **A text that is spelled to its end becomes the images of its spellings, one after the other**, if all variables
that it names are set. Otherwise the first one that is not set is reported. What is not spelled to its end is spelled to
a brace that is not closed. -/
theorem expandPath_spelled (env : Environment) (text : String) :
    (∀ l, Spells l text.toList [] →
      (env.Sets (Spelling.names l) → expandPath env text = .ok (Spelling.images env l)) ∧
      ∀ before name behind, Spelling.names l = before ++ name :: behind → env.Sets before →
        env.value? name = none → expandPath env text = .error (.missingVariable name)) ∧
    ((∃ l, Spells l text.toList []) ∨ ∃ l name, '}' ∉ name ∧ Spells l text.toList ('$' :: '{' :: name)) := by
  constructor
  · intro l h
    exact ⟨expandPath_of_set h, fun _ _ _ => expandPath_of_unset h⟩
  · obtain ⟨l, rest, h, rfl | ⟨name, hname, rfl⟩⟩ := exists_spells text.toList
    · exact .inl ⟨l, h⟩
    · exact .inr ⟨l, name, hname, h⟩

/-- Values that look like variables. -/
def nestedValues : Environment := { values := .ofList [("A", "$B"), ("B", "$\x7bA\x7d")] }

def nestedSpelling : List Spelling := [.bare "A", .plain '/', .braced "B", .dollar, .plain '-', .dollar]

theorem expandPath_nested :
    Spells nestedSpelling "$A/$\x7bB\x7d$-$".toList [] ∧
      expandPath nestedValues "$A/$\x7bB\x7d$-$" = .ok "$B/$\x7bA\x7d$-$" ∧
        expandPath { values := .ofList [("A", "$B")] } "$A/$\x7bB\x7d$-$" = .error (.missingVariable "B") := by
  have hspells : Spells nestedSpelling "$A/$\x7bB\x7d$-$".toList [] := by
    have h : Spells nestedSpelling (nestedSpelling.flatMap Spelling.chars ++ []) [] :=
      .cons (by decide +kernel) (.cons (by decide +kernel) (.cons (by decide +kernel) (.cons (by decide +kernel)
        (.cons (by decide +kernel) (.cons (by decide +kernel) (.nil []))))))
    have htext : nestedSpelling.flatMap Spelling.chars ++ [] = "$A/$\x7bB\x7d$-$".toList := by decide +kernel
    rwa [htext] at h
  have hexpand := fun env => (expandPath_spelled env "$A/$\x7bB\x7d$-$").1 nestedSpelling hspells
  refine ⟨hspells, ?_, (hexpand _).2 ["A"] "B" [] (by decide +kernel) (by decide +kernel) (by decide +kernel)⟩
  rw [(hexpand nestedValues).1 (by decide +kernel)]
  decide +kernel

end CatalogFinder
