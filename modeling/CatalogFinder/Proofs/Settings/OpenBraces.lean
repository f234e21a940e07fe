import CatalogFinder.Proofs.Settings.Spelled

/-!
# Braces that are not closed

A brace that is not closed is read as if it were closed at the end of the text: all that stands behind it is the name of
a variable, whose value takes its place. So what becomes of the text depends on the environment, unless some name in the
text is one that no variable can have; then the text cannot be expanded at all.

* `IsVariable` : a name that a variable can have, `exists_setting` : such variables can be set together;
* `forall_error_iff` : the texts that cannot be expanded in any environment;
* `Spells.closed` : how a text with an open brace goes on when the brace is closed;
* `expandPath_leftOpen` : what becomes of an open brace, `expandPath_openHome` : it is replaced by any value.
-/

namespace CatalogFinder

/-! ## Names of variables -/

/-- A variable can have the name. -/
def IsVariable (name : String) : Prop := name.isEmpty = false ∧ '=' ∉ name.toList ∧ '\x00' ∉ name.toList

theorem value?_of_isVariable {name : String} (h : IsVariable name) (env : Environment) :
    env.value? name = env.values.get? name := by
  obtain ⟨hempty, hequals, hzero⟩ := h
  simp [Environment.value?, hempty, hequals, hzero]

theorem value?_of_not_isVariable {name : String} (h : ¬ IsVariable name) (env : Environment) :
    env.value? name = none := by
  rw [Environment.value?, if_pos]
  by_contra hnone
  apply h
  simpa [IsVariable, not_or, and_assoc] using hnone

/-- Any variables can be set together. -/
theorem exists_setting {names : List String} (h : ∀ name ∈ names, IsVariable name) :
    ∃ env : Environment, env.Sets names := by
  induction names with
  | nil => exact ⟨{}, by simp [Environment.Sets]⟩
  | cons first names ih =>
    obtain ⟨env, henv⟩ := ih fun name hname => h name (List.mem_cons_of_mem first hname)
    refine ⟨{ values := env.values.insert first "" }, ?_⟩
    intro name hname
    rw [value?_of_isVariable (h name hname), NameMap.get?_insert]
    split
    next => rfl
    next hne =>
      have hmem : name ∈ names := (List.mem_cons.1 hname).resolve_left hne
      rw [← value?_of_isVariable (h name hname)]
      exact henv name hmem

/-- Where not all variables are set, there is a first one that is not. -/
theorem exists_unset {env : Environment} {names : List String} (h : ∃ name ∈ names, env.value? name = none) :
    ∃ before name behind, names = before ++ name :: behind ∧ env.Sets before ∧ env.value? name = none := by
  obtain ⟨name, hname, hunset⟩ := h
  have hfind : (names.find? fun n => (env.value? n).isNone).isSome = true :=
    List.find?_isSome.2 ⟨name, hname, by rw [hunset]; rfl⟩
  obtain ⟨first, hfirst⟩ := Option.isSome_iff_exists.1 hfind
  obtain ⟨hnone, before, behind, hsplit, hbefore⟩ := List.find?_eq_some_iff_append.1 hfirst
  refine ⟨before, first, behind, hsplit, fun n hn => ?_, Option.isNone_iff_eq_none.1 hnone⟩
  simpa using hbefore n hn

variable {l : List Spelling}

/-- A text cannot be expanded in any environment exactly if no variable can have one of the names. -/
theorem forall_error_iff {text : String} (h : Spells l text.toList []) :
    (∀ env, ∃ e, expandPath env text = .error e) ↔ ∃ name ∈ Spelling.names l, ¬ IsVariable name := by
  constructor
  · intro herror
    by_contra hnone
    have hall : ∀ name ∈ Spelling.names l, IsVariable name :=
      fun name hname => by_contra fun hname' => hnone ⟨name, hname, hname'⟩
    obtain ⟨env, hset⟩ := exists_setting hall
    obtain ⟨e, he⟩ := herror env
    rw [expandPath_of_set h hset] at he
    cases he
  · rintro ⟨name, hname, hvariable⟩ env
    obtain ⟨before, first, behind, hsplit, hbefore, hunset⟩ :=
      exists_unset ⟨name, hname, value?_of_not_isVariable hvariable env⟩
    exact ⟨_, expandPath_of_unset h hsplit hbefore hunset⟩

/-! ## Texts with an open brace -/

/-- Only the first character behind a spelling matters to it. -/
theorem Spelling.standsBefore_congr {s : Spelling} {rest rest' : List Char} (h : rest.head? = rest'.head?) :
    s.StandsBefore rest ↔ s.StandsBefore rest' := by
  cases s <;> simp only [StandsBefore, h]

namespace Spells

variable {l' : List Spelling} {text middle rest : List Char}

theorem trans (h : Spells l text middle) (h' : Spells l' middle rest) : Spells (l ++ l') text rest := by
  induction h with
  | nil => exact h'
  | cons hs _ ih => exact .cons hs (ih h')

theorem suffix (h : Spells l text rest) : rest <:+ text := by
  induction h with
  | nil => exact List.suffix_rfl
  | @cons s _ _ _ _ _ ih => exact ih.trans (List.suffix_append s.chars _)

/-- What is put behind a rest does not change how a text is spelled up to it. -/
theorem append (h : Spells l text rest) (hrest : rest ≠ []) (more : List Char) :
    Spells l (text ++ more) (rest ++ more) := by
  induction h with
  | nil => exact .nil _
  | @cons s l text rest hs h ih =>
    have hhead : text.head? = (text ++ more).head? := by
      cases text with
      | nil => exact absurd (List.suffix_nil.1 h.suffix) hrest
      | cons c text => rfl
    rw [List.append_assoc]
    exact .cons ((Spelling.standsBefore_congr hhead).1 hs) (ih hrest)

end Spells

/-- A brace that is not closed reaches to the end. -/
theorem Token.ofChars_leftOpen {name : List Char} (h : '}' ∉ name) :
    ofChars ('$' :: '{' :: name) = [reference (String.ofList name)] := by
  have hname := forall_ne_brace h
  rw [ofChars, List.takeWhile_eq_self_iff.2 hname, List.dropWhile_eq_nil_iff.2 hname, List.drop_nil, ofChars]

section LeftOpen
variable {text : String} {name : String} (h : Spells l text.toList ('$' :: '{' :: name.toList))
  (hname : '}' ∉ name.toList)
include h hname

/-- With the brace closed behind it, the text is spelled to its end. -/
theorem Spells.closed : Spells (l ++ [.braced name]) (text ++ "\x7d").toList [] := by
  have hfront := h.append (List.cons_ne_nil _ _) ['}']
  have hbraced : Spells [.braced name] ('$' :: '{' :: name.toList ++ ['}']) [] := by
    have hstands : (Spelling.braced name).StandsBefore [] := hname
    simpa [Spelling.chars] using Spells.cons hstands (.nil [])
  rw [String.toList_append]
  exact hfront.trans hbraced

theorem expandPath_closed (env : Environment) : expandPath env text = expandPath env (text ++ "\x7d") := by
  have hopen : Token.ofChars text.toList = (l ++ [Spelling.braced name]).map Spelling.token := by
    rw [h.ofChars, Token.ofChars_leftOpen hname, String.ofList_toList, List.map_append]
    rfl
  rw [expandPath, expandPath, expand, expand, hopen, ofChars_of_spells (h.closed hname)]

end LeftOpen

/-- **A brace that is not closed names a variable with all that stands behind it, and is replaced by its value.** The
text is expanded as if the brace were closed at its end: if all variables in front are set, to their images and the
value of this one, or to an error that names it; otherwise the first one that is not set is reported. It is an error in
every environment exactly if one of the names is one that no variable can have. -/
theorem expandPath_leftOpen {text name : String} (h : Spells l text.toList ('$' :: '{' :: name.toList))
    (hname : '}' ∉ name.toList) :
    (∀ env, expandPath env text = expandPath env (text ++ "\x7d")) ∧
    (∀ env, env.Sets (Spelling.names l) → expandPath env text = match env.value? name with
      | some v => .ok (Spelling.images env l ++ v)
      | none => .error (.missingVariable name)) ∧
    (∀ env before first behind, Spelling.names l = before ++ first :: behind → env.Sets before →
      env.value? first = none → expandPath env text = .error (.missingVariable first)) ∧
    ((∀ env, ∃ e, expandPath env text = .error e) ↔ ∃ n ∈ name :: Spelling.names l, ¬ IsVariable n) := by
  have hclosed := h.closed hname
  have hsame := expandPath_closed h hname
  have hnames : Spelling.names (l ++ [.braced name]) = Spelling.names l ++ [name] := by
    rw [Spelling.names, List.filterMap_append]
    rfl
  refine ⟨hsame, fun env hset => ?_, fun env before first behind hl hbefore hfirst => ?_, ?_⟩
  · rw [hsame]
    cases hvalue : env.value? name with
    | none => exact expandPath_of_unset hclosed hnames hset hvalue
    | some v =>
      have hall : env.Sets (Spelling.names (l ++ [.braced name])) := by
        rw [hnames]
        intro n hn
        rcases List.mem_append.1 hn with hn | hn
        · exact hset n hn
        · rw [List.mem_singleton.1 hn, hvalue]
          rfl
      have himage : (Spelling.braced name).image env = v := by rw [Spelling.image, hvalue, Option.getD_some]
      rw [expandPath_of_set hclosed hall]
      simp [Spelling.images, himage, String.join_append]
  · have hfront : Spelling.names (l ++ [.braced name]) = before ++ first :: (behind ++ [name]) := by
      rw [hnames, hl, List.append_assoc, List.cons_append]
    rw [hsame]
    exact expandPath_of_unset hclosed hfront hbefore hfirst
  · simp only [hsame]
    rw [forall_error_iff hclosed, hnames]
    simp [or_comm]

/-- A variable in front of an open brace. -/
def openSpelling : List Spelling := [.bare "A", .plain '/']

theorem expandPath_openPath :
    '}' ∉ "B C/D".toList ∧ Spells openSpelling "$A/$\x7bB C/D".toList ('$' :: '{' :: "B C/D".toList) ∧
      expandPath { values := .ofList [("A", "$B"), ("B C/D", "$A")] } "$A/$\x7bB C/D" = .ok "$B/$A" ∧
      expandPath { values := .ofList [("A", "a"), ("B", "b")] } "$A/$\x7bB C/D" = .error (.missingVariable "B C/D") ∧
      expandPath { values := .ofList [("B C/D", "b")] } "$A/$\x7bB C/D" = .error (.missingVariable "A") := by
  have hname : '}' ∉ "B C/D".toList := by decide +kernel
  have hspells : Spells openSpelling "$A/$\x7bB C/D".toList ('$' :: '{' :: "B C/D".toList) := by
    have h : Spells openSpelling (openSpelling.flatMap Spelling.chars ++ '$' :: '{' :: "B C/D".toList)
        ('$' :: '{' :: "B C/D".toList) :=
      .cons (by decide +kernel) (.cons (by decide +kernel) (.nil _))
    have htext : openSpelling.flatMap Spelling.chars ++ '$' :: '{' :: "B C/D".toList = "$A/$\x7bB C/D".toList := by
      decide +kernel
    rwa [htext] at h
  obtain ⟨-, hlast, hfirst, -⟩ := expandPath_leftOpen hspells hname
  refine ⟨hname, hspells, ?_, ?_, hfirst _ [] "A" [] (by decide +kernel) (by decide +kernel) (by decide +kernel)⟩
  · rw [hlast _ (by decide +kernel)]
    decide +kernel
  · rw [hlast _ (by decide +kernel)]
    decide +kernel

/-- An open brace is replaced by the value of a variable, whatever it is. -/
theorem expandPath_openHome :
    '}' ∉ "OC_HOME".toList ∧ Spells [] "$\x7bOC_HOME".toList ('$' :: '{' :: "OC_HOME".toList) ∧
      expandPath { values := .ofList [("OC_HOME", "/data")] } "$\x7bOC_HOME" = .ok "/data" ∧
      expandPath { values := .ofList [("OC_HOME", "/backup")] } "$\x7bOC_HOME" = .ok "/backup" ∧
      ¬ ∀ env, (∃ e, expandPath env "$\x7bOC_HOME" = .error e) ∨
        expandPath env "$\x7bOC_HOME" = .ok "$\x7bOC_HOME" := by
  have htext : "$\x7bOC_HOME".toList = '$' :: '{' :: "OC_HOME".toList := by decide +kernel
  have hdata : expandPath { values := .ofList [("OC_HOME", "/data")] } "$\x7bOC_HOME" = .ok "/data" := by decide +kernel
  refine ⟨by decide +kernel, htext ▸ .nil _, hdata, by decide +kernel, ?_⟩
  intro hkept
  rcases hkept { values := .ofList [("OC_HOME", "/data")] } with ⟨e, he⟩ | hliteral
  · rw [hdata] at he
    cases he
  · rw [hdata] at hliteral
    exact absurd (Except.ok.inj hliteral) (by decide)

end CatalogFinder
