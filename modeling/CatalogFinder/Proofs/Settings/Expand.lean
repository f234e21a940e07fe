import CatalogFinder.Settings.Basic

/-!
# What an expansion depends on

A text is expanded alike in environments that give the same values to the variables it names, and so is the path of a
connection.

* `Environment.AgreeOn` : the same values for some variables;
* `expand_congr`, `Connection.resolvedPath_congr` : nothing else matters.
-/

namespace CatalogFinder

/-- The environments give the same values to some variables, or leave them unset alike. -/
def Environment.AgreeOn (names : List String) (env other : Environment) : Prop :=
  ∀ name ∈ names, env.value? name = other.value? name

variable {env other : Environment}

namespace Token

theorem value_congr {t : Token} (h : ∀ name, t.name? = some name → env.value? name = other.value? name) :
    t.value env = t.value other := by
  cases t with
  | literal c => rfl
  | reference name =>
    have hvalue := h name rfl
    simp only [value, hvalue]

theorem mapM_value_congr {tokens : List Token} (h : Environment.AgreeOn (tokens.filterMap name?) env other) :
    tokens.mapM (value env) = tokens.mapM (value other) := by
  induction tokens with
  | nil => rfl
  | cons t tokens ih =>
    have hfirst : t.value env = t.value other := by
      apply value_congr
      intro name hname
      exact h name (List.mem_filterMap.2 ⟨t, List.mem_cons_self, hname⟩)
    have hrest : tokens.mapM (value env) = tokens.mapM (value other) := by
      apply ih
      intro name hname
      obtain ⟨t', ht', hname'⟩ := List.mem_filterMap.1 hname
      exact h name (List.mem_filterMap.2 ⟨t', List.mem_cons_of_mem t ht', hname'⟩)
    rw [List.mapM_cons, List.mapM_cons, hfirst, hrest]

end Token

theorem expand_congr {text : String} (h : Environment.AgreeOn (variablesIn text) env other) :
    expand env text = expand other text := by
  unfold expand
  rw [Token.mapM_value_congr h]

theorem Connection.resolvedPath_congr {c : Connection} (h : Environment.AgreeOn (variablesIn c.path) env other) :
    c.resolvedPath env = c.resolvedPath other := by
  unfold resolvedPath expandPath
  rw [expand_congr h]

end CatalogFinder
