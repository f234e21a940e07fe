/-!
# Folds that may fail

Steps are taken along a list, each from the state that the one before it has left, up to the first one that fails.

* `foldlM_induct` : what each step keeps, all of them keep;
* `foldlM_total` : they succeed if each does;
* `exists_of_foldlM_error` : where they fail, the steps up to some place succeed and the next one fails;
* `foldlM_map` : steps on images of states.
-/

namespace CatalogFinder

theorem bind_eq_ok {ε α β : Type} {x : Except ε α} {f : α → Except ε β} {b : β} (h : x >>= f = .ok b) :
    ∃ a, x = .ok a ∧ f a = .ok b := by
  cases x with
  | error e => cases h
  | ok a => exact ⟨a, rfl, h⟩

section Fold
variable {α σ ε : Type} {step : σ → α → Except ε σ}

/-- What holds at the start and is kept by each step that succeeds holds after all of them. It may tell of the elements
that have been passed. -/
theorem foldlM_induct {motive : List α → σ → Prop}
    (hstep : ∀ {done : List α} {a : α} {s s' : σ}, motive done s → step s a = .ok s' → motive (done ++ [a]) s')
    {start last : σ} {l : List α} (hstart : motive [] start) (h : l.foldlM step start = .ok last) : motive l last := by
  -- the induction is on what is left, for any elements that have been passed
  have hrun : ∀ (l done : List α) (s : σ), motive done s → l.foldlM step s = .ok last → motive (done ++ l) last := by
    intro l
    induction l with
    | nil =>
      intro done s hs h
      cases h
      rwa [List.append_nil]
    | cons a l ih =>
      intro done s hs h
      rw [List.foldlM_cons] at h
      obtain ⟨s', ha, h⟩ := bind_eq_ok h
      rw [List.append_cons]
      exact ih (done ++ [a]) s' (hstep hs ha) h
  exact hrun l [] start hstart h

/-- Steps that always succeed succeed one after the other. -/
theorem foldlM_total {l : List α} (hstep : ∀ a ∈ l, ∀ s, ∃ s', step s a = .ok s') (s : σ) :
    ∃ s', l.foldlM step s = .ok s' := by
  induction l generalizing s with
  | nil => exact ⟨s, rfl⟩
  | cons a l ih =>
    obtain ⟨later, hlater⟩ := hstep a List.mem_cons_self s
    rw [List.foldlM_cons, hlater]
    exact ih (fun b hb => hstep b (List.mem_cons_of_mem _ hb)) later

/-- Where the steps fail, they succeed up to some place, and the next one fails. -/
theorem exists_of_foldlM_error {e : ε} {l : List α} {s : σ} (h : l.foldlM step s = .error e) :
    ∃ before a behind s', l = before ++ a :: behind ∧ before.foldlM step s = .ok s' ∧ step s' a = .error e := by
  induction l generalizing s with
  | nil => cases h
  | cons a l ih =>
    rw [List.foldlM_cons] at h
    cases ha : step s a with
    | error e' =>
      rw [ha] at h
      cases h
      exact ⟨[], a, l, s, rfl, rfl, ha⟩
    | ok later =>
      rw [ha] at h
      obtain ⟨before, b, behind, s', rfl, hbefore, hb⟩ := ih h
      refine ⟨a :: before, b, behind, s', rfl, ?_, hb⟩
      rw [List.foldlM_cons, ha]
      exact hbefore

/-- Steps on images of states that are the images of steps. -/
theorem foldlM_map {τ : Type} {image : σ → τ} {step' : τ → α → Except ε τ}
    (hstep : ∀ s a, step' (image s) a = (step s a).map image) (s : σ) (l : List α) :
    l.foldlM step' (image s) = (l.foldlM step s).map image := by
  induction l generalizing s with
  | nil => rfl
  | cons a l ih =>
    rw [List.foldlM_cons, List.foldlM_cons, hstep]
    cases step s a with
    | error e => rfl
    | ok later => exact ih later

end Fold

end CatalogFinder
