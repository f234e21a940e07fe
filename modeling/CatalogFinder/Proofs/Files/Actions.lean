import CatalogFinder.Files.Basic

/-!
# How actions end

An action on files ends with a result or with an error, and leaves files behind in either case. `FileAction.Ends` says
of both cases at once what holds then; its rules follow the steps an action is made of.

* `FileAction.Ends` : what holds when an action has ended;
* `Ends.bind`, `Ends.next`, `Ends.mono` : one action after the other, and less said of one;
* `Ends.of_run`, `Ends.files_run`, `Ends.with_run` : what holds of one run, and the run itself.
-/

namespace CatalogFinder.FileAction

variable {ε ε' α β : Type}

/-- What holds when an action has ended: of its result and the files, or, after an error, of the files. -/
def Ends (a : FileAction ε α) (files : Files) (ok : α → Files → Prop) (failed : Files → Prop) : Prop :=
  match a.run files with
  | (.ok result, after) => ok result after
  | (.error _, after) => failed after

variable {ok : α → Files → Prop} {failed : Files → Prop} {files : Files}

theorem Ends.of_run {a : FileAction ε α} (h : a.Ends files ok failed) {result : α} {after : Files}
    (hrun : a.run files = (.ok result, after)) : ok result after := by
  unfold Ends at h
  rw [hrun] at h
  exact h

theorem Ends.of_error {a : FileAction ε α} (h : a.Ends files ok failed) {e : ε} {after : Files}
    (hrun : a.run files = (.error e, after)) : failed after := by
  unfold Ends at h
  rw [hrun] at h
  exact h

/-- What holds of the files in either case. -/
theorem Ends.files_run {a : FileAction ε α} (h : a.Ends files (fun _ => failed) failed) : failed (a.run files).2 := by
  unfold Ends at h
  rcases hrun : a.run files with ⟨e | result, after⟩
  · rw [hrun] at h
    exact h
  · rw [hrun] at h
    exact h

theorem Ends.mono {a : FileAction ε α} (h : a.Ends files ok failed) {ok' : α → Files → Prop} {failed' : Files → Prop}
    (hok : ∀ result after, ok result after → ok' result after) (hfailed : ∀ after, failed after → failed' after) :
    a.Ends files ok' failed' := by
  unfold Ends at h ⊢
  cases hrun : a.run files with
  | mk result after =>
    rw [hrun] at h
    cases result with
    | ok result => exact hok result after h
    | error e => exact hfailed after h

/-- What holds if there is a result, whatever holds after an error. -/
theorem Ends.if_ok {a : FileAction ε α} (h : a.Ends files ok failed) : a.Ends files ok (fun _ => True) :=
  h.mono (fun _ _ hok => hok) fun _ _ => trivial

/-- Every action ends. -/
theorem Ends.any (a : FileAction ε α) (files : Files) : a.Ends files (fun _ _ => True) (fun _ => True) := by
  unfold Ends
  split <;> trivial

/-- What is known of a result that an action has given. -/
theorem Ends.with_run {a : FileAction ε α} (h : a.Ends files ok failed) :
    a.Ends files (fun result after => ok result after ∧ a.run files = (.ok result, after)) failed := by
  unfold Ends at h ⊢
  rcases hrun : a.run files with ⟨e | result, after⟩
  · rw [hrun] at h
    exact h
  · rw [hrun] at h
    exact ⟨h, rfl⟩

theorem run_bind (a : FileAction ε α) (f : α → FileAction ε β) (files : Files) :
    (a >>= f).run files = match a.run files with
      | (.ok result, after) => (f result).run after
      | (.error e, after) => (.error e, after) := by
  show (match a.run files with | (result, after) => ExceptT.bindCont f result after) = _
  rcases a.run files with ⟨result | result, after⟩ <;> rfl

/-- One action after the other. -/
theorem Ends.bind {a : FileAction ε α} {f : α → FileAction ε β} {ok' : β → Files → Prop}
    (h : a.Ends files (fun result after => (f result).Ends after ok' failed) failed) :
    (a >>= f).Ends files ok' failed := by
  unfold Ends at h ⊢
  rw [run_bind]
  rcases hrun : a.run files with ⟨result | result, after⟩
  · rw [hrun] at h
    exact h
  · rw [hrun] at h
    exact h

/-- One action after another of which it is known what holds when it has ended. -/
theorem Ends.next {a : FileAction ε α} (h : a.Ends files ok failed) {f : α → FileAction ε β} {ok' : β → Files → Prop}
    (hnext : ∀ result after, ok result after → (f result).Ends after ok' failed) :
    (a >>= f).Ends files ok' failed := Ends.bind (h.mono hnext fun _ hfailed => hfailed)

/-- One action after another of which nothing need be known but that it has given its result. -/
theorem Ends.after {a : FileAction ε α} {f : α → FileAction ε β} {ok' : β → Files → Prop}
    (h : ∀ result after, a.run files = (.ok result, after) → (f result).Ends after ok' (fun _ => True)) :
    (a >>= f).Ends files ok' (fun _ => True) :=
  (Ends.any a files).with_run.next fun result after hrun => h result after hrun.2

theorem Ends.pure {result : α} (h : ok result files) : (pure result : FileAction ε α).Ends files ok failed := h

theorem Ends.throw {e : ε} (h : failed files) : (throw e : FileAction ε α).Ends files ok failed := h

theorem Ends.get {ok : Files → Files → Prop} (h : ok files files) :
    (get : FileAction ε Files).Ends files ok failed := h

theorem Ends.set {after : Files} {ok : PUnit → Files → Prop} (h : ok ⟨⟩ after) :
    (set after : FileAction ε PUnit).Ends files ok failed := h

theorem Ends.modify {change : Files → Files} {ok : PUnit → Files → Prop} (h : ok ⟨⟩ (change files)) :
    (modify change : FileAction ε PUnit).Ends files ok failed := h

/-- A result that no file has a part in. -/
theorem Ends.of {wrap : ε → ε'} {result : Except ε α} (hok : ∀ a, result = .ok a → ok a files)
    (hfailed : failed files) : (FileAction.of wrap result).Ends files ok failed := by
  cases result with
  | ok a => exact hok a rfl
  | error e => exact hfailed

/-- The name of an error is of no matter. -/
theorem Ends.adapt {wrap : ε → ε'} {a : FileAction ε α} (h : a.Ends files ok failed) :
    Ends (ExceptT.adapt wrap a : FileAction ε' α) files ok failed := by
  have hadapt : ExceptT.run (ExceptT.adapt wrap a : FileAction ε' α) files =
      ((a.run files).1.mapError wrap, (a.run files).2) := rfl
  unfold Ends at h ⊢
  rw [hadapt]
  rcases hrun : a.run files with ⟨result | result, after⟩
  · rw [hrun] at h
    exact h
  · rw [hrun] at h
    exact h

end CatalogFinder.FileAction
