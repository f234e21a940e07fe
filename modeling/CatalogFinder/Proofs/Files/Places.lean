import CatalogFinder.Files.DatabaseFile
import CatalogFinder.Proofs.NameMap

/-!
# Places

What is at a place after something has been put at another place, or taken away there; and where the file of a database
is, which its path and the working directory alone decide.

* `Place.Covers a b` : `b` is `a` or below it;
* `Place.IsSideOf p q` : `p` is taken away with what lies beside the database file `q`;
* `Files.node?_put`, `Files.node?_remove_of_not_covers` : what is at a place after a change;
* `Path.placeFrom`, `Files.placeFrom_of_locate` : the place of a database file;
* `Path.placeFrom_congr`, `DatabaseName.absolute_file_joined` : when the working directory does not matter to it.
-/

namespace CatalogFinder

namespace Place

theorem key_append (a b : Place) : Place.key (a ++ b) = a.key ++ b.key := by
  rw [key, List.map_append, String.join_append]
  rfl

theorem key_singleton (name : String) : Place.key [name] = "/" ++ name := by
  rw [key, List.map_singleton, String.join_cons, String.join_nil, String.append_empty]

/-- What lies beside a place has a longer key. -/
theorem key_beside {p : Place} (h : p ≠ []) (ending : String) : (p.beside ending).key = p.key ++ ending := by
  have hlast : p.getLast? = some (p.getLast h) := List.getLast?_eq_some_getLast h
  have hsplit : p.key = Place.key p.dropLast ++ Place.key [p.getLast h] := by
    rw [← key_append, List.dropLast_concat_getLast h]
  rw [beside, hlast, hsplit, key_append, Option.map_some, Option.toList_some, key_singleton, key_singleton,
    String.append_assoc, String.append_assoc]

/-- The second place is the first one or below it. -/
def Covers (a b : Place) : Prop := b.key = a.key ∨ (a.key ++ "/").toList <+: b.key.toList

instance (a b : Place) : Decidable (a.Covers b) := inferInstanceAs (Decidable (_ ∨ _))

theorem length_le_of_covers {a b : Place} (h : a.Covers b) : a.key.toList.length ≤ b.key.toList.length := by
  rcases h with h | h
  · exact Nat.le_of_eq (congrArg (fun key : String => key.toList.length) h.symm)
  · have hlength := h.length_le
    rw [String.toList_append, List.length_append] at hlength
    omega

/-- Nothing lies beside itself. -/
theorem not_covers_of_beside {p : Place} (h : p ≠ []) {ending : String} (hending : ending ≠ "") :
    ¬ (p.beside ending).Covers p := by
  intro hcovers
  have hlength := length_le_of_covers hcovers
  have hpositive : 0 < ending.toList.length := by
    rw [List.length_pos_iff]
    intro hnil
    exact hending (String.toList_eq_nil_iff.1 hnil)
  rw [key_beside h, String.toList_append, List.length_append] at hlength
  omega

/-- The place is taken away with what a broken-off change has left beside a database file. -/
def IsSideOf (p database : Place) : Prop :=
  p ≠ [] ∧ ((database.beside DatabaseName.journalEnding).Covers p ∨ (database.beside DatabaseName.logEnding).Covers p)

instance (p database : Place) : Decidable (p.IsSideOf database) := inferInstanceAs (Decidable (_ ∧ _))

theorem not_isSideOf_self (p : Place) : ¬ p.IsSideOf p := by
  rintro ⟨hp, hside | hside⟩
  · exact not_covers_of_beside hp (by decide) hside
  · exact not_covers_of_beside hp (by decide) hside

end Place

namespace Files

theorem node?_nil (files : Files) : files.node? [] = some .directory := rfl

theorem node?_of_ne_nil (files : Files) {p : Place} (h : p ≠ []) : files.node? p = files.nodes.get? p.key := by
  rw [node?, if_neg (by simpa using h)]

theorem node?_put (files : Files) (q : Place) (node : Node) {p : Place} (h : p ≠ []) :
    (files.put q node).node? p = if p.key = q.key then some node else files.node? p := by
  rw [node?_of_ne_nil _ h, node?_of_ne_nil _ h, put, NameMap.get?_insert]

theorem node?_remove_of_not_covers (files : Files) {q p : Place} (h : p ≠ [] → ¬ q.Covers p) :
    (files.remove q).node? p = files.node? p := by
  by_cases hp : p = []
  · rw [hp, node?_nil, node?_nil]
  · have hkey : p.key ≠ q.key := fun hkey => h hp (.inl hkey)
    have hbelow : (q.key ++ "/").toList.isPrefixOf p.key.toList = false := by
      rw [Bool.eq_false_iff]
      intro hprefix
      exact h hp (.inr (List.isPrefixOf_iff_prefix.1 hprefix))
    rw [node?_of_ne_nil _ hp, node?_of_ne_nil _ hp, remove, NameMap.get?_filter, hbelow, decide_eq_true hkey]
    cases files.nodes.get? p.key <;> rfl

end Files

/-! ## Database files -/

/-- The place under one more name, whatever is there. -/
def Place.next (here : Place) (name : String) : Place :=
  if name.isEmpty || name = "." then here else if name = ".." then here.dropLast else here ++ [name]

/-- The place that a path spells from a working directory. -/
def Path.placeFrom (p : Path) (workingDirectory : Place) : Place :=
  p.names.foldl Place.next (if p.absolute then [] else workingDirectory)

/-- The working directory does not matter to an absolute path. -/
theorem Path.placeFrom_congr {p : Path} {wd wd' : Place} (h : wd' = wd ∨ p.absolute = true) :
    p.placeFrom wd' = p.placeFrom wd := by
  rcases h with rfl | habsolute
  · rfl
  · rw [placeFrom, placeFrom, if_pos habsolute, if_pos habsolute]

theorem Path.absolute_ofString_iff {text : String} :
    (Path.ofString text).absolute = true ↔ ∃ rest, text.toList = '/' :: rest := by
  unfold ofString
  split
  next rest hrest => exact iff_of_true rfl ⟨rest, hrest⟩
  next hother => exact iff_of_false (by simp) fun ⟨rest, hrest⟩ => hother rest hrest

/-- The database of a name in an absolute directory has an absolute file: the name is no locator. -/
theorem DatabaseName.absolute_file_joined {directory name : String} {d : DatabaseName}
    (habsolute : (Path.ofString directory).absolute = true)
    (h : DatabaseName.ofString? (Path.joined directory name) = some d) : d.file.absolute = true := by
  obtain ⟨rest, hrest⟩ := Path.absolute_ofString_iff.1 habsolute
  obtain ⟨more, hmore⟩ : ∃ more, (Path.joined directory name).toList = '/' :: more := by
    unfold Path.joined
    split
    · exact ⟨rest ++ name.toList, by rw [String.toList_append, hrest, List.cons_append]⟩
    · exact ⟨rest ++ "/".toList ++ name.toList, by simp [hrest]⟩
  rw [ofString?, hmore] at h
  cases h
  have hbytes : Text.encode (Path.joined directory name) = 0x2F :: more.flatMap String.utf8EncodeChar := by
    rw [Text.encode, hmore, List.flatMap_cons]
    rfl
  rw [file, hbytes]
  rfl

namespace Files

theorem next_of_locateNext {files : Files} {here place : Place} {name : String}
    (h : files.locateNext here name = .ok place) : place = here.next name := by
  unfold locateNext at h
  unfold Place.next
  split at h
  next hempty =>
    rw [if_pos hempty]
    exact (Except.ok.inj h).symm
  next hempty =>
    rw [if_neg hempty]
    split at h
    next hup =>
      rw [if_pos hup]
      exact (Except.ok.inj h).symm
    next hup =>
      rw [if_neg hup]
      split at h
      · cases h
      · split at h
        · exact (Except.ok.inj h).symm
        · exact (Except.ok.inj h).symm
        · cases h

theorem foldl_next_of_locateNext {files : Files} {names : List String} {here place : Place}
    (h : names.foldlM files.locateNext here = .ok place) : place = names.foldl Place.next here := by
  induction names generalizing here with
  | nil => exact (Except.ok.inj h).symm
  | cons name names ih =>
    rw [List.foldlM_cons] at h
    cases hnext : files.locateNext here name with
    | error e =>
      rw [hnext] at h
      cases h
    | ok next =>
      rw [hnext] at h
      rw [List.foldl_cons, ← next_of_locateNext hnext]
      exact ih h

/-- A database file is where its path leads by its names alone, and never the root. -/
theorem placeFrom_of_locate {files : Files} {p : Path} {place : Place} (h : files.locate p = .ok place) :
    place = p.placeFrom files.workingDirectory ∧ place ≠ [] := by
  unfold locate at h
  cases hplace : p.names.foldlM files.locateNext (files.start p) with
  | error e =>
    rw [hplace] at h
    cases h
  | ok located =>
    rw [hplace] at h
    have hlocated := foldl_next_of_locateNext hplace
    simp only [bind, Except.bind] at h
    split at h
    · cases h
    next hchecked =>
      cases h
      refine ⟨hlocated, ?_⟩
      rintro rfl
      exact hchecked rfl

end Files

end CatalogFinder
