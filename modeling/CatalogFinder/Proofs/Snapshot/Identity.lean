import CatalogFinder.Proofs.Json.Catalog
import CatalogFinder.Snapshot.Identity

/-!
# A snapshot's hash tells what it was made from

The record of an identity tells its connection and its filter, and the record's text tells the record. So two identities
have one hash only if the digest has a collision.

* `SnapshotIdentity.text` : the text that the hash is the digest of;
* `SnapshotIdentity.text_injective` : it tells the identity;
* `SnapshotIdentity.text_eq_iff` : what is the same where texts or hashes are;
* `NoCollision` : the digest tells the texts of some identities apart.
-/

namespace CatalogFinder

namespace Json

theorem ofString?_injective {a b : Option String} (h : ofString? a = ofString? b) : a = b := by
  have hread := congrArg (nullable? string?) h
  rw [nullable?_ofString?, nullable?_ofString?] at hread
  exact Option.some.inj hread

theorem strings_injective {xs ys : List String} (h : strings xs = strings ys) : xs = ys := by
  have hxs := mapM_map_write string? string (fun _ => rfl) xs
  have hys := mapM_map_write string? string (fun _ => rfl) ys
  have hitems : xs.map string = ys.map string := Json.array.inj h
  rw [hitems, hys] at hxs
  exact (Option.some.inj hxs).symm

end Json

theorem Connection.toJson_injective {c d : Connection} (h : c.toJson = d.toJson) : c = d := by
  obtain ⟨path, defaultSchema, dataSource⟩ := c
  obtain ⟨path', defaultSchema', dataSource'⟩ := d
  simp only [toJson, Json.object.injEq, List.cons.injEq, Prod.mk.injEq, true_and, and_true, Json.string.injEq] at h
  obtain ⟨hpath, hschema, hsource⟩ := h
  rw [hpath, Json.ofString?_injective hschema, Json.ofString?_injective hsource]

theorem Connection.eq_iff {c d : Connection} :
    c = d ↔ c.path = d.path ∧ c.defaultSchema = d.defaultSchema ∧ c.dataSource = d.dataSource := by
  cases c
  cases d
  exact Eq.to_iff (Connection.mk.injEq ..)

theorem Filter.eq_iff {f g : Filter} : f = g ↔ f.included = g.included ∧ f.excluded = g.excluded := by
  cases f
  cases g
  exact Eq.to_iff (Filter.mk.injEq ..)

theorem Filter.toJson_injective {f g : Filter} (h : f.toJson = g.toJson) : f = g := by
  obtain ⟨included, excluded⟩ := f
  obtain ⟨included', excluded'⟩ := g
  simp only [toJson, Json.object.injEq, List.cons.injEq, Prod.mk.injEq, true_and, and_true] at h
  obtain ⟨hincluded, hexcluded⟩ := h
  rw [Json.strings_injective hincluded, Json.strings_injective hexcluded]

namespace SnapshotIdentity

/-- The text that the hash is the digest of. -/
def text (i : SnapshotIdentity) : String := i.toJson.compact

theorem exact_toJson (i : SnapshotIdentity) : i.toJson.exact = true := by
  simp [toJson, Connection.toJson, Filter.toJson, Json.exact, Json.exactMembers, Json.exact_ofString?,
    Json.exact_strings]

/-- The text tells the connection and the filter. -/
theorem text_injective {i j : SnapshotIdentity} (h : i.text = j.text) : i = j := by
  have hjson : i.toJson = j.toJson := Json.compact_injective i.exact_toJson j.exact_toJson h
  obtain ⟨connection, filter⟩ := i
  obtain ⟨connection', filter'⟩ := j
  simp only [toJson, Json.object.injEq, List.cons.injEq, Prod.mk.injEq, true_and, and_true] at hjson
  rw [Connection.toJson_injective hjson.1, Filter.toJson_injective hjson.2]

theorem eq_iff {i j : SnapshotIdentity} : i = j ↔ i.connection = j.connection ∧ i.filter = j.filter := by
  cases i
  cases j
  exact Eq.to_iff (SnapshotIdentity.mk.injEq ..)

/-- **The text of an identity is that of no other connection or filter**, and its hash neither, unless the digest has a
collision. -/
theorem text_eq_iff (i j : SnapshotIdentity) :
    (i.text = j.text ↔
      (i.connection.path = j.connection.path ∧ i.connection.defaultSchema = j.connection.defaultSchema ∧
        i.connection.dataSource = j.connection.dataSource) ∧
      i.filter.included = j.filter.included ∧ i.filter.excluded = j.filter.excluded) ∧
    ((Sha256.hex i.text = Sha256.hex j.text → i.text = j.text) →
      (i.hash = j.hash ↔ i.connection = j.connection ∧ i.filter = j.filter)) := by
  constructor
  · rw [← Connection.eq_iff, ← Filter.eq_iff, ← eq_iff]
    exact ⟨text_injective, congrArg text⟩
  · intro hcollision
    rw [← eq_iff]
    exact ⟨fun hhash => text_injective (hcollision hhash), congrArg hash⟩

/-- A connection without a default schema and two patterns, and one with an empty schema and both patterns in one. -/
def unsetSchema : SnapshotIdentity := ⟨{ path := "a\"\\" }, { included := ["S%", "T"] }⟩

def emptySchema : SnapshotIdentity := ⟨{ path := "a\"\\", defaultSchema := some "" }, { included := ["S%\",\"T"] }⟩

theorem text_unsetSchema :
    unsetSchema.text ≠ emptySchema.text ∧
      (Sha256.hex unsetSchema.text = Sha256.hex emptySchema.text → unsetSchema.text = emptySchema.text) ∧
        unsetSchema.hash ≠ emptySchema.hash := by
  have hdigest : Sha256.hex unsetSchema.text ≠ Sha256.hex emptySchema.text := by decide +kernel
  have hcollision : Sha256.hex unsetSchema.text = Sha256.hex emptySchema.text → unsetSchema.text = emptySchema.text :=
    fun hsame => absurd hsame hdigest
  obtain ⟨htext, hhash⟩ := text_eq_iff unsetSchema emptySchema
  refine ⟨?_, hcollision, ?_⟩
  · rw [Ne, htext]
    decide
  · rw [Ne, hhash hcollision]
    decide

end SnapshotIdentity

/-- The digest tells the texts of the identities apart. -/
def NoCollision (used : SnapshotIdentity → Prop) : Prop :=
  ∀ i j, used i → used j → Sha256.hex i.text = Sha256.hex j.text → i.text = j.text

theorem NoCollision.eq_of_hash {used : SnapshotIdentity → Prop} (h : NoCollision used) {i j : SnapshotIdentity}
    (hi : used i) (hj : used j) (hhash : i.hash = j.hash) : i = j :=
  SnapshotIdentity.text_injective (h i j hi hj hhash)

end CatalogFinder
