import CatalogFinder.Text.Blank
import CatalogFinder.Text.Case.Lower

/-!
# Object categories

A catalog keeps objects of seven categories. Five of them are kept alike, as rows of one table of relations
(`Category.isTableLike`). A caller may ask for more than the categories: an `ObjectType` is a category, or a word of
the wider relational vocabulary that a category may or may not serve.
-/

namespace CatalogFinder

/-- A kind of object in the catalog. -/
inductive Category where
  | tableAlias
  | table
  | view
  | materializedView
  | nickname
  | column
  | routine
  deriving DecidableEq, Repr, Inhabited

namespace Category

/-- The categories in the order in which they are listed everywhere. -/
def all : List Category := [tableAlias, table, view, materializedView, nickname, column, routine]

theorem mem_all (c : Category) : c ∈ all := by cases c <;> decide

def label : Category → String
  | tableAlias => "Alias"
  | table => "Table"
  | view => "View"
  | materializedView => "MQT"
  | nickname => "Nickname"
  | column => "Column"
  | routine => "Routine"

/-- The name under which the category is stored. -/
def key : Category → String
  | tableAlias => "alias"
  | table => "table"
  | view => "view"
  | materializedView => "materialized_view"
  | nickname => "nickname"
  | column => "column"
  | routine => "routine"

def ofKey? (name : String) : Option Category := all.find? (·.key == name)

/-- Objects of the category are rows of `SYSCAT.TABLES`. -/
def isTableLike : Category → Bool
  | column => false
  | routine => false
  | _ => true

def tableLike : List Category := all.filter isTableLike

/-- The category is offered for links and completion. A column means nothing away from its owner. -/
def isNavigable : Category → Bool
  | column => false
  | _ => true

/-- Objects of the category have a definition text that can be searched. -/
def hasDefinition (c : Category) : Bool := c = routine || c.isTableLike

end Category

/-- A type of object that a caller may ask for. -/
inductive ObjectType where
  | category (c : Category)
  | procedure
  | function
  | index
  | sequence
  | trigger
  | package
  deriving DecidableEq, Repr

/-- A word that names no type, as it was looked up. -/
structure UnknownType where
  word : String
  deriving DecidableEq, Repr

def UnknownType.message (e : UnknownType) : String := s!"unknown object type: {e.word}"

namespace ObjectType

/-- The category that serves the type, if one does: procedures are found among the routines. -/
def category? : ObjectType → Option Category
  | category c => some c
  | procedure => some .routine
  | _ => none

def label : ObjectType → String
  | category c => c.label
  | procedure => "Procedure"
  | function => "Function"
  | index => "Index"
  | sequence => "Sequence"
  | trigger => "Trigger"
  | package => "Package"

/-- The types that are not categories, by name. -/
def others : List (String × ObjectType) :=
  [("procedure", procedure), ("function", function), ("index", index), ("sequence", sequence), ("trigger", trigger),
    ("package", package)]

/-- The types by the words a caller may use. -/
def words : List (String × ObjectType) :=
  [("alias", category .tableAlias), ("table", category .table), ("view", category .view),
    ("mqt", category .materializedView), ("materialized_view", category .materializedView),
    ("materialized-view", category .materializedView), ("nickname", category .nickname),
    ("column", category .column), ("routine", category .routine)] ++ others

/-- The type that a word names, whatever its case and the blanks around it. -/
def ofWord (text : String) : Except UnknownType ObjectType :=
  let word := Text.lower (Text.trim text)
  match words.lookup word with
  | some type => .ok type
  | none => .error ⟨word⟩

end ObjectType

end CatalogFinder
