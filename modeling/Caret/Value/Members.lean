/-
  What classes keep themselves: the operations of their values, which need a value, and the places
  of their fields.

  * `ValueClass.operations`: the operations, with the class that they come from and what they lack
    when they are asked of the class;
  * `ValueClass.fields`, `ValueClass.ownFields`: the names of the fields of its values, and of those
    that no other class declares;
  * `ValueClass.memberKind?`: the kind of what a class keeps under the name of a field.
-/
import Caret.Value

namespace Caret.ValueClass

/-- An operation that needs a value, asked of a class. -/
structure Operation where
  /-- The name of the operation. -/
  name : Text
  /-- The name of the class that it comes from. -/
  owner : Text
  /-- What it lacks: the value, or if another value was given, which takes this place, the
      other one. -/
  lacking : Text

/-- Operations of one class with what each of them lacks. -/
def ownedBy (owner : Text) (operations : List (Text × Text)) : List Operation :=
  operations.map fun (name, lacking) => ⟨name, owner, lacking⟩

/-- The operations of byte indices, and of positions as such. -/
def indexOperations : List (Text × Text) :=
  [("add", "other"), ("saturating_sub", "other")]

/-- The operations of positions with rows and columns. -/
def rowOperations : List (Text × Text) :=
  [("add", "other"), ("saturating_sub", "other"), ("as_tuple", "self"), ("gnu_row_column", "self")]

/-- The operations of composites. -/
def compositeOperations : List (Text × Text) :=
  [("add", "other"), ("saturating_sub", "other"), ("gnu_row_column", "self"),
    ("with_checked", "checked"), ("check_consistency", "self"), ("check_comparable", "other")]

/-- The operations of ranges. -/
def rangeOperations : List (Text × Text) :=
  [("len", "self"), ("is_empty", "self"), ("start_point", "self"), ("end_point", "self"),
    ("contains", "position"), ("contains_inclusive", "position"), ("covers", "other"),
    ("overlaps", "other"), ("intersect", "other"), ("cover", "other"),
    ("cover_position", "position"), ("to_lsp", "self")]

/-- The operations that only rows and columns in UTF-16 have. -/
def editorOperations : List (Text × Text) :=
  [("to_lsp", "self")]

/-- The operations that the values of a class have. -/
def operations (c : ValueClass) : List Operation :=
  match c with
  | kind .byteIndex | position => ownedBy c.name indexOperations
  | kind (.rowColumn .utf16) =>
    ownedBy c.name editorOperations ++ ownedBy rowColumn.name rowOperations
  | kind (.rowColumn .utf8) | rowColumn => ownedBy rowColumn.name rowOperations
  | kind .composite => ownedBy c.name compositeOperations
  | range | rangeOf _ => ownedBy c.name rangeOperations
  | int | text => []

/-- The names of the fields that the values of a class have. -/
def fields : ValueClass → List Text
  | kind .byteIndex => ["index"]
  | kind (.rowColumn _) | rowColumn => ["row", "column"]
  | kind .composite => ["index", "utf8", "utf16", "checked"]
  | range | rangeOf _ => ["start", "end"]
  | position | int | text => []

/-- The names of the fields that a class declares itself: those of rows and columns are declared
    without a unit. -/
def ownFields : ValueClass → List Text
  | kind (.rowColumn _) => []
  | c => c.fields

/-- The kind of what a class keeps under a name: what marks the place of a field, or an operation of
    texts that has the name of a field. -/
def memberKind? (c : ValueClass) (name : Text) : Option Text :=
  if c.fields.contains name then some "member_descriptor"
  else if c = text ∧ name = "index" then some "method_descriptor"
  else none

end Caret.ValueClass
