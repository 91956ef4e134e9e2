/-
  The parts of values: attributes by name, and the entries of objects by key.

  * `Value.fields`: the names of the fields of a value;
  * `Value.attributes`, `Value.get`: the attributes of a value, all of them and one;
  * `Value.assign`: the objects after a new value for an attribute;
  * `Value.entry`: the entry of an object under a key.
-/
import Caret.Value.Members
import Caret.Value.Objects

namespace Caret.Value

/-- A coordinate as a value. -/
def ofCoordinate (a : Coordinate) : Value :=
  int a.val

/-- A level of logging as a value. -/
def ofLevel : Level → Value
  | .number n => int n
  | .flag b => bool b

/-! ## Fields -/

/-- The names of the fields of error objects. -/
def reportFields : List Text :=
  ["message", "hint"]

/-- The names of the fields of records of settings. -/
def configFields : List Text :=
  ["checked", "log_level"]

/-- The names of the fields that do not change, of values that have some. -/
def frozenFields : Value → List Text
  | position p => (ValueClass.kind p.kind).fields
  | range _ => ValueClass.range.fields
  | config _ _ _ => configFields
  | _ => []

/-! ## Attributes -/

/-- Texts as a tuple. -/
def ofTexts (ts : List Text) : Value :=
  tuple (ts.map text)

/-- What values with fields, and their classes, say of themselves: the fields, those among them that
    the class declares itself, and the module that the class belongs to. -/
def declared (home : Text) (fields own : List Text) : List (Text × Value) :=
  [("__match_args__", ofTexts fields), ("__slots__", ofTexts own), ("__module__", text home)]

/-- What a class and its values say of themselves. -/
def declaredBy (c : ValueClass) : List (Text × Value) :=
  declared c.home c.fields c.ownFields

/-- The attributes of a position apart from the origin of its kind. -/
def positionAttributes : (k : Kind) → k.Place → List (Text × Value)
  | .byteIndex, p => [("index", ofCoordinate p.index)]
  | .rowColumn _, p => [("row", ofCoordinate p.row), ("column", ofCoordinate p.column)]
  | .composite, p =>
    [("index", position ⟨.byteIndex, p.index⟩), ("utf8", position ⟨.rowColumn .utf8, p.utf8⟩),
      ("utf16", position ⟨.rowColumn .utf16, p.utf16⟩), ("checked", bool p.checked),
      ("row", ofCoordinate p.utf8.row), ("column8", ofCoordinate p.utf8.column),
      ("column16", ofCoordinate p.utf16.column)]

/-- The origin of a kind as an attribute. -/
def origin (k : Kind) : Text × Value :=
  ("ZERO", position (.zero k))

/-- The attributes of an integer, which is also a fraction and a complex number. -/
def integerAttributes (n : Int) : List (Text × Value) :=
  [("real", int n), ("imag", int 0), ("numerator", int n), ("denominator", int 1)]

/-- The attributes of an error object: what it says, what it was made from, and that there is no
    other error behind it. -/
def reportAttributes (c : Contents) : List (Text × Value) :=
  ("message", c.message) :: ("hint", c.hint) :: ("args", tuple c.given) :: ("__cause__", null) ::
    ("__context__", null) :: ("__suppress_context__", bool false) :: ("__hash__", null) ::
    declared "textpos.errors" reportFields reportFields

/-- The attributes of the logger of a given name. -/
def loggerAttributes (log : Log) (name : Text) : List (Text × Value) :=
  let g := log.logger name
  [("name", text g.name), ("level", ofLevel g.level),
    ("parent", ((log.parent? name).map logger).getD null), ("root", logger Logger.rootName),
    ("propagate", bool true), ("disabled", bool false), ("filters", list none []),
    ("handlers", list none (g.handlers.map fun f => text f.written)),
    ("__module__", text "logging")]

/-- The attributes of a class, apart from those that only some classes have. -/
def classAttributes (c : ValueClass) : List (Text × Value) :=
  [("__name__", text c.name), ("__qualname__", text c.name), ("__module__", text c.home)]

/-- The attributes of a value by name. -/
def attributes (o : Objects) : Value → List (Text × Value)
  | int n => integerAttributes n
  | bool b => integerAttributes b.toInt
  | float mark x => [("real", float mark x), ("imag", float none (.finite false 0 0))]
  | list _ _ | object _ => [("__hash__", null)]
  | position p =>
    origin p.kind :: (positionAttributes p.kind p.place ++ declaredBy (.kind p.kind))
  | range r => ("start", position r.start) :: ("end", position r.stop) :: declaredBy .range
  | config _ checked level =>
    ("checked", checked) :: ("log_level", level) ::
      declared "textpos.config" configFields configFields
  | report mark _ => reportAttributes (o.contents mark)
  | logger name => loggerAttributes o.log name
  | cls (.kind k) => origin k :: (classAttributes (.kind k) ++ declaredBy (.kind k))
  | cls .rowColumn => classAttributes .rowColumn ++ declaredBy .rowColumn
  | cls .range => classAttributes .range ++ declaredBy .range
  | cls c => classAttributes c
  | _ => []

/-- The fault of asking for an attribute that a value does not have. A class has the operations of
    its values, but nothing to apply them to. -/
def lacks (v : Value) (name : Text) : Fault :=
  match v with
  | cls c =>
    match c.operations.find? (·.name = name) with
    | some o => .mismatch (.unbound o.owner name o.lacking)
    | none => .missingClassAttribute c.name name
  | v => .missingAttribute v.kindName name

/-- The attribute of a given name. -/
def get (o : Objects) (v : Value) (name : Text) : Except Fault Value :=
  match (v.attributes o).lookup name with
  | some a => .ok a
  | none => .error (v.lacks name)

/-- The objects after an attribute of `v` is assigned. An error object takes a new message or hint,
    and its other attributes, as those of loggers, are not kept. -/
def assign (o : Objects) (v : Value) (name : Text) (new : Value) : Except Fault Objects :=
  match v with
  | report mark _ =>
    let c := o.contents mark
    if name = "message" then .ok (o.withContents mark { c with message := new })
    else if name = "hint" then .ok (o.withContents mark { c with hint := new })
    else .ok o
  | logger _ => .ok o
  | position _ | range _ | config _ _ _ =>
    if v.frozenFields.contains name then .error (.frozen name) else .error (.mismatch .notAField)
  | v => .error (v.lacks name)

/-! ## Entries -/

/-- What a class answers for a key: the class of ranges takes the name of a kind of positions. -/
def classEntry (c : ValueClass) (key : Text) : Except Fault Value :=
  match c with
  | .range => .ok (cls (.rangeOf key))
  | .rangeOf _ | .position => .error (.mismatch (.notGeneric c.written))
  | c => .error (.mismatch (.classIndex c.name))

/-- The entry of an object under a key. -/
def entry (v : Value) (key : Text) : Except Fault Value :=
  match v with
  | object entries =>
    match entries.lookup key with
    | some a => .ok a
    | none => .error (.missingKey key)
  | list _ _ | tuple _ => .error (.mismatch (.sequenceIndex v.kindName))
  | text _ => .error (.mismatch .textIndex)
  | cls c => classEntry c key
  | v => .error (.mismatch (.notIndexable v.kindName))

end Caret.Value
