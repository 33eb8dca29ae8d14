import Sluice.Document.Toml.Statement
import Sluice.Document.Tree

/-! Tables from the sections of a TOML text. A table is made once: by its own header, by a dotted key, or for the sake of
tables below it; only the last kind may still get a header of its own, and a value never becomes a table. -/

set_option autoImplicit false

namespace Sluice.Toml

/-- What made a table. -/
inductive Origin where
  | header
  /-- A header of a table below it. -/
  | implied
  | dotted
  deriving DecidableEq, Repr

inductive Item where
  | value (document : Document)
  | table (origin : Origin) (fields : List (String × Item))
  /-- The tables of an array, each of which a header made. -/
  | elements (tables : List (List (String × Item)))
  deriving Inhabited

abbrev Fields := List (String × Item)

namespace Fields

def find? (fields : Fields) (name : String) : Option Item := fields.lookup name

/-- Puts an item under a name, in the place of an old one. -/
def put (fields : Fields) (name : String) (item : Item) : Fields :=
  match fields with
  | [] => [(name, item)]
  | (other, old) :: rest => if other == name then (name, item) :: rest else (other, old) :: put rest name item

end Fields

/-- Changes the table at the end of a path and makes the tables on the way. Array elements are entered at the last
one. A dotted path enters no table that has a header. -/
def descend (dotted : Bool) (change : Origin → Fields → Option Fields) :
    List String → Origin → Fields → Option Fields
  | [], origin, fields => change origin fields
  | name :: path, _, fields =>
    match fields.find? name with
    | none => do
      let origin := if dotted then .dotted else .implied
      let inner ← descend dotted change path origin []
      return fields.put name (.table origin inner)
    | some (.value _) => none
    | some (.elements tables) => do
      let last ← tables.getLast?
      let inner ← descend dotted change path .header last
      return fields.put name (.elements (tables.dropLast ++ [inner]))
    | some (.table origin inner) =>
      if dotted && origin == .header then none
      else do
        let inner ← descend dotted change path origin inner
        return fields.put name (.table origin inner)

/-- Adds a value under a key. Only a key without a path adds to a table with a header, and only one with a path to a
table that dotted keys made. -/
def assign (fields : Fields) (path : List String) (name : String) (document : Document) : Option Fields :=
  descend true (fun origin fields =>
    if (origin == .dotted) == path.isEmpty then none
    else if (fields.find? name).isSome then none
    else some (fields.put name (.value document))) path .header fields

mutual

def Item.document : Item → Document
  | .value document => document
  | .table _ fields => .mapping (fieldDocuments fields)
  | .elements tables => .sequence (tableDocuments tables)

def fieldDocuments : List (String × Item) → List (Option String × Document)
  | [] => []
  | (name, item) :: rest => (some name, item.document) :: fieldDocuments rest

def tableDocuments : List (List (String × Item)) → List Document
  | [] => []
  | fields :: rest => .mapping (fieldDocuments fields) :: tableDocuments rest

end

def Number.document : Number → Document
  | .integer n => .integer n
  | .real x => .real x

mutual

/-- The document of a value; the keys of a table in braces must fit together. -/
def Value.document? : Value → Option Document
  | .string text => some (.text text)
  | .number n => some n.document
  | .bool b => some (.bool b)
  | .moment => some .unusable
  | .array items => (itemDocuments? items).map .sequence
  | .table pairs => (addPairs? [] pairs).map fun fields => .mapping (fieldDocuments fields)

def itemDocuments? : List Value → Option (List Document)
  | [] => some []
  | item :: rest => do
    let document ← item.document?
    let documents ← itemDocuments? rest
    return document :: documents

def addPairs? (fields : Fields) : List ((List String × String) × Value) → Option Fields
  | [] => some fields
  | ((path, name), value) :: rest => do
    let document ← value.document?
    let fields ← assign fields path name document
    addPairs? fields rest

end

/-- Adds a section to the tables of those before it. -/
def addSection? (root : Fields) (part : Section) : Option Fields :=
  match part.header with
  | .root => addPairs? root part.pairs
  | .table path name =>
    descend false (fun _ fields =>
      match fields.find? name with
      | none => (addPairs? [] part.pairs).map fun inner => fields.put name (.table .header inner)
      | some (.table .implied inner) =>
        (addPairs? inner part.pairs).map fun inner => fields.put name (.table .header inner)
      | some _ => none) path .header root
  | .element path name =>
    descend false (fun _ fields =>
      match fields.find? name with
      | none => (addPairs? [] part.pairs).map fun inner => fields.put name (.elements [inner])
      | some (.elements tables) =>
        (addPairs? [] part.pairs).map fun inner => fields.put name (.elements (tables ++ [inner]))
      | some _ => none) path .header root

def document? (text : String) : Option Document := do
  let fields ← (← sections? text).foldlM addSection? []
  return .mapping (fieldDocuments fields)

end Sluice.Toml
