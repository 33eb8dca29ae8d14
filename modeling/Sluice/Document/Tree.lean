import Sluice.Json.Value

/-! Documents in the form that settings are read from, whatever the notation. -/

set_option autoImplicit false

namespace Sluice

inductive ScalarStyle where
  | plain
  | literal
  | quoted
  deriving DecidableEq, Repr

/-- A scalar whose meaning depends on where it stands. -/
structure Scalar where
  value : String
  style : ScalarStyle
  tag : Option String
  deriving DecidableEq, Repr

namespace Scalar

/-- The tag of one of the common types. -/
def commonTag (type : String) : String := "tag:yaml.org,2002:" ++ type

/-- Whether a scalar may be read as a value of a common type: a bare word, or a literal text with its tag. -/
def mayBe (type : String) (scalar : Scalar) : Bool :=
  match scalar.style with
  | .plain => true
  | .literal => scalar.tag == some (commonTag type)
  | .quoted => false

/-- A bare word of no characters stands where a value was left out. -/
def isMissing (scalar : Scalar) : Bool := scalar.style == .plain && scalar.value.isEmpty

def isNullWord (word : String) : Bool := word == "null" || word == "Null" || word == "NULL" || word == "~"

/-- The name that a tag with an exclamation mark in front gives. -/
def ownTag? (scalar : Scalar) : Option String :=
  match scalar.tag.map String.toList with
  | some ('!' :: name) => some (String.ofList name)
  | _ => none

end Scalar

inductive Document where
  | null
  | bool (value : Bool)
  | integer (value : Int)
  | real (value : Binary)
  | text (value : String)
  | scalar (scalar : Scalar)
  | sequence (items : List Document)
  /-- A field whose name is not a text has none. -/
  | mapping (fields : List (Option String × Document))
  /-- Nothing at all. -/
  | void
  /-- A value that no setting takes. -/
  | unusable
  deriving Inhabited

namespace Document

def ofNumeral (numeral : Decimal.Numeral) : Document :=
  match Json.ofNumeral? numeral with
  | some (.int n) => .integer n
  | some (.real x) => .real x
  | _ => .unusable

mutual

def ofTree : Json.Tree → Document
  | .null => .null
  | .bool b => .bool b
  | .number numeral => ofNumeral numeral
  | .string (some s) => .text s
  | .string none => .unusable
  | .array items => .sequence (ofItems items)
  | .object fields => .mapping (ofFields fields)

def ofItems : List Json.Tree → List Document
  | [] => []
  | item :: rest => ofTree item :: ofItems rest

def ofFields : List (Option String × Json.Tree) → List (Option String × Document)
  | [] => []
  | (name, item) :: rest => (name, ofTree item) :: ofFields rest

end

mutual

def ofJson : Json → Document
  | .null => .null
  | .bool b => .bool b
  | .int n => .integer n
  | .real x => .real x
  | .string s => .text s
  | .array items => .sequence (ofJsonItems items)
  | .object fields => .mapping (ofJsonFields fields)

def ofJsonItems : List Json → List Document
  | [] => []
  | item :: rest => ofJson item :: ofJsonItems rest

def ofJsonFields : List (String × Json) → List (Option String × Document)
  | [] => []
  | (name, item) :: rest => (some name, ofJson item) :: ofJsonFields rest

end

end Document

end Sluice
