import Sluice.Document.Tree

/-! Readers of single values, lists and records from documents. What a scalar means is decided by the reader: a flag,
a number or a text. A record is read from a mapping, in which unknown names are ignored and known names must
not repeat; some notations also admit a sequence of its values in order. -/

set_option autoImplicit false

namespace Sluice.Document

/-- How a notation treats records written as sequences. -/
inductive RecordSequences where
  | refused
  /-- Values after the last field are an error. -/
  | exact
  /-- Values after the last field are ignored. -/
  | open
  deriving DecidableEq, Repr

abbrev Reader (α : Type) := Document → Option α

def flagWord? (word : String) : Option Bool :=
  if word == "true" || word == "True" || word == "TRUE" then some true
  else if word == "false" || word == "False" || word == "FALSE" then some false
  else none

def flag? : Reader Bool
  | .bool b => some b
  | .scalar s => if s.mayBe "bool" then flagWord? s.value else none
  | _ => none

/-- Digits of a base, at least one. -/
def digits? (base : Nat) (text : List Char) : Option Nat :=
  let value (c : Char) : Option Nat := (Ascii.hexValue? c).bind fun v => if v < base then some v else none
  if text.isEmpty then none
  else text.foldlM (fun n c => (value c).map (base * n + ·)) 0

/-- A number with leading zeros is not decimal. -/
def hasLeadingZero (digits : List Char) : Bool :=
  1 < digits.length && digits.head? == some '0' && digits.all Ascii.isDigit

/-- The magnitude of a word after its sign. -/
def magnitude? : List Char → Option Nat
  | '0' :: 'x' :: rest => digits? 16 rest
  | '0' :: 'o' :: rest => digits? 8 rest
  | '0' :: 'b' :: rest => digits? 2 rest
  | digits => if hasLeadingZero digits then none else digits? 10 digits

/-- A natural number written as a bare word; a minus sign never stands before one. -/
def naturalWord? (word : String) : Option Nat :=
  match word.toList with
  | '+' :: rest => magnitude? rest
  | digits => magnitude? digits

def natural? (bound : Nat) (document : Document) : Option Nat :=
  match document with
  | .integer n => if 0 ≤ n && n ≤ bound then some n.toNat else none
  | .scalar s =>
    match naturalWord? s.value with
    | some n => if s.mayBe "int" && n ≤ bound then some n else none
    | none => none
  | _ => none

def infiniteWord? (word : String) : Option Binary :=
  if [".inf", ".Inf", ".INF", "+.inf", "+.Inf", "+.INF"].contains word then some (.infinite false)
  else if ["-.inf", "-.Inf", "-.INF"].contains word then some (.infinite true)
  else if [".nan", ".NaN", ".NAN"].contains word then some .nan
  else none

/-- A double written as a bare word; numerals beyond the format do not count. -/
def doubleWord? (word : String) : Option Binary :=
  match infiniteWord? word with
  | some x => some x
  | none =>
    match Decimal.numeral? word.toList with
    | none => none
    | some numeral =>
      match numeral.toBinary .double with
      | .finite s m e => some (.finite s m e)
      | _ => none

/-- A single-precision number, from any number. -/
def single? : Reader Binary
  | .integer n => some (Binary.round .single (n < 0) n.natAbs 1)
  | .real x => some (x.convert .single)
  | .scalar s => if s.mayBe "float" then (doubleWord? s.value).map (·.convert .single) else none
  | _ => none

def text? : Reader String
  | .text s => some s
  | .scalar s => some s.value
  | _ => none

/-- Whether a scalar stands for nothing; none if its tag says so and its value does not. -/
def isAbsent? (scalar : Scalar) : Option Bool :=
  if scalar.style != .plain then some false
  else match scalar.tag with
    | none => some (scalar.value.isEmpty || Scalar.isNullWord scalar.value)
    | some tag =>
      if tag != Scalar.commonTag "null" then some false
      else if Scalar.isNullWord scalar.value then some true
      else none

def optional? {α : Type} (read : Reader α) : Reader (Option α)
  | .null | .void => some none
  | .scalar s => do if ← isAbsent? s then some none else (read (.scalar s)).map some
  | document => (read document).map some

/-- A list; a missing value is an empty list. -/
def list? {α : Type} (read : Reader α) : Reader (List α)
  | .sequence items => items.mapM read
  | .void => some []
  | .scalar s => if s.isMissing then some [] else none
  | _ => none

/-- The value of a known name; a second one is an error. -/
def lookUp? (fields : List (String × Document)) (name : String) : Option (Option Document) :=
  match fields.filter (·.1 == name) with
  | [] => some none
  | [(_, value)] => some (some value)
  | _ => none

/-- The values of a record's fields in the order of their names, each absent or present. -/
def fields? (rule : RecordSequences) (names : List String) (document : Document) :
    Option (List (Option Document)) :=
  match document with
  | .mapping fields => do
    let fields ← fields.mapM fun (name, value) => name.map (·, value)
    names.mapM (lookUp? fields)
  | .sequence items =>
    match rule with
    | .refused => none
    | .exact =>
      if names.length < items.length then none
      else some (items.map some ++ List.replicate (names.length - items.length) none)
    | .open => some ((items.map some ++ List.replicate names.length none).take names.length)
  | .void => some (names.map fun _ => none)
  | .scalar s => if s.isMissing then some (names.map fun _ => none) else none
  | _ => none

/-- The value of a field, or what it is without one. -/
def orElse? {α : Type} (fallback : α) (read : Reader α) : Option Document → Option α
  | none => some fallback
  | some document => read document

end Sluice.Document
