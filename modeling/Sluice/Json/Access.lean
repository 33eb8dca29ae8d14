import Sluice.Json.Value

/-! Access to the parts of JSON values that are expected to have a shape. What has another shape reads as nothing. -/

set_option autoImplicit false

namespace Sluice.Json

def asText? : Json → Option String
  | .string s => some s
  | _ => none

def asText (json : Json) : String := json.asText?.getD ""

def asList : Json → List Json
  | .array items => items
  | _ => []

def asNat? : Json → Option Nat
  | .int n => if 0 ≤ n then some n.toNat else none
  | _ => none

/-- A field; a missing one is null. -/
def get (json : Json) (name : String) : Json := (json.field? name).getD .null

def str? (json : Json) (name : String) : Option String := (json.get name).asText?

def str (json : Json) (name : String) : String := (json.get name).asText

def strOr (json : Json) (name fallback : String) : String := (json.str? name).getD fallback

def list (json : Json) (name : String) : List Json := (json.get name).asList

def nat? (json : Json) (name : String) : Option Nat := (json.get name).asNat?

def natOr (json : Json) (name : String) (fallback : Nat) : Nat := (json.nat? name).getD fallback

def flag (json : Json) (name : String) : Bool :=
  match json.get name with
  | .bool b => b
  | _ => false

def isNull : Json → Bool
  | .null => true
  | _ => false

def texts (values : List String) : Json := .array (values.map .string)

def option {α : Type} (write : α → Json) : Option α → Json
  | none => .null
  | some a => write a

end Sluice.Json
