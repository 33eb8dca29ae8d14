import Sluice.Http.Message

/-! What a service can return. A value has a kind, and converters go by the kind alone. -/

set_option autoImplicit false

namespace Sluice

inductive Value where
  | unit
  | text (s : String)
  | literal (s : String)
  | bytes (b : Bytes)
  | octets (b : Bytes)
  | json (value : Json)
  | jsonList (values : List Json)
  | list (items : List Value)
  | reply (reply : Reply Body)
  /-- Items emitted one after another, any of which may be a failure. -/
  | observable (signals : List (Except Fault Value))
  | natural (n : Nat)
  | real
  /-- A value inside another box. -/
  | boxed (content : Value)
  | foreign

instance : Inhabited Value := ⟨.unit⟩

namespace Value

inductive Kind where
  | unit | text | literal | bytes | octets | json | jsonList | list | reply | observable
  | natural | real | boxed | foreign
  deriving DecidableEq, Repr

def kind : Value → Kind
  | .unit => .unit
  | .text _ => .text
  | .literal _ => .literal
  | .bytes _ => .bytes
  | .octets _ => .octets
  | .json _ => .json
  | .jsonList _ => .jsonList
  | .list _ => .list
  | .reply _ => .reply
  | .observable _ => .observable
  | .natural _ => .natural
  | .real => .real
  | .boxed _ => .boxed
  | .foreign => .foreign

end Value

end Sluice
