import Sluice.Rendering.Converter

/-! The five converters of plain values. -/

set_option autoImplicit false

namespace Sluice

namespace Converter

/-- A converter that never fails: it accepts a value or hands it back as it is. -/
def accepting (name : String) (accept? : Value → Option (Reply Body)) : Converter :=
  ⟨.atom name, fun _ value => .ok (match accept? value with
    | some reply => .converted (.ok reply)
    | none => .fallthrough value)⟩

def replyOfReply? : Value → Option (Reply Body)
  | .reply reply => some reply
  | _ => none

def replyOfUnit? : Value → Option (Reply Body)
  | .unit => some Reply.noContent
  | _ => none

def replyOfText? : Value → Option (Reply Body)
  | .text s | .literal s => some (Reply.ofText .ok s)
  | _ => none

def replyOfBytes? : Value → Option (Reply Body)
  | .bytes b | .octets b => some (Reply.ofBytes .ok b)
  | _ => none

/-- Whether an item of a list is of a kind that has a JSON form. -/
def isJsonItem (item : Value) : Bool := item.kind == .json || item.kind == .text || item.kind == .literal

/-- The JSON form of an item; null stands for an item of any other kind. -/
def jsonItem : Value → Json
  | .json value => value
  | .text s | .literal s => .string s
  | _ => .null

/-- JSON values, and lists all of whose items have a JSON form. -/
def replyOfJson? : Value → Option (Reply Body)
  | .json value => some (Reply.ofJson .ok value)
  | .jsonList values => some (Reply.ofJson .ok (.array values))
  | .list items =>
    if items.all isJsonItem then some (Reply.ofJson .ok (.array (items.map jsonItem))) else none
  | _ => none

def passthrough : Converter := accepting "ResponsePassthroughConverter" replyOfReply?

def unit : Converter := accepting "UnitResponseConverter" replyOfUnit?

def text : Converter := accepting "StringResponseConverter" replyOfText?

def bytes : Converter := accepting "BytesResponseConverter" replyOfBytes?

def json : Converter := accepting "JsonResponseConverter" replyOfJson?

end Converter

namespace Converters

def builtin : Converters :=
  [Converter.passthrough, Converter.unit, Converter.text, Converter.bytes, Converter.json]

end Converters

end Sluice
