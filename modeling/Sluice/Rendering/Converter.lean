import Sluice.Rendering.Value
import Sluice.Text.Quoted

/-! Converters of values into responses, chains of them, and handlers of failures. A converter accepts a value, hands
one back for the next converter, or fails. -/

set_option autoImplicit false

namespace Sluice

inductive Conversion where
  | converted (reply : Except Fault (Reply Body))
  | fallthrough (value : Value)

structure Converter where
  outline : Text.Outline
  offer : Context → Value → Except Fault Conversion

/-- Builds the response for a failure. -/
structure FaultHandler where
  outline : Text.Outline
  reply : Context → Fault → Reply Body

namespace FaultHandler

/-- The reason phrase alone for a server error, otherwise the message. -/
def publicText (fault : Fault) : String :=
  if fault.statusCode.isServerError then fault.statusCode.reason?.getD "Error" else fault.message

/-- Answers in plain text and keeps what went wrong in the server to itself. -/
def standard : FaultHandler :=
  ⟨.atom "DefaultExceptionHandler", fun _ fault => Reply.ofText fault.statusCode (publicText fault)⟩

/-- Answers every failure with the same status and a body that names the request. -/
def uniform (name : String) (status : Status) : FaultHandler :=
  ⟨.atom name, fun context fault =>
    ⟨status, HeaderMap.empty, Body.ofText (context.requestId ++ ": " ++ fault.message)⟩⟩

end FaultHandler

abbrev Converters := List Converter

namespace Converters

/-- Offers a value to converter after converter; each is offered what the one before it handed back. -/
def offer (context : Context) : Converters → Value → Except Fault Conversion
  | [], value => .ok (.fallthrough value)
  | converter :: rest, value =>
    match converter.offer context value with
    | .ok (.fallthrough value) => offer context rest value
    | decided => decided

def unhandled (context : Context) (converters : Converters) : Fault :=
  .unhandledResult ("no converter among " ++ toString converters.length ++
    " accepted the result of request " ++ context.requestId)

/-- The response that a chain promises for a value; that no converter accepts the value is a failure. -/
def promise (context : Context) (converters : Converters) (value : Value) :
    Except Fault (Except Fault (Reply Body)) :=
  match offer context converters value with
  | .error fault => .error fault
  | .ok (.converted reply) => .ok reply
  | .ok (.fallthrough _) => .error (unhandled context converters)

/-- Converts a value: a response that is promised may still fail. -/
def convert (context : Context) (converters : Converters) (value : Value) : Except Fault (Reply Body) :=
  match promise context converters value with
  | .error fault => .error fault
  | .ok reply => reply

def outline (converters : Converters) : Text.Outline :=
  .closed "ConverterChain" [("converters", .list (converters.map Converter.outline))]

def asConverter (converters : Converters) : Converter :=
  ⟨converters.outline, fun context => converters.offer context⟩

/-- Converts a value; every failure goes to the handler of failures. -/
def render (context : Context) (converters : Converters) (handler : FaultHandler)
    (value : Except Fault Value) : Reply Body :=
  match value >>= converters.convert context with
  | .ok reply => reply
  | .error fault => handler.reply context fault

end Converters

end Sluice
