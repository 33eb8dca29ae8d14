import Sluice.Chain.Tracing

/-! Decorators given as data. Each notes that it is entered, with what follows it in the chain, and what came of
it. -/

set_option autoImplicit false

namespace Sluice.Scripted

inductive Action where
  /-- Adds a field with the tag to a successful response. -/
  | tag
  | reject (cause : Fault)
  | respond (reply : Reply Body)
  | addField (name : String) (value : Bytes)
  /-- Turns a failure into a plain response. -/
  | recover
  /-- Runs the rest for a probe before it runs it for the request. -/
  | twice
  | setMethod (name : String)
  | failAfter (cause : Fault)

/-- A decorator of a stack: a noting one with its tag, or a tracing one. -/
inductive Layer where
  | noting (tag : String) (action : Action)
  | traced (tracing : Tracing)

def tagged (tag : String) (reply : Reply Source) : Except Fault (Reply Source) :=
  match reply.headers.appendRaw "x-tag" (Bytes.ofText tag) with
  | .ok headers => .ok { reply with headers }
  | .error cause => .error (.part cause)

def probe : Request := ⟨"PROBE", ⟨none, none, "/", none⟩, "HTTP/1.1", HeaderMap.empty, [], none⟩

def Action.perform (tag : String) (request : Request) (next : Next Flow (Reply Source)) :
    Action → Flow Outcome
  | .tag => do
    match ← next.run request with
    | .ok reply => return tagged tag reply
    | .error fault => return .error fault
  | .reject cause => return .error cause
  | .respond reply => return .ok (reply.map .frames)
  | .addField name value => do
    match request.headers.appendRaw name value with
    | .ok headers => next.run { request with headers }
    | .error cause => return .error (.part cause)
  | .recover => do
    match ← next.run request with
    | .ok reply => return .ok reply
    | .error fault => return .ok ((Reply.ofText fault.statusCode fault.message).map .frames)
  | .twice => do
    let first ← next.run probe
    Flow.note ⟨"first", [.string tag, .nat (Outcome.status first).code]⟩
    let outcome ← next.run request
    Flow.release first
    return outcome
  | .setMethod name =>
    let context := { request.context.getD (Context.ofId "") with rpcMethod := some name }
    next.run { request with context := some context }
  | .failAfter cause => do
    match ← next.run request with
    | .ok reply =>
      Flow.discard reply.body
      return .error cause
    | .error fault => return .error fault

def isOk : Outcome → Bool
  | .ok _ => true
  | .error _ => false

def Layer.decorator : Layer → Decorator Flow (Reply Source)
  | .traced tracing => tracing.decorator
  | .noting tag action => fun request next => do
    Flow.note ⟨"enter", [.string tag, .string request.method, .string next.outline.render]⟩
    let outcome ← action.perform tag request next
    Flow.note ⟨"exit", [.string tag, .nat (Outcome.status outcome).code, .bool (isOk outcome)]⟩
    return outcome

end Sluice.Scripted
