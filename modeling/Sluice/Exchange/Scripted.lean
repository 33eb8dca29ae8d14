import Sluice.Exchange.Handler
import Sluice.Json.Access

/-! Handlers given as lists of steps. Each step reports its result and the state of the response after it. -/

set_option autoImplicit false

namespace Sluice.Scripted

inductive Step where
  | setStatus (code : Nat)
  | headerAdd (name value : String)
  | headerSet (name value : String)
  | headerRemove (name : String)
  | headerGet (name : String)
  | addCookie (cookie : SetCookie)
  | cookies
  | sendHeaders
  | writeWith (body : Chunks)
  | writeAndFlush (bodies : List Chunks)
  | complete (cause : Option Fault)
  | debug
  | describe
  | echo
  | secure
  | id

def Step.label : Step → String
  | .setStatus _ => "set_status"
  | .headerAdd .. => "header_add"
  | .headerSet .. => "header_set"
  | .headerRemove _ => "header_remove"
  | .headerGet _ => "header_get"
  | .addCookie _ => "add_cookie"
  | .cookies => "cookies"
  | .sendHeaders => "send_headers"
  | .writeWith _ => "write_with"
  | .writeAndFlush _ => "write_and_flush"
  | .complete _ => "complete"
  | .debug => "debug"
  | .describe => "describe"
  | .echo => "echo"
  | .secure => "secure"
  | .id => "id"

def outcome : Except Fault Unit → Json
  | .ok () => .string "ok"
  | .error fault => fault.report

def stateReport (response : Outbound) : Json :=
  .array [.string response.phase.text, .bool response.isCommitted,
    Json.option (fun s => .nat s.code) response.status]

/-- Performs a step: its result, and the request with what is left of its body. -/
def Step.perform (request : Inbound) : Step → Script (Json × Inbound)
  | .setStatus code =>
    match Status.ofCode? code with
    | none => return ((Fault.part .statusCode).report, request)
    | some status => return (.bool (← Script.setStatus status), request)
  | .headerAdd name value => return (outcome (← Script.editHeaders (·.add name value)), request)
  | .headerSet name value => return (outcome (← Script.editHeaders (·.set name value)), request)
  | .headerRemove name => do
    let (removed, _) := (← Script.look).headers.remove name
    match ← Script.editHeaders fun headers => (headers.remove name).2 with
    | .ok () => return (Json.texts removed, request)
    | .error fault => return (fault.report, request)
  | .headerGet name => return (Json.texts ((← Script.look).headers.getAll name), request)
  | .addCookie cookie => return (outcome (← Script.addCookie cookie), request)
  | .cookies => do
    let cookies := (← Script.look).cookies.values
    return (.array (cookies.map fun c => Json.texts [c.name, c.value]), request)
  | .sendHeaders => return (outcome (← Script.sendHeaders), request)
  | .writeWith body => return (outcome (← Script.writeWith body), request)
  | .writeAndFlush bodies => return (outcome (← Script.writeAndFlushWith bodies), request)
  | .complete cause => do
    Script.setComplete cause
    return (.string "ok", request)
  | .debug => return (.string (← Script.look).outline.render, request)
  | .describe => do
    let line := request.method ++ " " ++ request.path
    return (outcome (← Script.writeWith [.ok (Bytes.ofText line)]), request)
  | .echo => do
    let (body, request) := request.takeBody
    return (outcome (← Script.writeWith body), request)
  | .secure => return (.bool request.context.isSecure, request)
  | .id => return (.string request.context.requestId, request)

/-- Performs steps in order, noting each with its result and the state after it. -/
def runSteps (request : Inbound) : List Step → Script Unit
  | [] => return ()
  | step :: rest => do
    let (result, request) ← step.perform request
    let response ← Script.look
    Script.note ⟨step.label, [result, stateReport response]⟩
    runSteps request rest

/-- The handler of a list of steps; a failing step does not end it. -/
def handler (steps : List Step) (failure : Option Fault) : Handler := fun request => do
  runSteps request steps
  return match failure with
    | none => .ok ()
    | some fault => .error fault

end Sluice.Scripted
