import Sluice.Exchange.Handler
import Sluice.Rendering.Subscription

/-! Handlers made from services. A service returns a value or fails; the value is converted into a response, and the
response is written. -/

set_option autoImplicit false

namespace Sluice

abbrev Service := Inbound → Except Fault Value

/-- A service with the converters and the handler of failures that answer for it. -/
structure Responder where
  service : Service
  converters : Converters
  faults : FaultHandler

namespace Responder

def ofService (service : Service) : Responder :=
  ⟨service, Converters.standard FaultHandler.standard, FaultHandler.standard⟩

/-- Answers failures by another handler. The converters keep the one that they were made with. -/
def withFaults (responder : Responder) (faults : FaultHandler) : Responder := { responder with faults }

def reply (responder : Responder) (request : Inbound) : Reply Body :=
  responder.converters.render request.context responder.faults (responder.service request)

/-- Adds every entry of another collection. -/
def addHeaders (headers : Headers) (others : Headers) : Headers :=
  others.entries.foldl (fun headers (name, values) => headers.addAll name values) headers

def write (reply : Reply Body) : Script (Except Fault Unit) := do
  let _ ← Script.setStatus reply.status
  match ← Script.editHeaders (addHeaders · (Headers.ofHeaderMap reply.headers)) with
  | .error fault => return .error fault
  | .ok () => Script.writeWith reply.body.chunks

def handler (responder : Responder) : Handler := fun request => write (responder.reply request)

def outline (responder : Responder) : Text.Outline :=
  .record "ConvertingHandler" [("converters", responder.converters.outline),
    ("exception", responder.faults.outline)] true

end Responder

namespace Service

/-- What is known of a request, as a JSON object. -/
def describe (request : Inbound) : Json :=
  .object [
    ("id", .string request.context.requestId),
    ("method", .string request.method),
    ("path", .string request.path),
    ("query", .array (request.queryParameters.map fun (n, v) => .array [.string n, .string v])),
    ("cookies", .array (request.cookies.values.map fun c => .string c.name)),
    ("secure", .bool request.context.isSecure),
    ("remote_addr", (request.context.remote.map fun a => Json.string a.text).getD .null)]

def collectBody (request : Inbound) : Except Fault Bytes := request.body.collect

/-- Describes a request that only asks, and sends the body of any other back. -/
def demo : Service := fun request =>
  if request.method == "GET" || request.method == "HEAD" then
    .ok (.observable [.ok (.json (describe request))])
  else (collectBody request).map .bytes

end Service

end Sluice
