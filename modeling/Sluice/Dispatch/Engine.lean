import Sluice.Dispatch.Dispatcher

/-! An HTTP/1.1 connection in front of a dispatcher. Requests are answered fully one after another. A response whose
body fails after its head is cut off, and the connection is closed: no later request reaches the dispatcher. -/

set_option autoImplicit false

namespace Sluice

structure Connection where
  dispatcher : Dispatcher
  isOpen : Bool

namespace Connection

def hostName : HeaderName := ⟨"host", by decide, by decide, by decide⟩

def defaultHost : HeaderValue := ⟨Bytes.ofText "example.com", by decide⟩

def withHost (request : Request) : Request :=
  if (request.headers.getAll hostName).isEmpty then
    { request with headers := request.headers.append hostName defaultHost }
  else request

/-- Fields that the connection itself writes. -/
def ownFields : List String := ["date", "content-length", "transfer-encoding", "connection"]

/-- Inserts a field after those whose names are not greater. -/
def insertField (field : HeaderName × HeaderValue) :
    List (HeaderName × HeaderValue) → List (HeaderName × HeaderValue)
  | [] => [field]
  | other :: rest =>
    if field.1.text < other.1.text then field :: other :: rest else other :: insertField field rest

/-- The fields of a head in the order of their names, without those of the connection. -/
def fields (headers : HeaderMap) : List (HeaderName × HeaderValue) :=
  (headers.fields.filter fun field => !ownFields.contains field.1.text).foldl
    (fun sorted field => insertField field sorted) []

/-- A response as it arrives. -/
structure Arrival where
  status : Status
  fields : List (HeaderName × HeaderValue)
  body : Bytes

/-- Whether a response to a method has no body whatever was written. -/
def isBodiless (method : String) (status : Status) : Bool :=
  method == "HEAD" || status.code == 204 || status.code == 304

/-- An interim status cannot end an exchange: a server error is sent in its place. -/
def isInterim (status : Status) : Bool := status.code < 200

/-- The bytes of readings, if none of them failed. -/
def bytesOf : List Pipe.Reading → Option Bytes
  | [] => some []
  | .chunk bytes :: rest => (bytesOf rest).map (bytes ++ ·)
  | .fault _ :: _ => none
  | .finish :: _ | .pending :: _ => some []

/-- Drops a body and lets the task behind it go on. -/
def dropBody (dispatcher : Dispatcher) (body : Source) : Dispatcher := (dispatcher.drop body).settle

/-- Sends a request and waits for the whole response; none if there is none or it was cut off. -/
def exchange (connection : Connection) (context : Context) (request : Request) :
    Option Arrival × Connection :=
  if !connection.isOpen then (none, connection)
  else
    let (reply, dispatcher) := connection.dispatcher.dispatch context (withHost request)
    -- the decorators may have dropped bodies, whose tasks go on before this one is read
    let dispatcher := dispatcher.settle
    if isInterim reply.status then
      (some ⟨.internalServerError, [], []⟩, ⟨dropBody dispatcher reply.body, false⟩)
    else if isBodiless request.method reply.status then
      (some ⟨reply.status, fields reply.headers, []⟩, ⟨dropBody dispatcher reply.body, true⟩)
    else
      let (readings, body, dispatcher) := dispatcher.readOut reply.body
      let dispatcher := dispatcher.settle
      match bytesOf readings with
      | some bytes => (some ⟨reply.status, fields reply.headers, bytes⟩, ⟨dispatcher, true⟩)
      | none => (none, ⟨dropBody dispatcher body, false⟩)

end Connection

end Sluice
