import Sluice.Context
import Sluice.Http.HeaderMap
import Sluice.Http.Uri

/-! Requests and responses as messages. A body is a sequence of frames; a failing body has a fault among them. -/

set_option autoImplicit false

namespace Sluice

inductive Frame where
  | data (bytes : Bytes)
  | trailers (fields : HeaderMap)
  | fault (cause : Fault)

abbrev Body := List Frame

/-- A stream of chunks, some of which may be failures. -/
abbrev Chunks := List (Except Fault Bytes)

namespace Body

def empty : Body := []

/-- A body of one chunk; no bytes make no chunk. -/
def full (bytes : Bytes) : Body := if bytes.isEmpty then [] else [.data bytes]

def ofText (text : String) : Body := full (Bytes.ofText text)

/-- The chunks of a body; trailers are skipped. -/
def chunks (body : Body) : Chunks :=
  body.filterMap fun
    | .data bytes => some (.ok bytes)
    | .trailers _ => none
    | .fault cause => some (.error cause)

/-- All bytes of a body, or its first failure. -/
def collect (body : Body) : Except Fault Bytes :=
  (body.chunks.mapM id).map List.flatten

end Body

structure Request where
  method : String
  uri : Uri
  version : String
  headers : HeaderMap
  body : Body
  context : Option Context

namespace Request

def isMethod (text : String) : Bool := !text.toList.isEmpty && text.toList.all Ascii.isTokenChar

/-- Builds a request from its parts; of several bad ones the first is reported. -/
def build (method uri version : String) (fields : List (String × Bytes)) (body : Body) :
    Except Fault Request :=
  if !isMethod method then .error (.part .method)
  else match Uri.ofText? uri with
    | .error cause => .error (.part (.uri cause))
    | .ok uri =>
      match HeaderMap.ofFields fields with
      | .error cause => .error (.part cause)
      | .ok headers => .ok ⟨method, uri, version, headers, body, none⟩

end Request

structure Reply (β : Type) where
  status : Status
  headers : HeaderMap
  body : β

namespace Reply

variable {β : Type}

def map {γ : Type} (f : β → γ) (reply : Reply β) : Reply γ :=
  ⟨reply.status, reply.headers, f reply.body⟩

/-- Builds a response; the content type comes before the given headers. -/
def build (status : Status) (contentType : Option String) (fields : List (String × Bytes)) (body : β) :
    Except Fault (Reply β) :=
  let typed := match contentType with
    | some text => [("content-type", Bytes.ofText text)]
    | none => []
  match HeaderMap.ofFields (typed ++ fields) with
  | .error cause => .error (.part cause)
  | .ok headers => .ok ⟨status, headers, body⟩

def plainText : String := "text/plain; charset=utf-8"

def octetStream : String := "application/octet-stream"

def json : String := "application/json"

/-- A header map of one value that is a known legal text. -/
def typedHeaders (text : String) : HeaderMap :=
  match HeaderValue.ofText? text with
  | some value => HeaderMap.empty.append .contentType value
  | none => HeaderMap.empty

def ofText (status : Status) (text : String) : Reply Body :=
  ⟨status, typedHeaders plainText, Body.ofText text⟩

def ofBytes (status : Status) (bytes : Bytes) : Reply Body :=
  ⟨status, typedHeaders octetStream, Body.full bytes⟩

def ofJson (status : Status) (value : Json) : Reply Body :=
  ⟨status, typedHeaders json, Body.ofText value.text⟩

def noContent : Reply Body := ⟨.noContent, HeaderMap.empty, []⟩

def badRequest (message : String) : Reply Body := ofText .badRequest message

end Reply

end Sluice
