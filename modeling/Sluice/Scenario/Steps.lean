import Sluice.Chain.Scripted
import Sluice.Exchange.Relay
import Sluice.Exchange.Scripted
import Sluice.Scenario.Parts
import Sluice.Scenario.Report

/-! Descriptions of scripts, of orders to a writer and of chains of decorators. -/

set_option autoImplicit false

namespace Sluice.Scenario

def chunkLists (json : Json) : List Chunks := json.asList.map chunks

def scriptStep? (step : Json) : Option Scripted.Step :=
  let name := step.str "name"
  let value := step.str "value"
  match step.str "do" with
  | "set_status" => some (.setStatus (step.natOr "status" 0))
  | "header_add" => some (.headerAdd name value)
  | "header_set" => some (.headerSet name value)
  | "header_remove" => some (.headerRemove name)
  | "header_get" => some (.headerGet name)
  | "add_cookie" => some (.addCookie (setCookie (step.get "cookie")))
  | "cookies" => some .cookies
  | "send_headers" => some .sendHeaders
  | "write_with" => some (.writeWith (chunks (step.get "chunks")))
  | "write_and_flush" => some (.writeAndFlush (chunkLists (step.get "bodies")))
  | "complete" => some (.complete (fault? (step.get "error")))
  | "debug" => some .debug
  | "describe" => some .describe
  | "echo" => some .echo
  | "secure" => some .secure
  | "id" => some .id
  | _ => none

def order? (step : Json) : Option Relay.Order :=
  match step.str "do" with
  | "write_headers" => some (.head (step.natOr "status" 200) (pairs (step.get "headers")))
  | "write_data" => some (.call (.data (bytes (step.get "data"))))
  | "close" => some (.call .close)
  | "close_with" => some (.call (.closeWith (fault (step.get "error"))))
  | "is_open" => some .isOpen
  | "debug" => some .outline
  | "drop" => some .release
  | _ => none

/-- A single-precision number, given as a number or as text. -/
def single : Json → Binary
  | .int n => Binary.ofDecimal .single (n < 0) n.natAbs 0
  | .real x => x.convert .single
  | .string s => (Decimal.binary? .single s.toList).getD .nan
  | _ => .nan

def tracing (spec : Json) : Tracing :=
  ⟨spec.str "service", match spec.get "rate" with
    | .null => .always
    | rate => .ofRate (single rate)⟩

def action (spec : Json) : Scripted.Action :=
  match spec.str "do" with
  | "reject" => .reject (fault (spec.get "error"))
  | "respond" => .respond (replySpec (spec.get "response"))
  | "request_header" => .addField (spec.str "name") (bytes (spec.get "value"))
  | "recover" => .recover
  | "twice" => .twice
  | "rpc_method" => .setMethod (spec.str "value")
  | "after_error" => .failAfter (fault (spec.get "error"))
  | _ => .tag

def layer (spec : Json) : Scripted.Layer :=
  match spec.str "do" with
  | "tracing" => .traced (tracing spec)
  | _ => .noting (spec.str "tag") (action spec)

def stack (specs : Json) : List (Decorator Flow (Reply Source)) :=
  specs.asList.map fun spec => (layer spec).decorator

/-- A handler that notes its request and gives a fixed answer. -/
def fixedHandler (spec : Json) (request : Request) : Flow Outcome := do
  Flow.note ⟨"handler", [.string request.method, ofHeaderMap request.headers]⟩
  return match spec.field? "error" with
    | some cause => .error (fault cause)
    | none => .ok ((replySpec spec).map .frames)

end Sluice.Scenario
