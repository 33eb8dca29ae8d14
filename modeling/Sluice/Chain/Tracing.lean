import Sluice.Chain.Flow

/-! The tracing decorator. A sampled request gets a span, a mark when it is received and one when its response is
known, and the status of what the rest of the chain came to. The outcome itself is passed on as it is. -/

set_option autoImplicit false

namespace Sluice

inductive Sampler where
  | always
  | never
  | rate (bound : Binary)
  deriving DecidableEq, Repr

namespace Sampler

/-- The sampler of a rate; at and beyond the ends nothing is left to chance. -/
def ofRate (rate : Binary) : Sampler :=
  if Binary.le Binary.one rate then .always
  else if Binary.le rate (Binary.zero false) || rate == .nan then .never
  else .rate rate

/-- The decision for a random number from 0 up to and without 1. -/
def accepts (draw : Binary) : Sampler → Bool
  | .always => true
  | .never => false
  | .rate bound => Binary.lt draw bound

def outline : Sampler → Text.Outline
  | .always => .atom "Always"
  | .never => .atom "Never"
  | .rate bound => .wrapped "Rate" (.atom (bound.outlineText .single))

/-- Decides for one request; a random number is drawn only for a rate. -/
def sample : Sampler → Flow Bool
  | .rate bound => return Sampler.accepts (← Flow.draw) (.rate bound)
  | .always => return true
  | .never => return false

end Sampler

structure Tracing where
  service : String
  sampler : Sampler

namespace Tracing

/-- A span goes by the remote method of the request, or by its HTTP method. -/
def spanName (request : Request) : String :=
  (request.context.bind (·.rpcMethod)).getD request.method

def span (tracing : Tracing) (request : Request) : Span :=
  ⟨spanName request, tracing.service, request.uri.pathText, none⟩

def decorator (tracing : Tracing) : Decorator Flow (Reply Source) := fun request next => do
  if ← tracing.sampler.sample then
    let index ← Flow.openSpan (tracing.span request)
    Flow.mark .received
    let outcome ← next.run request
    Flow.record index (Outcome.status outcome)
    Flow.mark .sent
    return outcome
  else next.run request

def outline (tracing : Tracing) : Text.Outline :=
  .closed "HttpTracingService" [("service_name", .text tracing.service), ("sampler", tracing.sampler.outline)]

end Tracing

end Sluice
