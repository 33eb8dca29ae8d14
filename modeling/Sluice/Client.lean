import Sluice.Http.Message

/-! Requests of clients that look for every host on this machine. -/

set_option autoImplicit false

namespace Sluice.Client

/-- Why a client gets no answer. -/
inductive Failure where
  | invalid (cause : PartFault)
  | unreachable
  deriving DecidableEq, Repr

def Failure.message : Failure → String
  | .invalid cause => cause.message
  | .unreachable => "connect failed"

/-- Every name leads to this machine; the port is left open. -/
def resolve (_name : String) : List SocketAddress := [⟨.v4 [127, 0, 0, 1], 0, 0⟩]

/-- The target of a request. The path follows the port as it is, so it may run on from it. -/
def target (port : Nat) (path : String) : String := "http://example.com:" ++ toString port ++ path

def request (method : String) (port : Nat) (path : String) (body : Bytes) : Except Failure Request :=
  match Request.build method (target port path) "HTTP/1.1" [] (Body.full body) with
  | .ok request => .ok request
  | .error (.part cause) => .error (.invalid cause)
  | .error _ => .error .unreachable

end Sluice.Client
