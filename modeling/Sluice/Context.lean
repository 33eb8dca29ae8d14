import Sluice.Address
import Sluice.Text.Utf8
import Sluice.Json.Value

/-! What is known of a request besides the message: its id, the connection it came over, and metadata that
decorators attach. Contexts are values, so a copy never sees a later change of another. -/

set_option autoImplicit false

namespace Sluice

/-- A negotiated TLS session as taken after the handshake. -/
structure Session where
  protocol : Option String
  cipherSuite : Option String
  alpnProtocol : Option String
  serverName : Option String
  peerCertificates : List Bytes
  deriving DecidableEq, Repr

def Session.hasPeerCertificates (session : Session) : Bool := !session.peerCertificates.isEmpty

structure Context where
  requestId : String
  remote : Option SocketAddress
  accepted : Option SocketAddress
  session : Option Session
  rpcMethod : Option String
  metadata : List (String × Json)

namespace Context

/-- The context of a request about which nothing is known. -/
def ofId (requestId : String) : Context := ⟨requestId, none, none, none, none, []⟩

instance : Inhabited Context := ⟨ofId ""⟩

def isSecure (context : Context) : Bool := context.session.isSome

def metadata? (context : Context) (key : String) : Option Json :=
  (context.metadata.find? (·.1 == key)).map (·.2)

def setMetadata (context : Context) (key : String) (value : Json) : Context :=
  { context with metadata := Json.setField key value context.metadata }

def withAddresses (context : Context) (remote accepted : SocketAddress) : Context :=
  { context with remote := some remote, accepted := some accepted }

def withSession (context : Context) (session : Session) : Context :=
  { context with session := some session }

end Context

/-! Request ids: random 128-bit numbers with the version and variant bits of a random UUID. -/
namespace RequestId

def hexDigits (count n : Nat) : List Char :=
  (List.range count).map fun i => Bytes.hexDigit (n / Nat.pow 16 (count - 1 - i) % 16)

def ofRandom (random : Nat) : String :=
  let digits := hexDigits 32 random
  let part (start count : Nat) := (digits.drop start).take count
  let variant := Bytes.hexDigit (8 + random / Nat.pow 16 15 % 4)
  String.ofList (part 0 8 ++ ['-'] ++ part 8 4 ++ ['-', '4'] ++ part 13 3 ++ ['-', variant] ++ part 17 3 ++
    ['-'] ++ part 20 12)

def isLowerHex (c : Char) : Bool := Ascii.isDigit c || ('a' ≤ c && c ≤ 'f')

/-- Whether a text is a lower-case random UUID. -/
def isValid (text : String) : Bool :=
  let cs := text.toList
  cs.length == 36 &&
    (cs.zipIdx.all fun (c, i) =>
      if i == 8 || i == 13 || i == 18 || i == 23 then c == '-'
      else if i == 14 then c == '4'
      else if i == 19 then ['8', '9', 'a', 'b'].contains c
      else isLowerHex c)

end RequestId

end Sluice
