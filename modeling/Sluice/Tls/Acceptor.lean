import Sluice.Context
import Sluice.Tls.Credentials
import Sluice.Tls.Validation

/-! Acceptors of TLS connections: how they are made from settings, and what they agree on with a peer. -/

set_option autoImplicit false

namespace Sluice

/-- The check of the certificates of clients. -/
structure ClientVerifier where
  roots : List Bytes
  isRequired : Bool
  deriving DecidableEq, Repr

structure TlsAcceptor where
  protocols : List Protocol
  suites : List Suite
  verifier : Option ClientVerifier
  key : KeyKind
  isSelfSigned : Bool
  deriving DecidableEq, Repr

/-- What a peer offers at the start of a connection. The name is that of the host it asks for. -/
structure Hello where
  protocols : List Protocol
  suites : List Suite
  applications : List String
  serverName : Option String
  deriving DecidableEq, Repr

namespace Hello

/-- The name as it is sent: in lower case and without a final dot; addresses are not sent. -/
def sentName (name : String) : Option String :=
  if (IpAddress.ofText? name).isSome then none
  else
    let letters := Ascii.lower name.toList
    some (String.ofList (if letters.getLast? == some '.' then letters.dropLast else letters))

/-- A peer that offers every version and suite and speaks HTTP/1.1. -/
def toHost (name : String) : Hello := ⟨Protocol.all, Suite.all, ["http/1.1"], sentName name⟩

end Hello

namespace TlsAcceptor

def outline (acceptor : TlsAcceptor) : Text.Outline :=
  .record "TlsAcceptor" [("self_signed", .flag acceptor.isSelfSigned)] true

/-- The enabled suites; without names, all of them. -/
def suitesOf (names : List String) : Except TlsDefect (List Suite) :=
  if names.isEmpty then .ok Suite.all else Suite.ofTexts names

def areCompatible (protocols : List Protocol) (suites : List Suite) : Bool :=
  suites.any fun suite => protocols.contains suite.protocol

/-- The versions and suites that settings enable, of which at least one pair must fit. -/
def offers (settings : TlsSettings) : Except Fault (List Protocol × List Suite) := do
  let suites ← (suitesOf settings.ciphers).mapError TlsDefect.fault
  let protocols ← (Protocol.ofTexts settings.protocols).mapError TlsDefect.fault
  if areCompatible protocols suites then return (protocols, suites)
  else throw (.tls "Incompatible protocols and ciphers")

/-- The verifier of clients that settings ask for. -/
def verifierOf (files : Files) (settings : TlsSettings) : Logged (Option ClientVerifier) :=
  match settings.clientAuth, settings.trustStore with
  | .none, _ => .pure none
  | auth, some path =>
    (files.trustStore path).andThen fun roots => .pure (some ⟨roots, auth == .need⟩)
  | auth, none => .fail (TlsDefect.clientsWithoutTrustStore auth).fault

def initialized (settings : TlsSettings) (identity : Identity) : Logged Unit :=
  .say ⟨.info, "TLS acceptor initialized", [("self_signed", .flag identity.isSelfSigned),
    ("client_auth", .shown settings.clientAuth.name),
    ("protocols", .shown (TlsSettings.outlineTexts settings.protocols).render)]⟩

def ofSettings (files : Files) (settings : TlsSettings) : Logged TlsAcceptor :=
  (Logged.ofExcept (settings.validate files)).andThen fun _ =>
  (Identity.load files settings).andThen fun identity =>
  (Logged.ofExcept (offers settings)).andThen fun (protocols, suites) =>
  (verifierOf files settings).andThen fun verifier =>
    match identity.keyKind? with
    | none => .fail (.config "Failed to build TLS config")
    | some key =>
      (initialized settings identity).andThen fun _ =>
        .pure ⟨protocols, suites, verifier, key, identity.isSelfSigned⟩

/-- The protocols above TLS, the preferred one first. -/
def applications : List String := ["h2", "http/1.1"]

def speaks (acceptor : TlsAcceptor) (version : Protocol) : Bool :=
  acceptor.protocols.contains version && acceptor.suites.any (·.protocol == version)

/-- The newest version that both sides speak. -/
def version? (acceptor : TlsAcceptor) (hello : Hello) : Option Protocol :=
  Protocol.all.find? fun version => hello.protocols.contains version && acceptor.speaks version

/-- The first suite in the order of the peer that is enabled and fits the version and the key. -/
def suite? (acceptor : TlsAcceptor) (hello : Hello) : Option Suite := do
  let version ← acceptor.version? hello
  hello.suites.find? fun suite =>
    suite.protocol == version && acceptor.suites.contains suite && suite.accepts acceptor.key

/-- The session with a peer that has no certificate of its own, if both sides agree. -/
def agree? (acceptor : TlsAcceptor) (hello : Hello) : Option Session := do
  let suite ← acceptor.suite? hello
  let application ← applications.find? hello.applications.contains
  if acceptor.verifier.any (·.isRequired) then none
  return ⟨some suite.protocol.name, some suite.name, some application, hello.serverName, []⟩

/-- Accepts a connection; without a hello there is nothing to agree on. -/
def accept (acceptor : TlsAcceptor) (hello : Option Hello) : Except Fault Session :=
  match hello.bind acceptor.agree? with
  | some session => .ok session
  | none => .error (.tls "TLS handshake failed")

end TlsAcceptor

end Sluice
