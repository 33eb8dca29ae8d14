import Sluice.Files
import Sluice.Log
import Sluice.Tls.Pem
import Sluice.Tls.PrivateKey
import Sluice.Tls.Settings

/-! Certificates and keys from files. -/

set_option autoImplicit false

namespace Sluice

inductive CredentialProblem where
  | unreadable (store path cause : String)
  | malformedCertificates
  | noCertificate (path : String)
  | malformedKey
  | noKey (path : String)
  | noAnchor
  | hostName (host : String)
  deriving DecidableEq, Repr

namespace CredentialProblem

def message : CredentialProblem → String
  | .unreadable store path cause => "Failed to open " ++ store ++ " file " ++ path ++ ": " ++ cause
  | .malformedCertificates => "Failed to parse certificates"
  | .noCertificate path => "No certificates found in " ++ path
  | .malformedKey => "Failed to parse private key"
  | .noKey path => "No private key found in " ++ path
  | .noAnchor => "Invalid trust store certificate"
  | .hostName _ => "Failed to generate self-signed certificate"

def fault (problem : CredentialProblem) : Fault :=
  match problem with
  | .hostName _ => .tls problem.message
  | _ => .config problem.message

end CredentialProblem

namespace Pem.Reading

/-- The certificates of a text, all of which must be well formed. -/
def certificates (reading : Reading) (path : String) : Except CredentialProblem (List Bytes) :=
  let found := reading.sections.filter (·.label == "CERTIFICATE")
  if !reading.isWhole then .error .malformedCertificates
  else if found.isEmpty then .error (.noCertificate path)
  else .ok (found.map (·.content))

def keyOf? (part : Section) : Option PrivateKey := (KeyForm.ofLabel? part.label).map (⟨·, part.content⟩)

/-- The first key of a text; what follows it may be malformed. -/
def key (reading : Reading) (path : String) : Except CredentialProblem PrivateKey :=
  match reading.sections.findSome? keyOf? with
  | some key => .ok key
  | none => .error (if reading.isWhole then .noKey path else .malformedKey)

end Pem.Reading

inductive Identity where
  | loaded (certificates : List Bytes) (key : PrivateKey)
  | selfSigned (hosts : List String)
  deriving DecidableEq, Repr

namespace Identity

def isSelfSigned : Identity → Bool
  | .loaded .. => false
  | .selfSigned _ => true

/-- The kind of the key, if it is usable and belongs to the first certificate. A generated key is one on a curve. -/
def keyKind? : Identity → Option KeyKind
  | .selfSigned _ => some .ecdsa
  | .loaded certificates key => do
    let signing ← key.signingKey?
    let certificate ← (← certificates.head?) |> Certificate.ofDer?
    let publicKey ← PublicKey.ofDer? certificate.publicKey
    if signing.fits publicKey then some signing.kind else none

end Identity

namespace Files

/-- Reads a PEM text; a directory can be opened, but has no well-formed content. -/
def readPem (files : Files) (store path : String) : Except CredentialProblem Pem.Reading :=
  match files.lookUp path with
  | .file content => .ok (Pem.read content)
  | .directory => .ok .malformed
  | entry => .error (.unreadable store path entry.problem)

def loaded (what path : String) (count : List (String × LogValue)) : Logged Unit :=
  .say ⟨.info, "Loaded TLS " ++ what, ("path", .shown path) :: count⟩

def certificates (files : Files) (path : String) : Logged (List Bytes) :=
  (Logged.ofExcept ((files.readPem "certificate" path >>= (·.certificates path)).mapError
    CredentialProblem.fault)).andThen fun certificates =>
      (loaded "certificates" path [("count", .nat certificates.length)]).andThen fun _ => .pure certificates

def privateKey (files : Files) (path : String) : Logged PrivateKey :=
  (Logged.ofExcept ((files.readPem "private key" path >>= (·.key path)).mapError
    CredentialProblem.fault)).andThen fun key =>
      (loaded "private key" path []).andThen fun _ => .pure key

def readKeyStore (files : Files) (path : String) : Except CredentialProblem (List Bytes × PrivateKey) := do
  let reading ← files.readPem "key store" path
  return (← reading.certificates path, ← reading.key path)

def keyStore (files : Files) (path : String) : Logged Identity :=
  (Logged.ofExcept ((files.readKeyStore path).mapError CredentialProblem.fault)).andThen
    fun (certificates, key) =>
      (loaded "key store" path [("count", .nat certificates.length)]).andThen fun _ =>
        .pure (.loaded certificates key)

def trustStore (files : Files) (path : String) : Logged (List Bytes) :=
  (files.certificates path).andThen fun certificates =>
    if certificates.all Certificate.isAnchor then .pure certificates
    else .fail CredentialProblem.noAnchor.fault

end Files

namespace Identity

/-- A certificate for names; names have no characters outside ASCII. -/
def ofHosts (hosts : List String) : Except CredentialProblem Identity :=
  match hosts.find? (·.toList.any (127 < ·.toNat)) with
  | some host => .error (.hostName host)
  | none => .ok (.selfSigned hosts)

/-- The identity that settings ask for: the key store, else the certificate with its key, else one for the configured
hosts. -/
def load (files : Files) (settings : TlsSettings) : Logged Identity :=
  match settings.keyStore, settings.certificate, settings.certificateKey with
  | some path, _, _ => files.keyStore path
  | none, some certificate, some key =>
    (files.certificates certificate).andThen fun certificates =>
      (files.privateKey key).andThen fun key => .pure (.loaded certificates key)
  | none, _, _ =>
    (Logged.say ⟨.warn, "No TLS key material configured, using a self-signed certificate",
      [("hosts", .shown (TlsSettings.outlineTexts settings.selfSignedHosts).render)]⟩).andThen fun _ =>
        .ofExcept ((ofHosts settings.selfSignedHosts).mapError CredentialProblem.fault)

end Identity

end Sluice
