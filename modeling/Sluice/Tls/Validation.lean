import Sluice.Fault
import Sluice.Files
import Sluice.Tls.Settings
import Sluice.Tls.Suite

/-! What is checked of TLS settings before anything is loaded, and the first defect that is reported. -/

set_option autoImplicit false

namespace Sluice

inductive TlsDefect where
  | keyStoreType (type : String)
  | trustStoreType (type : String)
  | encryptedKeyStore
  | encryptedTrustStore
  | keyStoreAndCertificate
  | certificateWithoutKey
  | missingFile (path : String)
  | clientsWithoutTrustStore (auth : ClientAuth)
  | protocol (name : String)
  | suite (name : String)
  deriving DecidableEq, Repr

namespace TlsDefect

def message : TlsDefect → String
  | .keyStoreType type => "Unsupported key store type: " ++ type ++ " (only PEM is supported)"
  | .trustStoreType type => "Unsupported trust store type: " ++ type ++ " (only PEM is supported)"
  | .encryptedKeyStore =>
    "Encrypted key stores are not supported; remove key-store-password and key-password"
  | .encryptedTrustStore => "Encrypted trust stores are not supported; remove trust-store-password"
  | .keyStoreAndCertificate => "Configure either key-store or certificate, not both"
  | .certificateWithoutKey => "certificate and certificate-private-key must be configured together"
  | .missingFile path => "File not found: " ++ path
  | .clientsWithoutTrustStore auth => "client-auth " ++ auth.name ++ " requires a trust-store"
  | .protocol name => "Unsupported TLS protocol: " ++ name ++ " (expected TLSv1.2 or TLSv1.3)"
  | .suite name => "Unsupported cipher suite: " ++ name

def fault (defect : TlsDefect) : Fault := .config defect.message

end TlsDefect

/-- What the given names stand for; the first unknown name is a defect. -/
def TlsDefect.resolve {α : Type} (known? : String → Option α) (unknown : String → TlsDefect) (names : List String) :
    Except TlsDefect (List α) :=
  names.mapM fun name =>
    match known? name with
    | some meant => .ok meant
    | none => .error (unknown name)

/-- The versions of the given names; without names, all of them. -/
def Protocol.ofTexts (names : List String) : Except TlsDefect (List Protocol) :=
  if names.isEmpty then .ok Protocol.all else TlsDefect.resolve Protocol.ofText? .protocol names

def Suite.ofTexts (names : List String) : Except TlsDefect (List Suite) :=
  TlsDefect.resolve Suite.ofText? .suite names

namespace TlsSettings

/-- Whether a certificate of the server is configured, in a key store or beside its key. -/
def hasKeyMaterial (settings : TlsSettings) : Bool :=
  settings.keyStore.isSome || settings.certificate.isSome

/-- The only type of store is PEM, in any case of letters. -/
def isStoreType : Option String → Bool
  | none => true
  | some type => Ascii.sameText type.toList "PEM".toList

def refuse (bad : Bool) (defect : TlsDefect) : Except TlsDefect Unit :=
  if bad then .error defect else .ok ()

/-- The files that the settings name, in the order in which they are looked for. -/
def paths (settings : TlsSettings) : List String :=
  [settings.keyStore, settings.certificate, settings.certificateKey, settings.trustStore].filterMap id

/-- Checks the settings against the files; the first defect wins. -/
def check (settings : TlsSettings) (files : Files) : Except TlsDefect Unit := do
  refuse (!isStoreType settings.keyStoreType) (.keyStoreType (settings.keyStoreType.getD ""))
  refuse (!isStoreType settings.trustStoreType) (.trustStoreType (settings.trustStoreType.getD ""))
  refuse (settings.keyStorePassword.isSome || settings.keyPassword.isSome) .encryptedKeyStore
  refuse settings.trustStorePassword.isSome .encryptedTrustStore
  refuse (settings.keyStore.isSome && settings.certificate.isSome) .keyStoreAndCertificate
  refuse (settings.certificate.isSome != settings.certificateKey.isSome) .certificateWithoutKey
  settings.paths.forM fun path => refuse (!files.contains path) (.missingFile path)
  refuse (settings.clientAuth != .none && settings.trustStore.isNone)
    (.clientsWithoutTrustStore settings.clientAuth)
  let _ ← Protocol.ofTexts settings.protocols
  let _ ← Suite.ofTexts settings.ciphers

def validate (settings : TlsSettings) (files : Files) : Except Fault Unit :=
  (settings.check files).mapError TlsDefect.fault

end TlsSettings

end Sluice
