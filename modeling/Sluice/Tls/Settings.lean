import Sluice.Document.Reading
import Sluice.Json.Access
import Sluice.Text.Quoted

/-! The settings of TLS and their defaults. -/

set_option autoImplicit false

namespace Sluice

/-- Whether client certificates are asked for, and whether they are required. -/
inductive ClientAuth where
  | none
  | want
  | need
  deriving DecidableEq, Repr

namespace ClientAuth

def name : ClientAuth → String
  | .none => "None"
  | .want => "Want"
  | .need => "Need"

def keyword : ClientAuth → String
  | .none => "NONE"
  | .want => "WANT"
  | .need => "NEED"

def ofKeyword? (word : String) : Option ClientAuth :=
  if word == "NONE" || word == "none" then some .none
  else if word == "WANT" || word == "want" then some .want
  else if word == "NEED" || word == "need" then some .need
  else Option.none

/-- Whether a document is what a notation writes beside a keyword that stands alone in a mapping. -/
def isUnit (rule : Document.RecordSequences) : Document → Bool
  | .null => rule == .exact
  | .sequence items => rule == .open && items.isEmpty
  | .mapping fields => rule == .open && fields.isEmpty
  | _ => false

/-- Reads a keyword, which may also be the tag of nothing or the only name in a mapping. -/
def read? (rule : Document.RecordSequences) : Document → Option ClientAuth
  | .text s => ofKeyword? s
  | .scalar s =>
    match s.ownTag? with
    | Option.none => ofKeyword? s.value
    | some name =>
      if s.style == .plain && (s.value.isEmpty || Scalar.isNullWord s.value) then ofKeyword? name
      else Option.none
  | .mapping [(some name, value)] => if isUnit rule value then ofKeyword? name else Option.none
  | _ => Option.none

end ClientAuth

structure TlsSettings where
  enabled : Bool
  keyStore : Option String
  keyStoreType : Option String
  keyStorePassword : Option String
  keyPassword : Option String
  certificate : Option String
  certificateKey : Option String
  trustStore : Option String
  trustStoreType : Option String
  trustStorePassword : Option String
  protocols : List String
  ciphers : List String
  clientAuth : ClientAuth
  selfSignedHosts : List String
  deriving DecidableEq, Repr

namespace TlsSettings

def standard : TlsSettings :=
  ⟨true, none, none, none, none, none, none, none, none, none, [], [], .none, ["localhost", "127.0.0.1"]⟩

def fieldNames : List String := [
  "enabled", "key_store", "key_store_type", "key_store_password", "key_password", "certificate",
  "certificate_private_key", "trust_store", "trust_store_type", "trust_store_password",
  "enabled_protocols", "ciphers", "client_auth", "self_signed_hosts"]

def readText : Option Document → Option (Option String) :=
  Document.orElse? none (Document.optional? Document.text?)

def readTexts (fallback : List String) : Option Document → Option (List String) :=
  Document.orElse? fallback (Document.list? Document.text?)

def read? (rule : Document.RecordSequences) (document : Document) : Option TlsSettings := do
  let [enabled, keyStore, keyStoreType, keyStorePassword, keyPassword, certificate, certificateKey,
    trustStore, trustStoreType, trustStorePassword, protocols, ciphers, clientAuth, hosts] ←
      Document.fields? rule fieldNames document | none
  return {
    enabled := ← Document.orElse? true Document.flag? enabled
    keyStore := ← readText keyStore
    keyStoreType := ← readText keyStoreType
    keyStorePassword := ← readText keyStorePassword
    keyPassword := ← readText keyPassword
    certificate := ← readText certificate
    certificateKey := ← readText certificateKey
    trustStore := ← readText trustStore
    trustStoreType := ← readText trustStoreType
    trustStorePassword := ← readText trustStorePassword
    protocols := ← readTexts [] protocols
    ciphers := ← readTexts [] ciphers
    clientAuth := ← Document.orElse? .none (ClientAuth.read? rule) clientAuth
    selfSignedHosts := ← readTexts standard.selfSignedHosts hosts }

def toJson (settings : TlsSettings) : Json :=
  .object [
    ("enabled", .bool settings.enabled),
    ("key_store", Json.option .string settings.keyStore),
    ("key_store_type", Json.option .string settings.keyStoreType),
    ("key_store_password", Json.option .string settings.keyStorePassword),
    ("key_password", Json.option .string settings.keyPassword),
    ("certificate", Json.option .string settings.certificate),
    ("certificate_private_key", Json.option .string settings.certificateKey),
    ("trust_store", Json.option .string settings.trustStore),
    ("trust_store_type", Json.option .string settings.trustStoreType),
    ("trust_store_password", Json.option .string settings.trustStorePassword),
    ("enabled_protocols", Json.texts settings.protocols),
    ("ciphers", Json.texts settings.ciphers),
    ("client_auth", .string settings.clientAuth.keyword),
    ("self_signed_hosts", Json.texts settings.selfSignedHosts)]

def outlineText (text : Option String) : Text.Outline := .option Text.Outline.text text

def outlineTexts (texts : List String) : Text.Outline := .list (texts.map .text)

def outline (settings : TlsSettings) : Text.Outline :=
  .closed "TlsConfig" [
    ("enabled", .flag settings.enabled),
    ("key_store", outlineText settings.keyStore),
    ("key_store_type", outlineText settings.keyStoreType),
    ("key_store_password", outlineText settings.keyStorePassword),
    ("key_password", outlineText settings.keyPassword),
    ("certificate", outlineText settings.certificate),
    ("certificate_private_key", outlineText settings.certificateKey),
    ("trust_store", outlineText settings.trustStore),
    ("trust_store_type", outlineText settings.trustStoreType),
    ("trust_store_password", outlineText settings.trustStorePassword),
    ("enabled_protocols", outlineTexts settings.protocols),
    ("ciphers", outlineTexts settings.ciphers),
    ("client_auth", .atom settings.clientAuth.name),
    ("self_signed_hosts", outlineTexts settings.selfSignedHosts)]

end TlsSettings

end Sluice
