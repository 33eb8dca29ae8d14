/-! The protocol versions and cipher suites that a server can speak, and their names. -/

set_option autoImplicit false

namespace Sluice

inductive Protocol where
  | tls12
  | tls13
  deriving DecidableEq, Repr

namespace Protocol

def name : Protocol → String
  | .tls12 => "TLSv1_2"
  | .tls13 => "TLSv1_3"

def ofText? (text : String) : Option Protocol :=
  if text == "TLSv1.2" then some .tls12
  else if text == "TLSv1.3" then some .tls13
  else none

def all : List Protocol := [.tls13, .tls12]

end Protocol

inductive Cipher where
  | aes256
  | aes128
  | chacha20
  deriving DecidableEq, Repr

namespace Cipher

def name : Cipher → String
  | .aes256 => "AES_256_GCM_SHA384"
  | .aes128 => "AES_128_GCM_SHA256"
  | .chacha20 => "CHACHA20_POLY1305_SHA256"

def all : List Cipher := [.aes256, .aes128, .chacha20]

end Cipher

/-- The kinds of signing keys that a certificate holds. -/
inductive KeyKind where
  | ecdsa
  | rsa
  deriving DecidableEq, Repr

namespace KeyKind

def name : KeyKind → String
  | .ecdsa => "ECDSA"
  | .rsa => "RSA"

end KeyKind

/-- A suite of the newest version fits every key; an older one is bound to a kind of key. -/
inductive Suite where
  | any (cipher : Cipher)
  | keyed (key : KeyKind) (cipher : Cipher)
  deriving DecidableEq, Repr

namespace Suite

def cipher : Suite → Cipher
  | .any cipher | .keyed _ cipher => cipher

def protocol : Suite → Protocol
  | .any _ => .tls13
  | .keyed .. => .tls12

def name : Suite → String
  | .any cipher => "TLS13_" ++ cipher.name
  | .keyed key cipher => "TLS_ECDHE_" ++ key.name ++ "_WITH_" ++ cipher.name

def registeredName : Suite → String
  | .any cipher => "TLS_" ++ cipher.name
  | suite => suite.name

def all : List Suite :=
  Cipher.all.map .any ++ Cipher.all.map (.keyed .ecdsa) ++ Cipher.all.map (.keyed .rsa)

def ofText? (text : String) : Option Suite :=
  all.find? fun suite => suite.name == text || suite.registeredName == text

/-- Whether a key of the given kind can serve under the suite. -/
def accepts (key : KeyKind) : Suite → Bool
  | .any _ => true
  | .keyed kind _ => kind == key

end Suite

end Sluice
