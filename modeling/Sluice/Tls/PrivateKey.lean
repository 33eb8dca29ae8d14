import Sluice.Tls.Certificate
import Sluice.Tls.Suite

/-! Private keys: the forms in which they are written, and the public keys that belong to them. -/

set_option autoImplicit false

namespace Sluice

/-- The forms of private keys: that of RSA, that of elliptic curves, and one for keys of any kind. -/
inductive KeyForm where
  | pkcs1
  | sec1
  | pkcs8
  deriving DecidableEq, Repr

namespace KeyForm

def name : KeyForm → String
  | .pkcs1 => "pkcs1"
  | .sec1 => "sec1"
  | .pkcs8 => "pkcs8"

def ofLabel? (label : String) : Option KeyForm :=
  if label == "RSA PRIVATE KEY" then some .pkcs1
  else if label == "EC PRIVATE KEY" then some .sec1
  else if label == "PRIVATE KEY" then some .pkcs8
  else none

end KeyForm

structure PrivateKey where
  form : KeyForm
  der : Bytes
  deriving DecidableEq, Repr

/-- A key that can sign: its kind, the identifier of its algorithm, and the bits of its public key if they are known. -/
structure SigningKey where
  kind : KeyKind
  algorithm : Bytes
  bits? : Option Bytes
  deriving DecidableEq, Repr

namespace SigningKey

def rsaId : Bytes := [0x2A, 0x86, 0x48, 0x86, 0xF7, 0x0D, 0x01, 0x01, 0x01]

def curveId : Bytes := [0x2A, 0x86, 0x48, 0xCE, 0x3D, 0x02, 0x01]

def edwardsId : Bytes := [0x2B, 0x65, 0x70]

/-- The curves over prime fields of 256, 384 and 521 bits. -/
def curves : List Bytes :=
  [[0x2A, 0x86, 0x48, 0xCE, 0x3D, 0x03, 0x01, 0x07], [0x2B, 0x81, 0x04, 0x00, 0x22], [0x2B, 0x81, 0x04, 0x00, 0x23]]

def rsaAlgorithm : Bytes := Der.encode Der.objectId rsaId ++ [0x05, 0x00]

def curveAlgorithm (curve : Bytes) : Bytes := Der.encode Der.objectId curveId ++ Der.encode Der.objectId curve

def edwardsAlgorithm : Bytes := Der.encode Der.objectId edwardsId

def bitLength (number : Bytes) : Nat :=
  match number.dropWhile (·.toNat == 0) with
  | [] => 0
  | first :: rest => Nat.log2 first.toNat + 1 + 8 * rest.length

/-- Reads an RSA key of 2048 to 8192 bits from its nine numbers. -/
def ofRsa? (der : Bytes) : Option SigningKey := do
  let numbers ← (Der.only? Der.sequence der).bind (Der.all? Der.integer)
  match numbers with
  | [[0], modulus, exponent, _, _, _, _, _, _] =>
    if 2048 ≤ bitLength modulus && bitLength modulus ≤ 8192 then
      some ⟨.rsa, rsaAlgorithm, some (0 :: Der.encode Der.sequence
        (Der.encode Der.integer modulus ++ Der.encode Der.integer exponent))⟩
    else none
  | _ => none

/-- The content of an element that may stand at the front, and what follows it. -/
def optional (tag : Nat) (bytes : Bytes) : Option Bytes × Bytes :=
  match Der.expect? tag bytes with
  | some (content, rest) => (some content, rest)
  | none => (none, bytes)

/-- Reads a key on a curve. The curve may be given from outside; else it stands in the key, or it is the first one. -/
def ofCurve? (outer? : Option Bytes) (der : Bytes) : Option SigningKey := do
  let body ← Der.only? Der.sequence der
  let ([version, secret], rest) ← Der.fields? [Der.integer, Der.octetString] body | none
  let (parameters?, rest) := optional (Der.numbered 0) rest
  let (bits?, rest) := optional (Der.numbered 1) rest
  let inner? ← match parameters? with
    | none => some none
    | some parameters => (Der.only? Der.objectId parameters).map some
  let bits? ← match bits? with
    | none => some none
    | some bits => (Der.only? Der.bitString bits).map some
  let curve ← (outer? <|> inner?) <|> curves.head?
  if version == [1] && !secret.isEmpty && rest.isEmpty && curves.contains curve && inner?.all (· == curve) then
    some ⟨.ecdsa, curveAlgorithm curve, bits?⟩
  else none

/-- Reads a key of the Edwards curve, whose public half is not written beside it. -/
def ofEdwards? (der : Bytes) : Option SigningKey := do
  let secret ← Der.only? Der.octetString der
  if secret.length == 32 then some ⟨.ecdsa, edwardsAlgorithm, none⟩ else none

/-- Reads a key that is written beside the identifier of its algorithm. -/
def ofAny? (der : Bytes) : Option SigningKey := do
  let body ← Der.only? Der.sequence der
  let ([_, algorithm, content], _) ← Der.fields? [Der.integer, Der.sequence, Der.octetString] body | none
  let (id, parameters) ← Der.expect? Der.objectId algorithm
  if id == rsaId then ofRsa? content
  else if id == curveId then ofCurve? (some (← Der.only? Der.objectId parameters)) content
  else if id == edwardsId then ofEdwards? content
  else none

/-- Whether a public key belongs to the key, as far as its public half is known. -/
def fits (key : SigningKey) (publicKey : PublicKey) : Bool :=
  key.algorithm == publicKey.algorithm && key.bits?.all (· == publicKey.bits)

end SigningKey

/-- The key to sign with, if a server can use it. -/
def PrivateKey.signingKey? (key : PrivateKey) : Option SigningKey :=
  match key.form with
  | .pkcs1 => SigningKey.ofRsa? key.der
  | .sec1 => SigningKey.ofCurve? none key.der
  | .pkcs8 => SigningKey.ofAny? key.der

end Sluice
