import Sluice.Tls.Der

/-! X.509 certificates, as far as a server looks into them: their form and their public key. -/

set_option autoImplicit false

namespace Sluice

/-- A public key with the identifier of its algorithm, both as encoded content. -/
structure PublicKey where
  algorithm : Bytes
  bits : Bytes
  deriving DecidableEq, Repr

namespace PublicKey

def ofDer? (content : Bytes) : Option PublicKey := do
  let (algorithm, rest) ← Der.expect? Der.sequence content
  let bits ← Der.only? Der.bitString rest
  return ⟨algorithm, bits⟩

end PublicKey

/-- An extension of a certificate. -/
structure CertificateExtension where
  id : Bytes
  isCritical : Bool
  value : Bytes
  deriving DecidableEq, Repr

namespace CertificateExtension

/-- The flag is left out when it is not set. -/
def ofDer? (content : Bytes) : Option CertificateExtension := do
  let (id, rest) ← Der.expect? Der.objectId content
  let (isCritical, rest) ← match Der.expect? Der.boolean rest with
    | some ([flag], rest) =>
      if flag.toNat == 255 then some (true, rest) else if flag.toNat == 0 then some (false, rest) else none
    | some _ => none
    | none => some (false, rest)
  let value ← Der.only? Der.octetString rest
  return ⟨id, isCritical, value⟩

def keyUsage : UInt8 := 15

/-- The standard extensions that are looked into: key usage, alternative names, basic constraints, name constraints,
revocation lists and extended key usage. -/
def understood : List UInt8 := [keyUsage, 17, 19, 30, 31, 37]

def number? (extension : CertificateExtension) : Option UInt8 :=
  match extension.id with
  | [0x55, 0x1D, n] => if understood.contains n then some n else none
  | _ => none

/-- An extension that is not understood must not be critical; the value of another is a sequence, except for that of the
key usage. -/
def isAcceptable (extension : CertificateExtension) : Bool :=
  match extension.number? with
  | none => !extension.isCritical
  | some n => n == keyUsage || (Der.only? Der.sequence extension.value).isSome

/-- Reads the extensions of a certificate; one that is understood stands only once. -/
def listOfDer? (content : Bytes) : Option (List CertificateExtension) := do
  let items ← Der.all? Der.sequence (← Der.only? Der.sequence content)
  let extensions ← items.mapM ofDer?
  if extensions.all isAcceptable && (extensions.filterMap number?).Nodup then some extensions else none

end CertificateExtension

/-- A certificate of the third version. -/
structure Certificate where
  publicKey : Bytes
  extensions : List CertificateExtension
  deriving DecidableEq, Repr

namespace Certificate

/-- The signed part and the identifier of the algorithm of the signature, whose bits fill whole bytes. -/
def signedPart? (der : Bytes) : Option (Bytes × Bytes) := do
  let body ← Der.only? Der.sequence der
  let (signed, rest) ← Der.expect? Der.sequence body
  let (algorithm, rest) ← Der.expect? Der.sequence rest
  let signature ← Der.only? Der.bitString rest
  if signature.head? == some 0 then some (signed, algorithm) else none

/-- Serial number, algorithm, issuer, validity, subject and key. -/
def fieldTags : List Nat :=
  [Der.integer, Der.sequence, Der.sequence, Der.sequence, Der.sequence, Der.sequence]

def ofDer? (der : Bytes) : Option Certificate := do
  let (signed, algorithm) ← signedPart? der
  let (version, rest) ← Der.expect? (Der.numbered 0) signed
  let number ← Der.only? Der.integer version
  let ([_, innerAlgorithm, _, _, _, publicKey], rest) ← Der.fields? fieldTags rest | none
  if number != [2] || innerAlgorithm != algorithm then none
  let extensions ←
    if rest.isEmpty then some []
    else (Der.only? (Der.numbered 3) rest).bind CertificateExtension.listOfDer?
  return ⟨publicKey, extensions⟩

/-- Whether bytes are a certificate of the first version, which has neither a version number nor extensions. -/
def isFirstVersion (der : Bytes) : Bool :=
  ((signedPart? der).bind fun (signed, _) => Der.fields? fieldTags signed).any (·.2.isEmpty)

/-- Whether a certificate can be trusted as a root. -/
def isAnchor (der : Bytes) : Bool := (ofDer? der).isSome || isFirstVersion der

end Certificate

end Sluice
