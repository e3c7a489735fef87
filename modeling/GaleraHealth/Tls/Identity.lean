import GaleraHealth.Tls.Der

/-!
# The TLS identity of a server

A server presents a chain of certificates and holds a private key, both given as PEM texts.
-/

namespace GaleraHealth.Tls

/-- What is wrong with an identity, in the order in which it is looked for. -/
inductive IdentityFault where
  | badCertificates (fault : Pem.Fault)
  | noCertificates
  | badKey (fault : Pem.Fault)
  | noKey
  /-- The key's body is no key. -/
  | unusableKey
  /-- The first certificate's body is no certificate. -/
  | unusableCertificate
  deriving DecidableEq, Repr

/-- The text of a fault, without its cause. -/
def IdentityFault.message : IdentityFault → String
  | .badCertificates _ => "Failed to parse server certificate"
  | .noCertificates => "No certificates found in tls.certificate"
  | .badKey _ => "Failed to parse private key"
  | .noKey => "No private key found in tls.private_key"
  | .unusableKey | .unusableCertificate => "Failed to create TLS server config"

/-- The fault that caused another, if there is one. -/
def IdentityFault.cause? : IdentityFault → Option String
  | .badCertificates f | .badKey f => some f.message
  | .unusableKey =>
    some "unexpected error: failed to parse private key as RSA, ECDSA, or EdDSA"
  | .unusableCertificate => some "invalid peer certificate: BadEncoding"
  | .noCertificates | .noKey => none

/-- A chain of certificates and the key of the first of them. -/
structure Identity where
  chain : List (List UInt8)
  key : Pem.Section
  deriving DecidableEq, Repr

/-- The identity in two PEM texts. -/
def Identity.load (certificate privateKey : String) : Except IdentityFault Identity := do
  let chain ← (Pem.certificates certificate).mapError .badCertificates
  if chain.isEmpty then throw .noCertificates
  let key ← (Pem.firstKey privateKey).mapError .badKey
  match key with
  | none => throw .noKey
  | some key =>
    if !Der.isPrivateKey key.kind key.body then throw .unusableKey
    if !chain.head?.any Der.isCertificate then throw .unusableCertificate
    return ⟨chain, key⟩

end GaleraHealth.Tls
