import RedisPy.Exceptions
import RedisPy.Lib.Interruptible

/-!
# Stapled OCSP responses

`ocsp_staple_verifier` of `redis/ocsp.py`, which decides whether the certificate of a TLS peer is
still good. Decoding, hashing and the verification of signatures belong to the `cryptography`
package and are parameters; certificates and responses are what it decodes. Its times are naive
datetimes in UTC, and the code compares them with `datetime.datetime.now()`, a naive datetime in
local time.
-/

namespace RedisPy

/-- `OCSPResponseStatus`. -/
inductive ResponseStatus where
  | successful
  | malformedRequest
  | internalError
  | tryLater
  | sigRequired
  | unauthorized
deriving DecidableEq

/-- `OCSPCertStatus`. -/
inductive CertStatus where
  | good
  | revoked
  | unknown
deriving DecidableEq

/-- `str(status).split(".")[1]`. -/
def CertStatus.name : CertStatus → String
  | good => "GOOD"
  | revoked => "REVOKED"
  | unknown => "UNKNOWN"

/-- The public keys that the code tells apart. -/
inductive KeyKind where
  | rsa
  | dsa
  | ellipticCurve
  | other
deriving DecidableEq

/-- `hazmat.primitives.hashes`. -/
inductive HashAlgorithm where
  | sha1
  | sha256
  | sha384
  | sha512
deriving DecidableEq

/-- The arguments of `pubkey.verify` after the signature and the data. -/
inductive Scheme where
  | pkcs1v15 (hash : Option HashAlgorithm)
  | dsa (hash : Option HashAlgorithm)
  | ecdsa (hash : Option HashAlgorithm)
  | bare
deriving DecidableEq

/-- The arguments of `pubkey.public_bytes`. -/
inductive KeyFormat where
  | pkcs1
  | uncompressedPoint
  | subjectPublicKeyInfo
deriving DecidableEq

/-- `x509.Certificate`, with names in `N` and keys in `K`. -/
structure Certificate (N K : Type) where
  subject : N
  issuer : N
  serialNumber : Int
  publicKey : K
  /-- The value of the `ExtendedKeyUsage` extension, as dotted strings. -/
  extendedKeyUsage : Option (List Text)
  /-- `tbs_certificate_bytes`. -/
  tbsCertificateBytes : Bytes
  signature : Bytes
deriving DecidableEq

/-- `ocsp.OCSPResponse`. -/
structure OcspResponse (N K : Type) where
  responseStatus : ResponseStatus
  certificateStatus : CertStatus
  thisUpdate : Int
  nextUpdate : Option Int
  serialNumber : Int
  issuerNameHash : Bytes
  issuerKeyHash : Bytes
  /-- The hash of the two hashes above. -/
  hashAlgorithm : HashAlgorithm
  responderName : Option N
  responderKeyHash : Option Bytes
  certificates : List (Certificate N K)
  signature : Bytes
  tbsResponseBytes : Bytes
  signatureHashAlgorithm : Option HashAlgorithm

/-- The `cryptography` package. -/
structure Cryptography (N K : Type) where
  loadDerOcspResponse : Bytes → Except Exc (OcspResponse N K)
  loadPemX509Certificate : Bytes → Except Exc (Certificate N K)
  /-- `isinstance(pubkey, ...)`. -/
  kind : K → KeyKind
  /-- `pubkey.verify(signature, data, ...)`. -/
  verify : K → Scheme → Bytes → Bytes → Except Exc Unit
  publicBytes : K → KeyFormat → Bytes
  sha1 : Bytes → Bytes
  /-- A certificate has a signature by this key. -/
  certifies : K → Certificate N K → Bool
  /-- The hash that a response holds of the name of an issuer. -/
  hashName : HashAlgorithm → N → Bytes
  /-- The hash that a response holds of the key of an issuer. -/
  hashKey : HashAlgorithm → K → Bytes

/-- The clock of the host. -/
structure HostClock where
  /-- The time in UTC when the clock is read. -/
  utc : Nat → Int
  /-- Local time minus UTC. -/
  offset : Int

/-- `datetime.datetime.now()`. -/
def HostClock.now (clock : HostClock) (reading : Nat) : Int := clock.utc reading + clock.offset

/-- The connection of PyOpenSSL. -/
structure TlsConnection (N K : Type) where
  /-- `get_peer_certificate()`. -/
  peerCertificate : Option (Certificate N K)
  /-- `get_peer_cert_chain()`. -/
  peerCertChain : Option (List (Certificate N K))

namespace Ocsp

/-- `cryptography.exceptions.InvalidSignature`. -/
def invalidSignature : ExcClass := .user 2 .exception

/-- `x509.ExtensionNotFound`. -/
def extensionNotFound : ExcClass := .user 3 .exception

/-- `x509.oid.ExtendedKeyUsageOID.OCSP_SIGNING`. -/
def ocspSigning : Text := "1.3.6.1.5.5.7.3.9".toList

/-- `ConnectionError(text)`. -/
def refused (text : String) : Exc := { cls := .connectionError, args := [text.toList] }

/-- `if not condition: raise e`. -/
def demand (condition : Prop) [Decidable condition] (e : Exc) : Except Exc Unit :=
  if condition then .ok () else .error e

/-- What must be there. -/
def require {α : Type} (value : Option α) (e : Exc) : Except Exc α :=
  match value with
  | some value => .ok value
  | none => .error e

variable {N K : Type} [DecidableEq N] [DecidableEq K]

section Checks

variable (crypto : Cryptography N K)

/-- How a signature by a key is verified. -/
def scheme (key : K) (hash : Option HashAlgorithm) : Scheme :=
  match crypto.kind key with
  | .rsa => .pkcs1v15 hash
  | .dsa => .dsa hash
  | .ellipticCurve => .ecdsa hash
  | .other => .bare

/-- `_verify_response`. -/
def verifyResponse (issuerCert : Certificate N K) (response : OcspResponse N K) :
    Except Exc Unit :=
  let pubkey := issuerCert.publicKey
  match crypto.verify pubkey (scheme crypto pubkey response.signatureHashAlgorithm)
      response.signature response.tbsResponseBytes with
  | .ok () => .ok ()
  | .error e =>
    if e.isinstance invalidSignature then .error (refused "failed to valid ocsp response")
    else .error e

/-- `_get_pubkey_hash`. -/
def getPubkeyHash (certificate : Certificate N K) : Bytes :=
  let pubkey := certificate.publicKey
  crypto.sha1 <|
    match crypto.kind pubkey with
    | .rsa => crypto.publicBytes pubkey .pkcs1
    | .ellipticCurve => crypto.publicBytes pubkey .uncompressedPoint
    | _ => crypto.publicBytes pubkey .subjectPublicKeyInfo

/-- `_get_certificates`. -/
def getCertificates (certs : List (Certificate N K)) (issuerCert : Certificate N K)
    (responderName : Option N) (responderHash : Option Bytes) : List (Certificate N K) :=
  match responderName with
  | none => certs.filter fun c =>
      some (getPubkeyHash crypto c) = responderHash ∧ c.issuer = issuerCert.subject
  | some name => certs.filter fun c => c.subject = name ∧ c.issuer = issuerCert.subject

/-- The responder is the issuer, by its name or by the hash of its key. -/
def respondsItself (issuerCert : Certificate N K) (response : OcspResponse N K) : Bool :=
  response.responderName = some issuerCert.subject ∨
    response.responderKeyHash = some response.issuerKeyHash

/-- `cert_to_validate`. -/
def certToValidate (issuerCert : Certificate N K) (response : OcspResponse N K) :
    Except Exc (Certificate N K) :=
  if respondsItself issuerCert response then .ok issuerCert
  else do
    let responderCerts := getCertificates crypto response.certificates issuerCert
      response.responderName response.responderKeyHash
    let responderCert ← require responderCerts.head?
      (refused "no certificates found for the responder")
    let usage ← require responderCert.extendedKeyUsage { cls := extensionNotFound }
    demand (ocspSigning ∈ usage) (refused "delegate not autorized for ocsp signing")
    pure responderCert

/-- The part of `_check_certificate` about the status. -/
def checkStatus (response : OcspResponse N K) : Except Exc Unit := do
  demand (response.responseStatus ≠ .unauthorized)
    { cls := .authorizationError,
      args := ["you are not authorized to view this ocsp certificate".toList] }
  demand (response.responseStatus = .successful)
    (refused "failed to retrieve a successful response from the ocsp responder")
  demand (response.certificateStatus = .good)
    (refused ("Received an " ++ response.certificateStatus.name ++ " ocsp certificate status"))

/-- The part of `_check_certificate` about the times. -/
def checkTimes (clock : HostClock) (response : OcspResponse N K) : Except Exc Unit := do
  demand (response.thisUpdate < clock.now 0)
    (refused "ocsp certificate was issued in the future")
  demand (∀ update ∈ response.nextUpdate, clock.now 1 ≤ update)
    (refused "ocsp certificate has invalid update - in the past")

/-- `_check_certificate`. -/
def checkCertificate (clock : HostClock) (issuerCert : Certificate N K) (ocspBytes : Bytes)
    (validate : Bool) : Except Exc Bool := do
  let response ← crypto.loadDerOcspResponse ocspBytes
  checkStatus response
  checkTimes clock response
  let certificate ← certToValidate crypto issuerCert response
  if validate then verifyResponse crypto certificate response else pure ()
  pure true

/-- The certificate of the chain with the name that the peer certificate gives its issuer. -/
def findIssuer (chain : List (Certificate N K)) (peerCert : Certificate N K) :
    Option (Certificate N K) :=
  chain.find? fun cert => cert.subject = peerCert.issuer

/-- The peer certificate is the expected one. -/
def matchExpected (expected : Option Bytes) (peerCert : Certificate N K) : Except Exc Unit :=
  match expected with
  | none => .ok ()
  | some pem => do
    let e ← crypto.loadPemX509Certificate pem
    demand (peerCert = e) (refused "received and expected certificates do not match")

/-- `ocsp_staple_verifier`. -/
def ocspStapleVerifier (clock : HostClock) (con : TlsConnection N K) (ocspBytes : Option Bytes)
    (expected : Option Bytes) : Except Exc Bool := do
  let ocspBytes ← require (ocspBytes.filter (· ≠ [])) (refused "no ocsp response present")
  let peerCert ← require con.peerCertificate { cls := .attributeError }
  let chain ← require con.peerCertChain { cls := .typeError }
  let issuerCert ← require (findIssuer chain peerCert)
    (refused "no matching issuer cert found in certificate chain")
  matchExpected crypto expected peerCert
  checkCertificate crypto clock issuerCert ocspBytes true

end Checks

end Ocsp

end RedisPy
