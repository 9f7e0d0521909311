import RedisPy.Ocsp.Verifier

/-!
# What an accepted OCSP response is worth

The verifier accepts exactly the staples that pass its checks. That is sound where the staple also
has what the verifier leaves out: the response is about the peer certificate, the issuer that was
found by its name did issue the peer certificate, a delegated responder was authorized by the
issuer, and the times are right in UTC as well.
-/

namespace RedisPy

namespace Ocsp

/-! ## Checks in sequence -/

section Sequences

variable {α β : Type}

/-- A check that is passed. -/
theorem demand_eq_ok {condition : Prop} [Decidable condition] {e : Exc} :
    demand condition e = .ok () ↔ condition := by
  unfold demand
  by_cases holds : condition <;> simp [holds]

/-- Something that is there. -/
theorem require_eq_ok {given : Option α} {e : Exc} {value : α} :
    require given e = .ok value ↔ given = some value := by
  cases given <;> simp [require]

/-- A program that returned before another one. -/
theorem bind_eq_ok {program : Except Exc α} {next : α → Except Exc β} {value : β} :
    (program >>= next) = .ok value ↔ ∃ a, program = .ok a ∧ next a = .ok value := by
  cases program <;> simp

/-- A check before another program. -/
theorem check_bind_eq_ok {check : Except Exc Unit} {next : Unit → Except Exc β} {value : β} :
    (check >>= next) = .ok value ↔ check = .ok () ∧ next () = .ok value := by
  rw [bind_eq_ok]
  exact ⟨fun ⟨_, passed, rest⟩ => ⟨passed, rest⟩, fun ⟨passed, rest⟩ => ⟨(), passed, rest⟩⟩

end Sequences

variable {N K : Type} [DecidableEq N] [DecidableEq K]

/-! ## Staples -/

/-- What the verifier looks at. -/
structure Staple (N K : Type) where
  response : OcspResponse N K
  peer : Certificate N K
  /-- The certificate of the chain that is taken for the issuer of the peer certificate. -/
  issuer : Certificate N K

/-- A response has a signature by a key. -/
def SignedBy (crypto : Cryptography N K) (key : K) (response : OcspResponse N K) : Prop :=
  crypto.verify key (scheme crypto key response.signatureHashAlgorithm) response.signature
    response.tbsResponseBytes = .ok ()

/-- A response is signed by the issuer, or by the key of a certificate for signing responses that
the issuer signed. -/
def Authorized (crypto : Cryptography N K) (issuer : Certificate N K)
    (response : OcspResponse N K) : Prop :=
  SignedBy crypto issuer.publicKey response ∨
    ∃ delegate : Certificate N K, (∃ usage, delegate.extendedKeyUsage = some usage ∧
      ocspSigning ∈ usage) ∧ crypto.certifies issuer.publicKey delegate = true ∧
      SignedBy crypto delegate.publicKey response

/-- A peer presents a staple; its certificate is the expected one if one is given. -/
structure Presents (crypto : Cryptography N K) (con : TlsConnection N K)
    (ocspBytes expected : Option Bytes) (staple : Staple N K) : Prop where
  /-- The response is decoded. -/
  response : ∃ data, ocspBytes = some data ∧ data ≠ [] ∧
    crypto.loadDerOcspResponse data = .ok staple.response
  /-- The peer has a certificate. -/
  peer : con.peerCertificate = some staple.peer
  /-- Its chain has one for the issuer. -/
  issuer : ∃ chain, con.peerCertChain = some chain ∧
    findIssuer chain staple.peer = some staple.issuer
  /-- The expected certificate is the one of the peer. -/
  expected : ∀ pem, expected = some pem → crypto.loadPemX509Certificate pem = .ok staple.peer

/-- What an accepted staple has to be. -/
structure Endorses (crypto : Cryptography N K) (clock : HostClock) (staple : Staple N K) :
    Prop where
  /-- The response is one. -/
  successful : staple.response.responseStatus = .successful
  /-- The certificate is good. -/
  good : staple.response.certificateStatus = .good
  /-- The response is not from the future. -/
  begun : staple.response.thisUpdate ≤ clock.utc 0
  /-- It is not outdated. -/
  current : ∀ update ∈ staple.response.nextUpdate, clock.utc 1 ≤ update
  /-- It is about the serial number of the peer certificate. -/
  serialNumber : staple.response.serialNumber = staple.peer.serialNumber
  /-- It is about a certificate of the issuer, by its name. -/
  issuerName : staple.response.issuerNameHash =
    crypto.hashName staple.response.hashAlgorithm staple.issuer.subject
  /-- It is about a certificate of the issuer, by its key. -/
  issuerKey : staple.response.issuerKeyHash =
    crypto.hashKey staple.response.hashAlgorithm staple.issuer.publicKey
  /-- The peer certificate names the issuer. -/
  named : staple.peer.issuer = staple.issuer.subject
  /-- The issuer signed the peer certificate. -/
  issued : crypto.certifies staple.issuer.publicKey staple.peer = true
  /-- The issuer stands behind the response. -/
  signed : Authorized crypto staple.issuer staple.response

/-- The verifier returns `True` for endorsed staples only, and raises otherwise. -/
def AcceptsSoundly (crypto : Cryptography N K) (clock : HostClock) (con : TlsConnection N K)
    (ocspBytes expected : Option Bytes) : Prop :=
  ∀ value, ocspStapleVerifier crypto clock con ocspBytes expected = .ok value →
    value = true ∧ ∃ staple, Presents crypto con ocspBytes expected staple ∧
      Endorses crypto clock staple

/-! ## What is checked -/

/-- What the verifier checks in a staple. -/
structure Checked (crypto : Cryptography N K) (clock : HostClock) (staple : Staple N K) :
    Prop where
  /-- The response is one. -/
  successful : staple.response.responseStatus = .successful
  /-- The certificate is good. -/
  good : staple.response.certificateStatus = .good
  /-- In local time the response is not from the future. -/
  begun : staple.response.thisUpdate < clock.now 0
  /-- In local time it is not outdated. -/
  current : ∀ update ∈ staple.response.nextUpdate, clock.now 1 ≤ update
  /-- The responder is the issuer or has a certificate for signing responses with the name of the
  issuer, and the signature is its own. -/
  signed : ∃ responder, certToValidate crypto staple.issuer staple.response = .ok responder ∧
    SignedBy crypto responder.publicKey staple.response

/-- What the verifier leaves out. -/
structure Unchecked (crypto : Cryptography N K) (clock : HostClock) (staple : Staple N K) :
    Prop where
  /-- The response is not from the future. -/
  begun : staple.response.thisUpdate ≤ clock.utc 0
  /-- It is not outdated. -/
  current : ∀ update ∈ staple.response.nextUpdate, clock.utc 1 ≤ update
  /-- It is about the serial number of the peer certificate. -/
  serialNumber : staple.response.serialNumber = staple.peer.serialNumber
  /-- It is about a certificate of the issuer, by its name. -/
  issuerName : staple.response.issuerNameHash =
    crypto.hashName staple.response.hashAlgorithm staple.issuer.subject
  /-- It is about a certificate of the issuer, by its key. -/
  issuerKey : staple.response.issuerKeyHash =
    crypto.hashKey staple.response.hashAlgorithm staple.issuer.publicKey
  /-- The certificate that was found by the name of the issuer signed the peer certificate. -/
  issued : crypto.certifies staple.issuer.publicKey staple.peer = true
  /-- Another responder than the issuer is authorized by the issuer. -/
  delegated : respondsItself staple.issuer staple.response = false →
    Authorized crypto staple.issuer staple.response

section Characterization

variable {crypto : Cryptography N K} {clock : HostClock} {con : TlsConnection N K}
variable {ocspBytes expected : Option Bytes} {staple : Staple N K}

omit [DecidableEq N] [DecidableEq K] in
/-- A signature is verified when it is one. -/
theorem verifyResponse_iff (certificate : Certificate N K) (response : OcspResponse N K) :
    verifyResponse crypto certificate response = .ok () ↔
      SignedBy crypto certificate.publicKey response := by
  unfold verifyResponse SignedBy
  cases verified : crypto.verify certificate.publicKey
      (scheme crypto certificate.publicKey response.signatureHashAlgorithm) response.signature
      response.tbsResponseBytes with
  | ok value => simp [verified]
  | error e =>
    by_cases invalid : e.isinstance invalidSignature = true <;> simp [verified, invalid]

omit [DecidableEq N] [DecidableEq K] in
/-- The status is checked. -/
theorem checkStatus_iff (response : OcspResponse N K) :
    checkStatus response = .ok () ↔
      response.responseStatus = .successful ∧ response.certificateStatus = .good := by
  unfold checkStatus
  rw [check_bind_eq_ok, check_bind_eq_ok, demand_eq_ok, demand_eq_ok, demand_eq_ok]
  constructor
  · rintro ⟨-, successful, good⟩
    exact ⟨successful, good⟩
  · rintro ⟨successful, good⟩
    exact ⟨by simp [successful], successful, good⟩

omit [DecidableEq N] [DecidableEq K] in
/-- The times are checked. -/
theorem checkTimes_iff (response : OcspResponse N K) :
    checkTimes clock response = .ok () ↔
      response.thisUpdate < clock.now 0 ∧ ∀ update ∈ response.nextUpdate, clock.now 1 ≤ update := by
  unfold checkTimes
  rw [check_bind_eq_ok, demand_eq_ok, demand_eq_ok]

omit [DecidableEq K] in
/-- A response is accepted when it passes the checks. -/
theorem checkCertificate_iff (peer : Certificate N K) {issuer : Certificate N K} {data : Bytes}
    {value : Bool} :
    checkCertificate crypto clock issuer data true = .ok value ↔
      value = true ∧ ∃ response, crypto.loadDerOcspResponse data = .ok response ∧
        Checked crypto clock { response, peer, issuer } := by
  unfold checkCertificate
  simp only [↓reduceIte]
  constructor
  · intro accepted
    obtain ⟨response, loaded, rest⟩ := bind_eq_ok.mp accepted
    obtain ⟨status, rest⟩ := check_bind_eq_ok.mp rest
    obtain ⟨times, rest⟩ := check_bind_eq_ok.mp rest
    obtain ⟨responder, chosen, rest⟩ := bind_eq_ok.mp rest
    obtain ⟨verified, returned⟩ := check_bind_eq_ok.mp rest
    obtain ⟨successful, good⟩ := (checkStatus_iff response).mp status
    obtain ⟨begun, current⟩ := (checkTimes_iff response).mp times
    have signed := (verifyResponse_iff responder response).mp verified
    exact ⟨(Except.ok.inj returned).symm, response, loaded, successful, good, begun, current,
      responder, chosen, signed⟩
  · rintro ⟨rfl, response, loaded, checked⟩
    obtain ⟨responder, chosen, signed⟩ := checked.signed
    have status := (checkStatus_iff response).mpr ⟨checked.successful, checked.good⟩
    have times := (checkTimes_iff response).mpr ⟨checked.begun, checked.current⟩
    have verified := (verifyResponse_iff responder response).mpr signed
    apply bind_eq_ok.mpr
    refine ⟨response, loaded, check_bind_eq_ok.mpr ⟨status, check_bind_eq_ok.mpr ⟨times, ?_⟩⟩⟩
    exact bind_eq_ok.mpr ⟨responder, chosen, check_bind_eq_ok.mpr ⟨verified, rfl⟩⟩

/-- The expected certificate is compared. -/
theorem matchExpected_iff (peer : Certificate N K) :
    matchExpected crypto expected peer = .ok () ↔
      ∀ pem, expected = some pem → crypto.loadPemX509Certificate pem = .ok peer := by
  unfold matchExpected
  cases expected with
  | none => simp
  | some pem =>
    rw [bind_eq_ok]
    constructor
    · rintro ⟨e, loaded, same⟩ other given
      cases given
      rw [demand_eq_ok.mp same]
      exact loaded
    · intro loaded
      exact ⟨peer, loaded pem rfl, demand_eq_ok.mpr rfl⟩

/-- The verifier accepts the staples that pass its checks, and no others. -/
theorem ocspStapleVerifier_iff {value : Bool} :
    ocspStapleVerifier crypto clock con ocspBytes expected = .ok value ↔
      value = true ∧ ∃ staple, Presents crypto con ocspBytes expected staple ∧
        Checked crypto clock staple := by
  unfold ocspStapleVerifier
  constructor
  · intro accepted
    obtain ⟨data, given, rest⟩ := bind_eq_ok.mp accepted
    obtain ⟨peer, hasPeer, rest⟩ := bind_eq_ok.mp rest
    obtain ⟨chain, hasChain, rest⟩ := bind_eq_ok.mp rest
    obtain ⟨issuer, found, rest⟩ := bind_eq_ok.mp rest
    obtain ⟨matching, rest⟩ := check_bind_eq_ok.mp rest
    obtain ⟨returned, response, loaded, checked⟩ := (checkCertificate_iff peer).mp rest
    obtain ⟨given, nonempty⟩ := Option.filter_eq_some_iff.mp (require_eq_ok.mp given)
    have presents : Presents crypto con ocspBytes expected ⟨response, peer, issuer⟩ :=
      ⟨⟨data, given, by simpa using nonempty, loaded⟩, require_eq_ok.mp hasPeer,
        ⟨chain, require_eq_ok.mp hasChain, require_eq_ok.mp found⟩,
        (matchExpected_iff peer).mp matching⟩
    exact ⟨returned, _, presents, checked⟩
  · rintro ⟨rfl, ⟨response, peer, issuer⟩, presents, checked⟩
    obtain ⟨data, given, nonempty, loaded⟩ := presents.response
    obtain ⟨chain, hasChain, found⟩ := presents.issuer
    have accepted : checkCertificate crypto clock issuer data true = .ok true :=
      (checkCertificate_iff peer).mpr ⟨rfl, response, loaded, checked⟩
    have filtered : ocspBytes.filter (· ≠ []) = some data :=
      Option.filter_eq_some_iff.mpr ⟨given, by simpa using nonempty⟩
    have matching := (matchExpected_iff peer).mpr presents.expected
    apply bind_eq_ok.mpr
    refine ⟨data, require_eq_ok.mpr filtered, bind_eq_ok.mpr ⟨peer, require_eq_ok.mpr presents.peer, ?_⟩⟩
    apply bind_eq_ok.mpr
    refine ⟨chain, require_eq_ok.mpr hasChain, bind_eq_ok.mpr ⟨issuer, require_eq_ok.mpr found, ?_⟩⟩
    exact check_bind_eq_ok.mpr ⟨matching, accepted⟩

omit [DecidableEq N] [DecidableEq K] in
/-- A peer presents one staple. -/
theorem Presents.unique [DecidableEq N] {other : Staple N K}
    (presents : Presents crypto con ocspBytes expected staple)
    (also : Presents crypto con ocspBytes expected other) : staple = other := by
  obtain ⟨data, given, -, loaded⟩ := presents.response
  obtain ⟨data', given', -, loaded'⟩ := also.response
  obtain ⟨chain, hasChain, found⟩ := presents.issuer
  obtain ⟨chain', hasChain', found'⟩ := also.issuer
  obtain ⟨response, peer, issuer⟩ := staple
  obtain ⟨response', peer', issuer'⟩ := other
  have samePeer : peer = peer' := Option.some.inj (presents.peer.symm.trans also.peer)
  subst samePeer
  rw [given] at given'
  cases given'
  rw [hasChain] at hasChain'
  cases hasChain'
  have sameResponse : response = response' := Except.ok.inj (loaded.symm.trans loaded')
  have sameIssuer : issuer = issuer' := Option.some.inj (found.symm.trans found')
  rw [sameResponse, sameIssuer]

omit [DecidableEq K] in
/-- The issuer is found by its name. -/
theorem Presents.named (presents : Presents crypto con ocspBytes expected staple) :
    staple.peer.issuer = staple.issuer.subject := by
  obtain ⟨chain, -, found⟩ := presents.issuer
  have same := List.find?_some found
  simpa using (of_decide_eq_true same).symm

omit [DecidableEq K] in
/-- A responder that is the issuer signs with the key of the issuer. -/
theorem Checked.authorized (checked : Checked crypto clock staple)
    (itself : respondsItself staple.issuer staple.response = true) :
    Authorized crypto staple.issuer staple.response := by
  obtain ⟨responder, chosen, signed⟩ := checked.signed
  unfold certToValidate at chosen
  rw [if_pos itself] at chosen
  cases chosen
  exact .inl signed

omit [DecidableEq K] in
/-- A staple that passes the checks is endorsed when it has what the verifier leaves out. -/
theorem Checked.endorses_iff (checked : Checked crypto clock staple)
    (presents : Presents crypto con ocspBytes expected staple) :
    Endorses crypto clock staple ↔ Unchecked crypto clock staple := by
  constructor
  · intro endorses
    exact ⟨endorses.begun, endorses.current, endorses.serialNumber, endorses.issuerName,
      endorses.issuerKey, endorses.issued, fun _ => endorses.signed⟩
  · intro unchecked
    refine ⟨checked.successful, checked.good, unchecked.begun, unchecked.current,
      unchecked.serialNumber, unchecked.issuerName, unchecked.issuerKey, presents.named,
      unchecked.issued, ?_⟩
    by_cases itself : respondsItself staple.issuer staple.response = true
    · exact checked.authorized itself
    · exact unchecked.delegated (by simpa using itself)

end Characterization

/-- Acceptance is sound exactly where what is presented either fails a check of the verifier or has
what the verifier leaves out. -/
theorem acceptsSoundly_iff (crypto : Cryptography N K) (clock : HostClock)
    (con : TlsConnection N K) (ocspBytes expected : Option Bytes) :
    AcceptsSoundly crypto clock con ocspBytes expected ↔
      ∀ staple, Presents crypto con ocspBytes expected staple → Checked crypto clock staple →
        Unchecked crypto clock staple := by
  constructor
  · intro sound staple presents checked
    have accepted := ocspStapleVerifier_iff.mpr ⟨rfl, staple, presents, checked⟩
    obtain ⟨-, other, also, endorses⟩ := sound true accepted
    rw [← presents.unique also] at endorses
    exact (checked.endorses_iff presents).mp endorses
  · intro covered value accepted
    obtain ⟨returned, staple, presents, checked⟩ := ocspStapleVerifier_iff.mp accepted
    exact ⟨returned, staple, presents,
      (checked.endorses_iff presents).mpr (covered staple presents checked)⟩

/-! ## A response about another certificate -/

/-- A package whose keys and names are numbers; a key signs by its number. -/
def numbered (response : OcspResponse Nat Nat) : Cryptography Nat Nat where
  loadDerOcspResponse _ := .ok response
  loadPemX509Certificate _ := .error { cls := .valueError }
  kind _ := .other
  verify key _ signature _ :=
    if signature = [key.toUInt8] then .ok () else .error { cls := invalidSignature }
  publicBytes key _ := [key.toUInt8]
  sha1 data := data
  certifies key certificate := certificate.signature = [key.toUInt8]
  hashName _ name := [name.toUInt8]
  hashKey _ key := [key.toUInt8]

/-- An authority. -/
def authority : Certificate Nat Nat where
  subject := 1
  issuer := 1
  serialNumber := 1
  publicKey := 1
  extendedKeyUsage := none
  tbsCertificateBytes := []
  signature := [1]

/-- A certificate that it issued to a peer, with serial number 10. -/
def peerCertificate : Certificate Nat Nat where
  subject := 2
  issuer := 1
  serialNumber := 10
  publicKey := 2
  extendedKeyUsage := none
  tbsCertificateBytes := []
  signature := [1]

/-- The response of the authority about its certificate number 11. -/
def responseAboutAnother : OcspResponse Nat Nat where
  responseStatus := .successful
  certificateStatus := .good
  thisUpdate := 0
  nextUpdate := some 2
  serialNumber := 11
  issuerNameHash := [1]
  issuerKeyHash := [1]
  hashAlgorithm := .sha1
  responderName := some 1
  responderKeyHash := none
  certificates := []
  signature := [1]
  tbsResponseBytes := []
  signatureHashAlgorithm := none

/-- The good status of one certificate is accepted for another one of the same issuer. -/
theorem other_serial_not_sound :
    ¬AcceptsSoundly (numbered responseAboutAnother) { utc := fun _ => 1, offset := 0 }
      { peerCertificate := some peerCertificate,
        peerCertChain := some [peerCertificate, authority] } (some [0]) none := by
  intro sound
  obtain ⟨-, staple, presents, endorses⟩ := sound true rfl
  obtain ⟨data, -, -, loaded⟩ := presents.response
  have response : responseAboutAnother = staple.response := Except.ok.inj loaded
  have peer : peerCertificate = staple.peer := Option.some.inj presents.peer
  have number := endorses.serialNumber
  rw [← response, ← peer] at number
  exact absurd number (by decide)

end Ocsp

end RedisPy
