import Webauthn.CoseKeySpec

/-! Certificates: what OpenSSL reads of an `x509::X509`, what `x509_parser` reads back from its
DER, the conversion `TryFrom<(COSEAlgorithm, &X509)> for COSEKey`, and `verify_signature` with a
certificate's own key. Only the fields the modelled functions read are kept. -/
namespace Webauthn
open BigNum

/-- An object identifier by its arcs. `x509_parser` compares DER encodings, which are in
one-to-one correspondence with the arcs. -/
structure Oid where
  arcs : List Nat
  deriving DecidableEq, Repr

inductive AttributeValue where
  | str (s : String)
  | other (tag : Nat)
  deriving DecidableEq, Repr

/-- `AttributeValue::as_str` (`Any::as_str`). -/
def AttributeValue.asStr : AttributeValue → Option String
  | .str s => some s
  | .other _ => none

structure AttributeTypeAndValue where
  attrType : Oid
  attrValue : AttributeValue
  deriving DecidableEq, Repr

/-- `X509Name` as `iter_attributes` walks it; no modelled function reads its grouping into RDNs. -/
abbrev X509Name := List AttributeTypeAndValue

inductive GeneralName where
  | directoryName (name : X509Name)
  | dnsName (name : String)
  | rfc822Name (name : String)
  | uri (uri : String)
  | other (tag : Nat)

/-- `ParsedExtension`, for the extensions the attestation checks read. -/
inductive ParsedExtension where
  | subjectAlternativeName (generalNames : List GeneralName)
  | extendedKeyUsage (other : List Oid)
  | basicConstraints (ca : Bool)
  | unsupported
  | parseError

structure X509Extension where
  oid : Oid
  critical : Bool
  parsedExtension : ParsedExtension

/-- `X509Version`; `V3` is the encoded value 2. -/
structure X509Version where
  raw : Nat
  deriving DecidableEq, Repr

def X509Version.v3 : X509Version := ⟨2⟩

/-- `X509Certificate` of `x509_parser`. -/
structure X509Certificate where
  version : X509Version
  subject : X509Name
  extensions : List X509Extension

/-- `x509::X509`: the public key OpenSSL reads from it, its subject, its DER encoding `to_der`,
and the certificate `x509_parser::parse_x509_certificate` reads back from that encoding, when it
does. The DER bytes themselves are not modelled beyond that. -/
structure X509 where
  publicKey : Except ErrorStack PKey
  subjectName : X509Name
  toDer : Except ErrorStack (List UInt8)
  reparsed : Option X509Certificate
  sameSubject : ∀ c ∈ reparsed, c.subject = subjectName
  reparsedFromDer : ∀ c ∈ reparsed, ∃ der, toDer = .ok der

/-- `verify_signature`: check a signature with a certificate's own public key. -/
def verifySignature {V : Type} (api : SignApi V) (alg : COSEAlgorithm) (pubk : X509)
    (signature verificationData : List UInt8) : WebauthnResult Bool := do
  let pkey ← pubk.publicKey.mapError .openSSLError
  pkeyVerifySignature api pkey alg signature verificationData

namespace COSEKey

/-- The ECDSA arm of `TryFrom<(COSEAlgorithm, &X509)> for COSEKey`. -/
def ec2FromX509 (pubk : X509) : WebauthnResult COSEKeyType := do
  let ecKey ← (pubk.publicKey >>= PKey.ecKey).mapError .openSSLError
  ecKey.checkKey.mapError .openSSLError
  let ecGrpref := ecKey.group
  let xbn := ecKey.x
  let ybn := ecKey.y
  let curve ← okOr ecGrpref.curveName .openSSLErrorNoCurveName >>= ECDSACurve.tryFromNid
  if numBytes xbn ≠ curve.coordinateSize ∨ numBytes ybn ≠ curve.coordinateSize then
    .error .coseKeyECDSAXYInvalid
  else .ok (.ecEc2 ⟨curve, toVec xbn, toVec ybn⟩)

/-- `TryFrom<(COSEAlgorithm, &x509::X509)> for COSEKey`. -/
def tryFromX509 (alg : COSEAlgorithm) (pubk : X509) : WebauthnResult COSEKey := do
  let key ← match alg with
    | .es256 | .es384 | .es512 => ec2FromX509 pubk
    | _ => .error .coseKeyInvalidType
  pure ⟨alg, key⟩

theorem ec2FromX509_eq_ok {pubk : X509} {key : COSEKeyType} :
    ec2FromX509 pubk = .ok key ↔
      ∃ ecKey curve, pubk.publicKey = .ok (.ec ecKey) ∧ ecKey.group.params.onCurve ecKey.x ecKey.y ∧
        ecKey.group.curveName = some curve.toOpensslNid ∧ numBytes ecKey.x = curve.coordinateSize ∧
        numBytes ecKey.y = curve.coordinateSize ∧ key = .ecEc2 ⟨curve, toVec ecKey.x, toVec ecKey.y⟩ := by
  simp only [ec2FromX509, bind_eq_ok, mapError_eq_ok, okOr_eq_ok, ECDSACurve.tryFromNid_eq_ok,
    ite_error_eq_ok, not_or, not_not, Except.ok.injEq]
  constructor
  · rintro ⟨ecKey, ⟨pkey, key', pk⟩, u, valid, curve, ⟨nid, name, rfl⟩, ⟨lx, ly⟩, rfl⟩
    cases pkey <;> simp only [PKey.ecKey, reduceCtorEq] at pk
    cases pk
    refine ⟨ecKey, curve, key', ?_, name, lx, ly, rfl⟩
    simpa [EcKey.checkKey] using valid
  · rintro ⟨ecKey, curve, key', valid, name, lx, ly, rfl⟩
    exact ⟨ecKey, ⟨_, key', rfl⟩, (), by simp [EcKey.checkKey, valid], curve,
      ⟨_, name, rfl⟩, ⟨lx, ly⟩, rfl⟩

theorem tryFromX509_eq_ok {alg : COSEAlgorithm} {pubk : X509} {k : COSEKey} :
    tryFromX509 alg pubk = .ok k ↔
      (alg = .es256 ∨ alg = .es384 ∨ alg = .es512) ∧ ∃ key, ec2FromX509 pubk = .ok key ∧ k = ⟨alg, key⟩ := by
  cases alg <;> simp only [tryFromX509, bind_eq_ok, pure_eq_ok, reduceCtorEq, false_and, exists_false,
    true_or, or_true, true_and, false_or, or_self, eq_comm (b := k)]

theorem ec2FromX509_of_named {cert : X509} {ecKey : EcKey} {curve : ECDSACurve}
    (key : cert.publicKey = .ok (.ec ecKey)) (valid : ecKey.group.params.onCurve ecKey.x ecKey.y)
    (named : ecKey.group.curveName = some curve.toOpensslNid) :
    ec2FromX509 cert =
      if numBytes ecKey.x ≠ curve.coordinateSize ∨ numBytes ecKey.y ≠ curve.coordinateSize then
        .error .coseKeyECDSAXYInvalid
      else .ok (.ecEc2 ⟨curve, toVec ecKey.x, toVec ecKey.y⟩) := by
  simp [ec2FromX509, key, PKey.ecKey, EcKey.checkKey, valid, named, bind, Except.bind]

theorem tryFromX509_ecdsa {alg : COSEAlgorithm} (cert : X509)
    (ecdsa : alg = .es256 ∨ alg = .es384 ∨ alg = .es512) :
    tryFromX509 alg cert = (ec2FromX509 cert).map (⟨alg, ·⟩) := by
  rcases ecdsa with rfl | rfl | rfl <;> rfl

/-- Converting a certificate's key and verifying through the COSE key is verifying with the
certificate: the coordinates are encoded so that `from_slice` gives back the certificate's point. -/
theorem tryFromX509_refines_certificate {alg : COSEAlgorithm} {cert : X509} {k : COSEKey}
    (converted : tryFromX509 alg cert = .ok k) :
    ∃ ecKey curve, cert.publicKey = .ok (.ec ecKey) ∧ ecKey.group.curveName = some curve.toOpensslNid ∧
      k.type_ = alg ∧ k.key = .ecEc2 ⟨curve, toVec ecKey.x, toVec ecKey.y⟩ ∧
      (toVec ecKey.x).length = curve.coordinateSize ∧ (toVec ecKey.y).length = curve.coordinateSize ∧
      fromSlice (toVec ecKey.x) = ecKey.x ∧ fromSlice (toVec ecKey.y) = ecKey.y ∧
      k.getOpensslPkey = .ok (.ec ecKey) ∧
      ∀ {V : Type} (api : SignApi V) (signature data : List UInt8),
        k.verifySignature api signature data = Webauthn.verifySignature api alg cert signature data := by
  obtain ⟨-, key, ec2, rfl⟩ := tryFromX509_eq_ok.mp converted
  obtain ⟨⟨g, x, y⟩, curve, pk, valid, name, lx, ly, rfl⟩ := ec2FromX509_eq_ok.mp ec2
  obtain rfl : g = curve.group := ECDSACurve.eq_group name
  have rebuilt : getOpensslPkey ⟨alg, .ecEc2 ⟨curve, toVec x, toVec y⟩⟩ = .ok (.ec ⟨curve.group, x, y⟩) := by
    simp only [getOpensslPkey_ecEc2, fromSlice_toVec]
    exact if_pos valid
  refine ⟨_, curve, pk, name, rfl, rfl, by rw [length_toVec, lx], by rw [length_toVec, ly],
    fromSlice_toVec x, fromSlice_toVec y, rebuilt, fun api signature data => ?_⟩
  rw [COSEKey.verifySignature, rebuilt, Webauthn.verifySignature, pk]
  rfl

/-- The base point of P-256, both of whose coordinates take the full 32 bytes. -/
def p256Generator : Nat × Nat :=
  (0x6b17d1f2e12c4247f8bce6e563a440f277037d812deb33a0f4a13945d898c296,
    0x4fe342e2fe1a7f9b8ee7eb4a7c0f9e162bce33576b315ececbb6406837bf51f5)

def p256Certificate : X509 :=
  ⟨.ok (.ec ⟨ECDSACurve.secp256r1.group, p256Generator.1, p256Generator.2⟩), [], .ok [], none, nofun, nofun⟩

def p256CertificateKey : COSEKey :=
  ⟨.es256, .ecEc2 ⟨.secp256r1, toVec p256Generator.1, toVec p256Generator.2⟩⟩

set_option maxRecDepth 4000 in
theorem p256_certificate_refined :
    tryFromX509 .es256 p256Certificate = .ok p256CertificateKey ∧
      ∀ {V : Type} (api : SignApi V) (signature data : List UInt8),
        p256CertificateKey.verifySignature api signature data =
          Webauthn.verifySignature api .es256 p256Certificate signature data := by
  have converted : tryFromX509 .es256 p256Certificate = .ok p256CertificateKey := rfl
  obtain ⟨_, _, _, _, _, _, _, _, _, _, _, same⟩ := tryFromX509_refines_certificate converted
  exact ⟨converted, same⟩

/-- A certificate point with a coordinate below `256 ^ (size - 1)`, one whose big-endian encoding
at the curve's size starts with a zero byte, is refused: `num_bytes` counts the minimal encoding. -/
theorem tryFromX509_refuses_leading_zero {alg : COSEAlgorithm} {cert : X509} {ecKey : EcKey}
    {curve : ECDSACurve} (ecdsa : alg = .es256 ∨ alg = .es384 ∨ alg = .es512)
    (key : cert.publicKey = .ok (.ec ecKey)) (valid : ecKey.group.params.onCurve ecKey.x ecKey.y)
    (named : ecKey.group.curveName = some curve.toOpensslNid)
    (short : ecKey.x < 256 ^ (curve.coordinateSize - 1) ∨ ecKey.y < 256 ^ (curve.coordinateSize - 1)) :
    tryFromX509 alg cert = .error .coseKeyECDSAXYInvalid := by
  have positive : 0 < curve.coordinateSize := by cases curve <;> decide
  rw [tryFromX509_ecdsa cert ecdsa, ec2FromX509_of_named key valid named, if_pos]
  · rfl
  · exact short.imp (numBytes_ne_of_lt positive) (numBytes_ne_of_lt positive)

/-- For a valid point on a named curve, the conversion succeeds exactly when both coordinates need
all `coordinate_size` bytes. -/
theorem tryFromX509_ok_iff_full_length {alg : COSEAlgorithm} {cert : X509} {ecKey : EcKey}
    {curve : ECDSACurve} (ecdsa : alg = .es256 ∨ alg = .es384 ∨ alg = .es512)
    (key : cert.publicKey = .ok (.ec ecKey)) (valid : ecKey.group.params.onCurve ecKey.x ecKey.y)
    (named : ecKey.group.curveName = some curve.toOpensslNid) :
    (∃ k, tryFromX509 alg cert = .ok k) ↔
      256 ^ (curve.coordinateSize - 1) ≤ ecKey.x ∧ 256 ^ (curve.coordinateSize - 1) ≤ ecKey.y := by
  have positive : 0 < curve.coordinateSize := by cases curve <;> decide
  have fits := curve.p_le_pow_coordinateSize
  have reduced : ecKey.x < curve.params.p ∧ ecKey.y < curve.params.p := by
    rw [ECDSACurve.eq_group named] at valid
    simp only [CurveParams.onCurve, ECDSACurve.group, Bool.and_eq_true, decide_eq_true_eq] at valid
    exact valid.1
  have fullX := numBytes_eq_iff positive (Nat.lt_of_lt_of_le reduced.1 fits)
  have fullY := numBytes_eq_iff positive (Nat.lt_of_lt_of_le reduced.2 fits)
  rw [tryFromX509_ecdsa cert ecdsa, ec2FromX509_of_named key valid named]
  split_ifs with short <;> rw [ne_eq, ne_eq, fullX, fullY] at short
  · simp only [Except.map, reduceCtorEq, exists_false, false_iff]
    rintro ⟨largeX, largeY⟩
    exact short.elim (absurd largeX) (absurd largeY)
  · simpa only [Except.map, Except.ok.injEq, exists_eq', true_iff, not_or, not_not] using short

theorem p256_certificate_full_length :
    (∃ k, tryFromX509 .es256 p256Certificate = .ok k) ↔
      256 ^ 31 ≤ p256Generator.1 ∧ 256 ^ 31 ≤ p256Generator.2 :=
  @tryFromX509_ok_iff_full_length .es256 p256Certificate
    ⟨ECDSACurve.secp256r1.group, p256Generator.1, p256Generator.2⟩ .secp256r1 (.inl rfl) rfl rfl rfl

/-- A certificate key at the P-521 point of `cbor_es512`, whose `y` starts with a zero byte. -/
def es512CertificateKey : EcKey :=
  ⟨ECDSACurve.secp521r1.group, fromSlice cborEs512X, fromSlice cborEs512Y⟩

def es512Certificate : X509 := ⟨.ok (.ec es512CertificateKey), [], .ok [], none, nofun, nofun⟩

set_option maxRecDepth 4000 in
theorem cbor_es512_point_refused_in_certificate :
    tryFrom cborEs512 = .ok cborEs512Key ∧
      es512CertificateKey.group.params.onCurve es512CertificateKey.x es512CertificateKey.y ∧
      es512CertificateKey.y < 256 ^ (ECDSACurve.secp521r1.coordinateSize - 1) ∧
      tryFromX509 .es512 es512Certificate = .error .coseKeyECDSAXYInvalid := by
  have valid : es512CertificateKey.group.params.onCurve es512CertificateKey.x es512CertificateKey.y :=
    rfl
  have short : es512CertificateKey.y < 256 ^ (ECDSACurve.secp521r1.coordinateSize - 1) := by decide
  exact ⟨rfl, valid, short, tryFromX509_refuses_leading_zero (.inr (.inr rfl)) rfl valid rfl (.inr short)⟩

end COSEKey

end Webauthn
