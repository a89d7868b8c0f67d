import Webauthn.Openssl

/-! `crypto.rs` for COSE keys: the curve/NID correspondence, the OpenSSL key rebuild shared by
`validate` and `get_openssl_pkey`, signature verification, and the CBOR decoder
`TryFrom<&Value> for COSEKey`, one definition per arm of its key-type dispatch. -/
namespace Webauthn
open BigNum

/-- `TryFrom<nid::Nid> for ECDSACurve`. -/
def ECDSACurve.tryFromNid (nid : Nid) : WebauthnResult ECDSACurve :=
  if nid = .x962Prime256v1 then .ok .secp256r1
  else if nid = .secp384r1 then .ok .secp384r1
  else if nid = .secp521r1 then .ok .secp521r1
  else .error .ecdsaCurveInvalidNid

/-- `ECDSACurve::to_openssl_nid`. -/
def ECDSACurve.toOpensslNid : ECDSACurve → Nid
  | .secp256r1 => .x962Prime256v1
  | .secp384r1 => .secp384r1
  | .secp521r1 => .secp521r1

def ECDSACurve.params : ECDSACurve → CurveParams
  | .secp256r1 => .p256
  | .secp384r1 => .p384
  | .secp521r1 => .p521

namespace ECDSACurve

theorem tryFromNid_eq_ok {nid : Nid} {curve : ECDSACurve} :
    tryFromNid nid = .ok curve ↔ nid = curve.toOpensslNid := by
  cases curve <;> unfold tryFromNid <;> split_ifs <;> simp_all [toOpensslNid] <;> decide

@[simp] theorem tryFromNid_toOpensslNid (curve : ECDSACurve) : tryFromNid curve.toOpensslNid = .ok curve :=
  tryFromNid_eq_ok.mpr rfl

@[simp] theorem builtinCurve_toOpensslNid (curve : ECDSACurve) :
    builtinCurve curve.toOpensslNid = some curve.params := by
  cases curve <;> rfl

/-- The named group of the curve, as `EcGroup::from_curve_name` builds it. -/
def group (curve : ECDSACurve) : EcGroup :=
  ⟨some curve.toOpensslNid, curve.params, by
    rintro _ ⟨⟩ q listed
    rw [builtinCurve_toOpensslNid] at listed
    exact Option.mem_some_iff.mp listed⟩

@[simp] theorem fromCurveName_toOpensslNid (curve : ECDSACurve) :
    EcGroup.fromCurveName curve.toOpensslNid = .ok curve.group := by
  cases curve <;> rfl

theorem p_le_pow_coordinateSize (curve : ECDSACurve) : curve.params.p ≤ 256 ^ curve.coordinateSize := by
  cases curve <;> decide

theorem eq_group {g : EcGroup} {curve : ECDSACurve} (named : g.curveName = some curve.toOpensslNid) :
    g = curve.group :=
  EcGroup.eq_of_curveName named rfl (builtinCurve_toOpensslNid curve)

end ECDSACurve

/-- `only_hash_from_type`: every algorithm is refused. -/
def onlyHashFromType (alg : COSEAlgorithm) (_input : List UInt8) : WebauthnResult (List UInt8) :=
  match alg with
  | .insecureRs1 => .error .credentialInsecureCryptography
  | _ => .error .coseKeyInvalidType

section Verify
variable {V : Type} (api : SignApi V)

/-- The verifier `pkey_verify_signature` sets up for an algorithm, or its refusal. -/
def verifierFor (pkey : PKey) : COSEAlgorithm → WebauthnResult V
  | .es256 => (api.new .sha256 pkey).mapError .openSSLError
  | .rs256 => do
    let verifier ← (api.new .sha256 pkey).mapError .openSSLError
    (api.setRsaPadding verifier .pkcs1).mapError .openSSLError
  | .insecureRs1 => .error .credentialInsecureCryptography
  | _ => .error .coseKeyInvalidType

def checkSignature (verifier : V) (signature verificationData : List UInt8) : WebauthnResult Bool := do
  let verifier ← (api.update verifier verificationData).mapError .openSSLError
  (api.verify verifier signature).mapError .openSSLError

/-- `pkey_verify_signature`. -/
def pkeyVerifySignature (pkey : PKey) (stype : COSEAlgorithm) (signature verificationData : List UInt8) :
    WebauthnResult Bool := do
  let verifier ← verifierFor api pkey stype
  checkSignature api verifier signature verificationData

theorem pkeyVerifySignature_of_unsupported (pkey : PKey) {stype : COSEAlgorithm}
    (unsupported : stype ≠ .es256 ∧ stype ≠ .rs256 ∧ stype ≠ .insecureRs1) (signature data : List UInt8) :
    pkeyVerifySignature api pkey stype signature data = .error .coseKeyInvalidType := by
  obtain ⟨es, rs, insecure⟩ := unsupported
  cases stype <;> simp_all [pkeyVerifySignature, verifierFor, bind, Except.bind]

theorem pkeyVerifySignature_supported_error (pkey : PKey) {stype : COSEAlgorithm}
    (supported : stype = .es256 ∨ stype = .rs256) {signature data : List UInt8} {e : WebauthnError}
    (failed : pkeyVerifySignature api pkey stype signature data = .error e) : ∃ stack, e = .openSSLError stack := by
  simp only [pkeyVerifySignature, checkSignature, bind_eq_error, mapError_eq_error] at failed
  rcases supported with rfl | rfl
  · simp only [verifierFor, mapError_eq_error] at failed
    rcases failed with ⟨s, -, rfl⟩ | ⟨_, -, ⟨s, -, rfl⟩ | ⟨_, -, s, -, rfl⟩⟩ <;> exact ⟨s, rfl⟩
  · simp only [verifierFor, bind_eq_error, mapError_eq_error] at failed
    rcases failed with (⟨s, -, rfl⟩ | ⟨_, -, s, -, rfl⟩) | ⟨_, -, ⟨s, -, rfl⟩ | ⟨_, -, s, -, rfl⟩⟩ <;>
      exact ⟨s, rfl⟩

end Verify

/-- The EC2 arm shared by `validate` and `get_openssl_pkey`: rebuild the OpenSSL key from the
named curve and the big-endian coordinates, and check it. -/
def COSEEC2Key.checkedEcKey (ec2k : COSEEC2Key) : WebauthnResult EcKey := do
  let curve := ec2k.curve.toOpensslNid
  let ecGroup ← (EcGroup.fromCurveName curve).mapError .openSSLError
  let xbn := fromSlice ec2k.x
  let ybn := fromSlice ec2k.y
  let ecKey ← (EcKey.fromPublicKeyAffineCoordinates ecGroup xbn ybn).mapError .openSSLError
  ecKey.checkKey.mapError .openSSLError
  pure ecKey

/-- The RSA arm shared by `validate` and `get_openssl_pkey`. -/
def COSERSAKey.rsaKey (rsak : COSERSAKey) : WebauthnResult Rsa := do
  let nbn := fromSlice rsak.n
  let ebn := fromSlice rsak.e.toList
  (Rsa.fromPublicComponents nbn ebn).mapError .openSSLError

theorem COSEEC2Key.checkedEcKey_eq (ec2k : COSEEC2Key) :
    ec2k.checkedEcKey =
      if ec2k.curve.params.onCurve (fromSlice ec2k.x) (fromSlice ec2k.y) then
        .ok ⟨ec2k.curve.group, fromSlice ec2k.x, fromSlice ec2k.y⟩
      else .error (.openSSLError .pointIsNotOnCurve) := by
  simp only [COSEEC2Key.checkedEcKey, ECDSACurve.fromCurveName_toOpensslNid,
    EcKey.fromPublicKeyAffineCoordinates, EcKey.checkKey]
  split <;> simp_all [ECDSACurve.group, bind, Except.bind, pure, Except.pure, Except.mapError]

namespace COSEKey

/-- `COSEKey::get_alg_key_ecc_x962_raw`: the uncompressed point `0x04 ‖ x ‖ y`. -/
def getAlgKeyEccX962Raw (k : COSEKey) : WebauthnResult (List UInt8) :=
  match k.key with
  | .ecEc2 ecpk => .ok (0x04 :: ecpk.x ++ ecpk.y)
  | _ => .error .coseKeyInvalidType

/-- `COSEKey::validate`. -/
def validate (k : COSEKey) : WebauthnResult Unit :=
  match k.key with
  | .ecEc2 ec2k => do
    let _ ← ec2k.checkedEcKey
    pure ()
  | .rsa rsak => do
    let _rsaKey ← rsak.rsaKey
    pure ()
  | .ecOkp _ => .error .coseKeyEDUnsupported

/-- `COSEKey::get_openssl_pkey`. -/
def getOpensslPkey (k : COSEKey) : WebauthnResult PKey :=
  match k.key with
  | .ecEc2 ec2k => do
    let ecKey ← ec2k.checkedEcKey
    (PKey.fromEcKey ecKey).mapError .openSSLError
  | .rsa rsak => do
    let rsaKey ← rsak.rsaKey
    (PKey.fromRsa rsaKey).mapError .openSSLError
  | _ => .error .coseKeyInvalidType

/-- `COSEKey::verify_signature`. -/
def verifySignature {V : Type} (api : SignApi V) (k : COSEKey) (signature verificationData : List UInt8) :
    WebauthnResult Bool := do
  let pkey ← k.getOpensslPkey
  pkeyVerifySignature api pkey k.type_ signature verificationData

@[simp] theorem validate_ecEc2 (type_ : COSEAlgorithm) (ec2k : COSEEC2Key) :
    validate ⟨type_, .ecEc2 ec2k⟩ =
      if ec2k.curve.params.onCurve (fromSlice ec2k.x) (fromSlice ec2k.y) then .ok ()
      else .error (.openSSLError .pointIsNotOnCurve) := by
  simp only [validate, COSEEC2Key.checkedEcKey_eq]
  split <;> rfl

@[simp] theorem validate_rsa (type_ : COSEAlgorithm) (rsak : COSERSAKey) :
    validate ⟨type_, .rsa rsak⟩ = .ok () := rfl

@[simp] theorem validate_ecOkp (type_ : COSEAlgorithm) (okpk : COSEOKPKey) :
    validate ⟨type_, .ecOkp okpk⟩ = .error .coseKeyEDUnsupported := rfl

theorem getOpensslPkey_ecEc2 (type_ : COSEAlgorithm) (ec2k : COSEEC2Key) :
    getOpensslPkey ⟨type_, .ecEc2 ec2k⟩ =
      if ec2k.curve.params.onCurve (fromSlice ec2k.x) (fromSlice ec2k.y) then
        .ok (.ec ⟨ec2k.curve.group, fromSlice ec2k.x, fromSlice ec2k.y⟩)
      else .error (.openSSLError .pointIsNotOnCurve) := by
  simp only [getOpensslPkey, COSEEC2Key.checkedEcKey_eq]
  split <;> rfl

theorem getOpensslPkey_rsa (type_ : COSEAlgorithm) (rsak : COSERSAKey) :
    getOpensslPkey ⟨type_, .rsa rsak⟩ = .ok (.rsa ⟨fromSlice rsak.n, fromSlice rsak.e.toList⟩) := rfl

/-- The EC2 arm of `TryFrom<&Value> for COSEKey`: curve at `-1`, coordinates at `-2` and `-3`. -/
def tryFromEc2 (m : List (Value × Value)) (type_ : COSEAlgorithm) : WebauthnResult COSEKey := do
  let curveTypeValue ← okOr (Value.get m (-1)) .coseKeyInvalidCBORValue
  let curveType ← cborTryI128 curveTypeValue
  let curve ← ECDSACurve.tryFrom curveType
  let xValue ← okOr (Value.get m (-2)) .coseKeyInvalidCBORValue
  let x ← cborTryBytes xValue
  let yValue ← okOr (Value.get m (-3)) .coseKeyInvalidCBORValue
  let y ← cborTryBytes yValue
  let coordLen := curve.coordinateSize
  if x.length ≠ coordLen ∨ y.length ≠ coordLen then .error .coseKeyECDSAXYInvalid
  else do
    let coseKey : COSEKey := ⟨type_, .ecEc2 ⟨curve, x, y⟩⟩
    coseKey.validate
    pure coseKey

/-- The RSA arm: `n` at `-1`, `e` at `-2`. -/
def tryFromRsa (m : List (Value × Value)) (type_ : COSEAlgorithm) : WebauthnResult COSEKey := do
  let nValue ← okOr (Value.get m (-1)) .coseKeyInvalidCBORValue
  let n ← cborTryBytes nValue
  let eValue ← okOr (Value.get m (-2)) .coseKeyInvalidCBORValue
  let e ← cborTryBytes eValue
  if sizes : n.length ≠ 256 ∨ e.length ≠ 3 then .error .coseKeyRSANEInvalid
  else do
    let eTemp : Mathlib.Vector UInt8 3 := ⟨e, by omega⟩
    let coseKey : COSEKey := ⟨type_, .rsa ⟨n, eTemp⟩⟩
    coseKey.validate
    pure coseKey

/-- The OKP arm: curve at `-1`, `x` at `-2`. -/
def tryFromOkp (m : List (Value × Value)) (type_ : COSEAlgorithm) : WebauthnResult COSEKey := do
  let curveTypeValue ← okOr (Value.get m (-1)) .coseKeyInvalidCBORValue
  let curveType ← cborTryI128 curveTypeValue
  let xValue ← okOr (Value.get m (-2)) .coseKeyInvalidCBORValue
  let x ← cborTryBytes xValue
  if size : x.length ≠ 32 then .error .coseKeyEDDSAXInvalid
  else do
    let xTemp : Mathlib.Vector UInt8 32 := ⟨x, by omega⟩
    let curve ← EDDSACurve.tryFrom curveType
    let coseKey : COSEKey := ⟨type_, .ecOkp ⟨curve, xTemp⟩⟩
    coseKey.validate
    pure coseKey

/-- `TryFrom<&serde_cbor_2::Value> for COSEKey`. -/
def tryFrom (d : Value) : WebauthnResult COSEKey := do
  let m ← cborTryMap d
  let keyTypeValue ← okOr (Value.get m 1) .coseKeyInvalidCBORValue
  let keyType ← cborTryI128 keyTypeValue
  let contentTypeValue ← okOr (Value.get m 3) .coseKeyInvalidCBORValue
  let contentType ← cborTryI128 contentTypeValue
  let type_ ← okOr (COSEAlgorithm.tryFrom contentType) .coseKeyInvalidAlgorithm
  if keyType = COSEKeyTypeId.ecEc2.toI128 ∧ (type_ = .es256 ∨ type_ = .es384 ∨ type_ = .es512) then
    tryFromEc2 m type_
  else if keyType = COSEKeyTypeId.ecRsa.toI128 ∧ type_ = .rs256 then
    tryFromRsa m type_
  else if keyType = COSEKeyTypeId.ecOkp.toI128 ∧ type_ = .eddsa then
    tryFromOkp m type_
  else .error .coseKeyInvalidType


theorem tryFromEc2_eq_ok {m : List (Value × Value)} {type_ : COSEAlgorithm} {k : COSEKey} :
    tryFromEc2 m type_ = .ok k ↔
      ∃ crv curve x y, Value.get m (-1) = some (.integer crv) ∧ ECDSACurve.tryFrom crv = .ok curve ∧
        Value.get m (-2) = some (.bytes x) ∧ Value.get m (-3) = some (.bytes y) ∧
        x.length = curve.coordinateSize ∧ y.length = curve.coordinateSize ∧
        curve.params.onCurve (fromSlice x) (fromSlice y) ∧ k = ⟨type_, .ecEc2 ⟨curve, x, y⟩⟩ := by
  simp only [tryFromEc2, bind_eq_ok, okOr_eq_ok, cborTryI128_eq_ok, cborTryBytes_eq_ok, ite_error_eq_ok,
    validate_ecEc2, pure_eq_ok, not_or, not_not]
  constructor
  · rintro ⟨_, c, crv, rfl, curve, hc, _, x', x, rfl, _, y', y, rfl, ⟨hx, hy⟩, u, valid, rfl⟩
    split at valid
    · exact ⟨crv, curve, x, y, c, hc, x', y', hx, hy, by assumption, rfl⟩
    · cases valid
  · rintro ⟨crv, curve, x, y, c, hc, x', y', hx, hy, point, rfl⟩
    exact ⟨_, c, crv, rfl, curve, hc, _, x', x, rfl, _, y', y, rfl, ⟨hx, hy⟩, (), by simp [point], rfl⟩

theorem tryFromRsa_eq_ok {m : List (Value × Value)} {type_ : COSEAlgorithm} {k : COSEKey} :
    tryFromRsa m type_ = .ok k ↔
      ∃ n e, Value.get m (-1) = some (.bytes n) ∧ Value.get m (-2) = some (.bytes e.toList) ∧
        n.length = 256 ∧ k = ⟨type_, .rsa ⟨n, e⟩⟩ := by
  simp only [tryFromRsa, bind_eq_ok, okOr_eq_ok, cborTryBytes_eq_ok, dite_error_eq_ok,
    validate_rsa, pure_eq_ok]
  constructor
  · rintro ⟨_, n', n, rfl, _, e', e, rfl, sizes, u, -, rfl⟩
    exact ⟨n, ⟨e, by omega⟩, n', e', by omega, rfl⟩
  · rintro ⟨n, ⟨e, he⟩, n', e', hn, rfl⟩
    refine ⟨_, n', n, rfl, _, e', e, rfl, by omega, ?_⟩
    simp

theorem tryFromOkp_ne_ok (m : List (Value × Value)) (type_ : COSEAlgorithm) (k : COSEKey) :
    tryFromOkp m type_ ≠ .ok k := by
  simp only [tryFromOkp, ne_eq, bind_eq_ok, dite_error_eq_ok, validate_ecOkp, not_exists, not_and]
  intros
  simp_all [bind, Except.bind]

theorem tryFromEc2_type {m : List (Value × Value)} {type_ : COSEAlgorithm} {k : COSEKey}
    (ok : tryFromEc2 m type_ = .ok k) : k.type_ = type_ := by
  obtain ⟨_, _, _, _, _, _, _, _, _, _, _, rfl⟩ := tryFromEc2_eq_ok.mp ok
  rfl

theorem tryFromRsa_type {m : List (Value × Value)} {type_ : COSEAlgorithm} {k : COSEKey}
    (ok : tryFromRsa m type_ = .ok k) : k.type_ = type_ := by
  obtain ⟨_, _, _, _, _, rfl⟩ := tryFromRsa_eq_ok.mp ok
  rfl

theorem tryFrom_eq_ok {v : Value} {k : COSEKey} :
    tryFrom v = .ok k ↔
      ∃ m kty alg, v = .map m ∧ Value.get m 1 = some (.integer kty) ∧
        Value.get m 3 = some (.integer alg) ∧ COSEAlgorithm.tryFrom alg = some k.type_ ∧
        ((kty = 2 ∧ (k.type_ = .es256 ∨ k.type_ = .es384 ∨ k.type_ = .es512) ∧
            tryFromEc2 m k.type_ = .ok k) ∨
          (kty = 3 ∧ k.type_ = .rs256 ∧ tryFromRsa m k.type_ = .ok k)) := by
  simp only [tryFrom, bind_eq_ok, okOr_eq_ok, cborTryI128_eq_ok, cborTryMap_eq_ok, COSEKeyTypeId.toI128]
  constructor
  · rintro ⟨m, rfl, _, k1, kty, rfl, _, k3, alg, rfl, type_, halg, ok⟩
    refine ⟨m, kty, alg, rfl, k1, k3, ?_⟩
    split_ifs at ok with ec2 rsa okp
    · rw [tryFromEc2_type ok]
      exact ⟨halg, .inl ⟨ec2.1, ec2.2, ok⟩⟩
    · rw [tryFromRsa_type ok]
      exact ⟨halg, .inr ⟨rsa.1, rsa.2, ok⟩⟩
    · exact absurd ok (tryFromOkp_ne_ok m type_ k)
  · rintro ⟨m, kty, alg, rfl, k1, k3, halg, arm⟩
    refine ⟨m, rfl, _, k1, kty, rfl, _, k3, alg, rfl, k.type_, halg, ?_⟩
    rcases arm with ⟨rfl, ecdsa, ok⟩ | ⟨rfl, rs, ok⟩
    · rw [if_pos ⟨rfl, ecdsa⟩, ok]
    · rw [if_neg (by simp), if_pos ⟨rfl, rs⟩, ok]

end COSEKey

end Webauthn
