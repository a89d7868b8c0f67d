import Webauthn.CoseKey

/-! What a COSE_Key map means (RFC 8152 as §4.2 of the spec reads it) and the invariants a
constructed key keeps (§3). The decoder of `crypto.rs` is sound for the first and establishes
the second; the keys it admits are then followed into `verify_signature`. -/
namespace Webauthn
open BigNum

/-- The consistency table of §4.2: `(EC2, ES256|ES384|ES512)`, `(RSA, RS256)`, `(OKP, EDDSA)`. -/
def InTable (kty : Int) (alg : COSEAlgorithm) : Prop :=
  (kty = 2 ∧ (alg = .es256 ∨ alg = .es384 ∨ alg = .es512)) ∨ (kty = 3 ∧ alg = .rs256) ∨
    (kty = 1 ∧ alg = .eddsa)

def Ec2Row (m : List (Value × Value)) (k : COSEKey) : Prop :=
  ∃ crv curve x y, Value.get m (-1) = some (.integer crv) ∧ ECDSACurve.tryFrom crv = .ok curve ∧
    Value.get m (-2) = some (.bytes x) ∧ Value.get m (-3) = some (.bytes y) ∧
    k.key = .ecEc2 ⟨curve, x, y⟩ ∧ x.length = curve.coordinateSize ∧ y.length = curve.coordinateSize

def RsaRow (m : List (Value × Value)) (k : COSEKey) : Prop :=
  ∃ (n : List UInt8) (e : Mathlib.Vector UInt8 3), Value.get m (-1) = some (.bytes n) ∧
    Value.get m (-2) = some (.bytes e.toList) ∧ k.key = .rsa ⟨n, e⟩ ∧ n.length = 256

def OkpRow (m : List (Value × Value)) (k : COSEKey) : Prop :=
  ∃ (crv : Int) (curve : EDDSACurve) (x : Mathlib.Vector UInt8 32), Value.get m (-1) = some (.integer crv) ∧
    EDDSACurve.tryFrom crv = .ok curve ∧ Value.get m (-2) = some (.bytes x.toList) ∧
    k.key = .ecOkp ⟨curve, x⟩

def Decodes (v : Value) (k : COSEKey) : Prop :=
  ∃ m kty alg, v = .map m ∧ Value.get m 1 = some (.integer kty) ∧
    Value.get m 3 = some (.integer alg) ∧ COSEAlgorithm.tryFrom alg = some k.type_ ∧
    ((kty = 2 ∧ (k.type_ = .es256 ∨ k.type_ = .es384 ∨ k.type_ = .es512) ∧ Ec2Row m k) ∨
      (kty = 3 ∧ k.type_ = .rs256 ∧ RsaRow m k) ∨ (kty = 1 ∧ k.type_ = .eddsa ∧ OkpRow m k))

/-- The invariants of §3: the algorithm fits the key type, EC2 coordinates have the curve's size
and name a point of it, an RSA modulus has 2048 bits (`e` has 3 bytes by its type). -/
def COSEKey.Valid (k : COSEKey) : Prop :=
  match k.key with
  | .ecEc2 ec2k => (k.type_ = .es256 ∨ k.type_ = .es384 ∨ k.type_ = .es512) ∧
      ec2k.x.length = ec2k.curve.coordinateSize ∧ ec2k.y.length = ec2k.curve.coordinateSize ∧
      ec2k.curve.params.onCurve (fromSlice ec2k.x) (fromSlice ec2k.y)
  | .rsa rsak => k.type_ = .rs256 ∧ rsak.n.length = 256
  | .ecOkp _ => k.type_ = .eddsa

def ValidCOSEKey : Type := { k : COSEKey // k.Valid }

namespace COSEKey

theorem tryFrom_decodes {v : Value} {k : COSEKey} (decoded : tryFrom v = .ok k) : Decodes v k := by
  obtain ⟨m, kty, alg, rfl, k1, k3, halg, arm⟩ := tryFrom_eq_ok.mp decoded
  refine ⟨m, kty, alg, rfl, k1, k3, halg, ?_⟩
  rcases arm with ⟨two, ecdsa, ok⟩ | ⟨three, rs, ok⟩
  · obtain ⟨crv, curve, x, y, c, hc, hx, hy, lx, ly, -, same⟩ := tryFromEc2_eq_ok.mp ok
    exact .inl ⟨two, ecdsa, crv, curve, x, y, c, hc, hx, hy, congrArg key same, lx, ly⟩
  · obtain ⟨n, e, hn, he, ln, same⟩ := tryFromRsa_eq_ok.mp ok
    exact .inr (.inl ⟨three, rs, n, e, hn, he, congrArg key same, ln⟩)

theorem tryFrom_valid {v : Value} {k : COSEKey} (decoded : tryFrom v = .ok k) : k.Valid := by
  obtain ⟨m, kty, alg, -, -, -, -, arm⟩ := tryFrom_eq_ok.mp decoded
  rcases arm with ⟨-, ecdsa, ok⟩ | ⟨-, rs, ok⟩
  · obtain ⟨_, curve, x, y, -, -, -, -, lx, ly, point, same⟩ := tryFromEc2_eq_ok.mp ok
    rw [same]
    exact ⟨ecdsa, lx, ly, point⟩
  · obtain ⟨n, e, -, -, ln, same⟩ := tryFromRsa_eq_ok.mp ok
    rw [same]
    exact ⟨rs, ln⟩

def tryFromValid (v : Value) : WebauthnResult ValidCOSEKey :=
  match decoded : tryFrom v with
  | .ok k => .ok ⟨k, tryFrom_valid decoded⟩
  | .error e => .error e

theorem tryFromValid_val (v : Value) : (tryFromValid v).map Subtype.val = tryFrom v := by
  unfold tryFromValid
  split <;> simp_all [Except.map]

theorem tryFrom_kty_missing {m : List (Value × Value)} (missing : Value.get m 1 = none) :
    tryFrom (.map m) = .error .coseKeyInvalidCBORValue := by
  simp [tryFrom, cborTryMap, missing, bind, Except.bind]

theorem tryFrom_alg_missing {m : List (Value × Value)} {kty : Int}
    (k1 : Value.get m 1 = some (.integer kty)) (missing : Value.get m 3 = none) :
    tryFrom (.map m) = .error .coseKeyInvalidCBORValue := by
  simp [tryFrom, cborTryMap, cborTryI128, k1, missing, bind, Except.bind]

theorem tryFrom_outside_table {m : List (Value × Value)} {kty alg : Int} {type_ : COSEAlgorithm}
    (k1 : Value.get m 1 = some (.integer kty)) (k3 : Value.get m 3 = some (.integer alg))
    (known : COSEAlgorithm.tryFrom alg = some type_) (outside : ¬InTable kty type_) :
    tryFrom (.map m) = .error .coseKeyInvalidType := by
  simp only [InTable, not_or] at outside
  simp [tryFrom, cborTryMap, cborTryI128, k1, k3, known, bind, Except.bind, COSEKeyTypeId.toI128,
    outside.1, outside.2.1, outside.2.2]

/-- The decoder is faithful: what it returns is read exactly from the map, by the consistency
table; a map without the key-type or algorithm label is malformed, and a known pair outside the
table is an invalid type. -/
theorem tryFrom_faithful :
    (∀ v k, tryFrom v = .ok k → Decodes v k) ∧
    (∀ m, Value.get m 1 = none → tryFrom (.map m) = .error .coseKeyInvalidCBORValue) ∧
    (∀ m kty, Value.get m 1 = some (.integer kty) → Value.get m 3 = none →
      tryFrom (.map m) = .error .coseKeyInvalidCBORValue) ∧
    (∀ m kty alg type_, Value.get m 1 = some (.integer kty) → Value.get m 3 = some (.integer alg) →
      COSEAlgorithm.tryFrom alg = some type_ → ¬InTable kty type_ →
      tryFrom (.map m) = .error .coseKeyInvalidType) :=
  ⟨fun _ _ => tryFrom_decodes, fun _ => tryFrom_kty_missing, fun _ _ => tryFrom_alg_missing,
    fun _ _ _ _ => tryFrom_outside_table⟩

/-- The coordinates of the crate's test `cbor_es256`. -/
def cborEs256X : List UInt8 :=
  [0x65, 0xed, 0xa5, 0xa1, 0x25, 0x77, 0xc2, 0xba, 0xe8, 0x29, 0x43, 0x7f, 0xe3, 0x38, 0x70, 0x1a,
    0x10, 0xaa, 0xa3, 0x75, 0xe1, 0xbb, 0x5b, 0x5d, 0xe1, 0x08, 0xde, 0x43, 0x9c, 0x08, 0x55, 0x1d]

def cborEs256Y : List UInt8 :=
  [0x1e, 0x52, 0xed, 0x75, 0x70, 0x11, 0x63, 0xf7, 0xf9, 0xe4, 0x0d, 0xdf, 0x9f, 0x34, 0x1b, 0x3d,
    0xc9, 0xba, 0x86, 0x0a, 0xf7, 0xe0, 0xca, 0x7c, 0xa7, 0xe9, 0xee, 0xcd, 0x00, 0x84, 0xd1, 0x9c]

/-- The map of `cbor_es256`: `{1: 2, 3: -7, -1: 1, -2: x, -3: y}`. -/
def cborEs256 : Value :=
  .map [(.integer 1, .integer 2), (.integer 3, .integer (-7)), (.integer (-1), .integer 1),
    (.integer (-2), .bytes cborEs256X), (.integer (-3), .bytes cborEs256Y)]

def cborEs256Key : COSEKey := ⟨.es256, .ecEc2 ⟨.secp256r1, cborEs256X, cborEs256Y⟩⟩

theorem tryFrom_faithful_cbor_es256 :
    (tryFrom cborEs256 = .ok cborEs256Key ∧ Decodes cborEs256 cborEs256Key) ∧
    (Value.get [] 1 = none ∧ tryFrom (.map []) = .error .coseKeyInvalidCBORValue) ∧
    (Value.get [(.integer 1, .integer 2)] 3 = none ∧
      tryFrom (.map [(.integer 1, .integer 2)]) = .error .coseKeyInvalidCBORValue) ∧
    (¬InTable 3 .es256 ∧
      tryFrom (.map [(.integer 1, .integer 3), (.integer 3, .integer (-7))]) = .error .coseKeyInvalidType) :=
  ⟨⟨rfl, tryFrom_faithful.1 _ _ rfl⟩, ⟨rfl, tryFrom_faithful.2.1 [] rfl⟩,
    ⟨rfl, tryFrom_faithful.2.2.1 _ 2 rfl rfl⟩,
    ⟨by simp [InTable], tryFrom_faithful.2.2.2 _ 3 (-7) .es256 rfl rfl rfl (by simp [InTable])⟩⟩

theorem Valid.getOpensslPkey_ok {k : COSEKey} (valid : k.Valid) (notOkp : k.type_ ≠ .eddsa) :
    ∃ pkey, k.getOpensslPkey = .ok pkey := by
  obtain ⟨type_, key⟩ := k
  cases key with
  | ecEc2 ec2k => exact ⟨_, by rw [getOpensslPkey_ecEc2, if_pos valid.2.2.2]⟩
  | rsa rsak => exact ⟨_, getOpensslPkey_rsa type_ rsak⟩
  | ecOkp okpk => exact absurd valid notOkp

theorem tryFrom_getOpensslPkey {v : Value} {k : COSEKey} (decoded : tryFrom v = .ok k) :
    ∃ pkey, k.getOpensslPkey = .ok pkey := by
  obtain ⟨_, _, _, _, _, _, _, arm⟩ := tryFrom_eq_ok.mp decoded
  refine (tryFrom_valid decoded).getOpensslPkey_ok ?_
  rcases arm with ⟨-, ecdsa | ecdsa | ecdsa, -⟩ | ⟨-, rs, -⟩ <;> simp [*]

/-- Keys decoded as `ES384` or `ES512` are never verified: `pkey_verify_signature` has no arm for
them, so every signature is refused as an invalid key type. -/
theorem tryFrom_es384_es512_refused {v : Value} {k : COSEKey} (decoded : tryFrom v = .ok k)
    (ecdsa : k.type_ = .es384 ∨ k.type_ = .es512) :
    ∀ {V : Type} (api : SignApi V) (signature data : List UInt8),
      k.verifySignature api signature data = .error .coseKeyInvalidType := by
  intro V api signature data
  obtain ⟨pkey, rebuilt⟩ := tryFrom_getOpensslPkey decoded
  rw [verifySignature, rebuilt]
  exact pkeyVerifySignature_of_unsupported api pkey (by rcases ecdsa with same | same <;> simp [same]) _ _

def cborEs512X : List UInt8 :=
  [0x01, 0x06, 0xcf, 0xaa, 0xcf, 0x34, 0xb1, 0x3f, 0x24, 0xbb, 0xb2, 0xf8, 0x06, 0xfd, 0x9c, 0xfa,
    0xcf, 0xf9, 0xa2, 0xa5, 0xef, 0x9e, 0xcf, 0xcd, 0x85, 0x66, 0x46, 0x09, 0xa0, 0xb2, 0xf6, 0xd4,
    0xfd, 0xb8, 0xe1, 0xd5, 0x86, 0x30, 0x90, 0x5f, 0x13, 0xf3, 0x8d, 0x8e, 0xed, 0x87, 0x14, 0xec,
    0xeb, 0x71, 0x69, 0x20, 0xa3, 0xa2, 0x35, 0x58, 0x16, 0x23, 0x26, 0x1f, 0xed, 0x96, 0x1f, 0x7b,
    0x7d, 0x72]

def cborEs512Y : List UInt8 :=
  [0x00, 0x89, 0x59, 0x7a, 0x05, 0x2a, 0x8d, 0x3c, 0x8b, 0x2b, 0x56, 0x92, 0xd4, 0x67, 0xde, 0xa1,
    0x9f, 0x8e, 0x1b, 0x9c, 0xa1, 0x7f, 0xa5, 0x63, 0xa1, 0xa8, 0x26, 0x85, 0x5d, 0xad, 0xe0, 0x48,
    0x11, 0xb2, 0x88, 0x18, 0x19, 0xe7, 0x2f, 0x17, 0x06, 0xda, 0xea, 0xf7, 0xd3, 0x77, 0x3b, 0x2e,
    0x28, 0x49, 0x83, 0xa0, 0xee, 0xc3, 0x3c, 0x2f, 0xe3, 0xff, 0x56, 0x97, 0x72, 0x2e, 0x95, 0xb2,
    0x95, 0x36]

/-- The map of the crate's test `cbor_es512`: `{1: 2, 3: -36, -1: 3, -2: x, -3: y}`, a P-521 key. -/
def cborEs512 : Value :=
  .map [(.integer 1, .integer 2), (.integer 3, .integer (-36)), (.integer (-1), .integer 3),
    (.integer (-2), .bytes cborEs512X), (.integer (-3), .bytes cborEs512Y)]

def cborEs512Key : COSEKey := ⟨.es512, .ecEc2 ⟨.secp521r1, cborEs512X, cborEs512Y⟩⟩

set_option maxRecDepth 4000 in
theorem cbor_es512_refused_by_verifier :
    tryFrom cborEs512 = .ok cborEs512Key ∧
      ∀ {V : Type} (api : SignApi V) (signature data : List UInt8),
        cborEs512Key.verifySignature api signature data = .error .coseKeyInvalidType :=
  have decoded : tryFrom cborEs512 = .ok cborEs512Key := rfl
  ⟨decoded, tryFrom_es384_es512_refused decoded (.inr rfl)⟩

/-- Keys decoded as `ES256` or `RS256` reach the signature check: `verify_signature` fails only
where OpenSSL does, never with a key-type, EdDSA or insecure-algorithm refusal. -/
theorem tryFrom_es256_rs256_fail_only_in_openssl {v : Value} {k : COSEKey} (decoded : tryFrom v = .ok k)
    (supported : k.type_ = .es256 ∨ k.type_ = .rs256) {V : Type} (api : SignApi V)
    (signature data : List UInt8) {e : WebauthnError} (failed : k.verifySignature api signature data = .error e) :
    ∃ stack, e = .openSSLError stack := by
  obtain ⟨pkey, rebuilt⟩ := tryFrom_getOpensslPkey decoded
  rw [verifySignature, rebuilt, ok_bind] at failed
  exact pkeyVerifySignature_supported_error api pkey supported failed

/-- An OpenSSL whose verifier cannot be created. -/
def failingSignApi : SignApi Unit :=
  ⟨fun _ _ => .error (.other 1), fun v _ => .ok v, fun v _ => .ok v, fun _ _ => .ok true⟩

theorem cbor_es256_fails_only_in_openssl :
    tryFrom cborEs256 = .ok cborEs256Key ∧
      cborEs256Key.verifySignature failingSignApi [] [] = .error (.openSSLError (.other 1)) ∧
      ∃ stack, WebauthnError.openSSLError (.other 1) = .openSSLError stack :=
  have decoded : tryFrom cborEs256 = .ok cborEs256Key := rfl
  have failed : cborEs256Key.verifySignature failingSignApi [] [] = .error (.openSSLError (.other 1)) := rfl
  ⟨decoded, failed, tryFrom_es256_rs256_fail_only_in_openssl decoded (.inl rfl) failingSignApi [] [] failed⟩

/-- `get_alg_key_ecc_x962_raw` of a decoded EC2 key: `0x04`, `x`, `y`, two coordinates of the
curve's size. -/
theorem tryFrom_x962_raw {v : Value} {k : COSEKey} {ec2k : COSEEC2Key} (decoded : tryFrom v = .ok k)
    (ec2 : k.key = .ecEc2 ec2k) :
    k.getAlgKeyEccX962Raw = .ok (0x04 :: ec2k.x ++ ec2k.y) ∧
      (0x04 :: ec2k.x ++ ec2k.y).length = 2 * ec2k.curve.coordinateSize + 1 := by
  have valid := tryFrom_valid decoded
  simp only [COSEKey.Valid, ec2] at valid
  refine ⟨by simp only [getAlgKeyEccX962Raw, ec2], ?_⟩
  simp only [List.cons_append, List.length_cons, List.length_append, valid.2.1, valid.2.2.1]
  omega

theorem cbor_es256_x962_raw :
    cborEs256Key.getAlgKeyEccX962Raw = .ok (0x04 :: cborEs256X ++ cborEs256Y) ∧
      (0x04 :: cborEs256X ++ cborEs256Y).length = 2 * ECDSACurve.secp256r1.coordinateSize + 1 :=
  tryFrom_x962_raw (v := cborEs256) rfl rfl

/-- No key of type `EC_OKP` is ever constructed: `validate` refuses every EdDSA key. -/
theorem tryFrom_never_okp {v : Value} {k : COSEKey} (decoded : tryFrom v = .ok k) (okpk : COSEOKPKey) :
    k.key ≠ .ecOkp okpk := by
  obtain ⟨_, _, _, -, -, -, -, arm⟩ := tryFrom_eq_ok.mp decoded
  rcases arm with ⟨-, -, ok⟩ | ⟨-, -, ok⟩
  · obtain ⟨_, _, _, _, _, _, _, _, _, _, _, same⟩ := tryFromEc2_eq_ok.mp ok
    rw [same]
    simp
  · obtain ⟨_, _, _, _, _, same⟩ := tryFromRsa_eq_ok.mp ok
    rw [same]
    simp

theorem cbor_es256_not_okp :
    cborEs256Key.key ≠ .ecOkp ⟨.ed25519, ⟨List.replicate 32 0, List.length_replicate 32 0⟩⟩ :=
  tryFrom_never_okp (v := cborEs256) rfl _

end COSEKey

end Webauthn
