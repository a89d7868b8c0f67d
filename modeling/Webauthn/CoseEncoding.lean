import Webauthn.Certificate

/-! The COSE_Key map of a key, in the RFC 8152 layout of §4.2, against the decoder of `crypto.rs`.
The crate writes keys through serde in `webauthn_rs_proto`, outside src/; the encoder here is the
layout the decoder reads, numbered as §3 and §4.2 number algorithms, key types and curves. The
decoder inverts it on every key it can return, those keys are exactly the valid EC2 and RSA keys,
a map is read only at its five labels, and every key converted from a certificate is one of them. -/
namespace Webauthn
open BigNum

/-- Modelled from the spec: the algorithm numbers of §3. `PinUvProtocol` has none. -/
def COSEAlgorithm.toI128 : COSEAlgorithm → Option Int
  | .es256 => some (-7)
  | .es384 => some (-35)
  | .es512 => some (-36)
  | .rs256 => some (-257)
  | .rs384 => some (-258)
  | .rs512 => some (-259)
  | .ps256 => some (-37)
  | .ps384 => some (-38)
  | .ps512 => some (-39)
  | .eddsa => some (-8)
  | .insecureRs1 => some (-65535)
  | .pinUvProtocol => none

/-- Modelled from the spec: the RFC 8152 identifiers that `ECDSACurve::try_from` reads. -/
def ECDSACurve.toI128 : ECDSACurve → Int
  | .secp256r1 => 1
  | .secp384r1 => 2
  | .secp521r1 => 3

/-- Modelled from the spec: the RFC 8152 identifiers that `EDDSACurve::try_from` reads. -/
def EDDSACurve.toI128 : EDDSACurve → Int
  | .ed25519 => 6
  | .ed448 => 7

def COSEKeyType.typeId : COSEKeyType → COSEKeyTypeId
  | .ecEc2 _ => .ecEc2
  | .ecOkp _ => .ecOkp
  | .rsa _ => .ecRsa

def COSEKeyType.parameters : COSEKeyType → List (Value × Value)
  | .ecEc2 ec2k =>
    [(.integer (-1), .integer ec2k.curve.toI128), (.integer (-2), .bytes ec2k.x), (.integer (-3), .bytes ec2k.y)]
  | .rsa rsak => [(.integer (-1), .bytes rsak.n), (.integer (-2), .bytes rsak.e.toList)]
  | .ecOkp okpk => [(.integer (-1), .integer okpk.curve.toI128), (.integer (-2), .bytes okpk.x.toList)]

/-- The COSE_Key map `{1: kty, 3: alg, ...parameters}` of a key whose algorithm has a number. -/
def COSEKey.toCbor (k : COSEKey) : Option Value :=
  k.type_.toI128.map fun alg =>
    .map ((.integer 1, .integer k.key.typeId.toI128) :: (.integer 3, .integer alg) :: k.key.parameters)

example : COSEKey.cborEs256Key.toCbor = some COSEKey.cborEs256 := rfl

theorem COSEAlgorithm.tryFrom_toI128 {alg : COSEAlgorithm} {i : Int} (numbered : alg.toI128 = some i) :
    COSEAlgorithm.tryFrom i = some alg := by
  cases alg <;> cases numbered <;> rfl

@[simp] theorem ECDSACurve.tryFrom_toI128 (curve : ECDSACurve) : ECDSACurve.tryFrom curve.toI128 = .ok curve := by
  cases curve <;> rfl

theorem ECDSACurve.coordinateSize_injective {curve curve' : ECDSACurve}
    (same : curve.coordinateSize = curve'.coordinateSize) : curve = curve' := by
  cases curve <;> cases curve' <;> first | rfl | cases same

namespace COSEKey

theorem toI128_isSome {alg : COSEAlgorithm} (admitted : alg = .es256 ∨ alg = .es384 ∨ alg = .es512 ∨ alg = .rs256) :
    ∃ i, alg.toI128 = some i := by
  rcases admitted with rfl | rfl | rfl | rfl <;> exact ⟨_, rfl⟩

theorem tryFrom_ec2_toCbor {type_ : COSEAlgorithm} {ec2k : COSEEC2Key} {alg : Int}
    (numbered : type_.toI128 = some alg) (valid : COSEKey.Valid ⟨type_, .ecEc2 ec2k⟩) :
    tryFrom (.map ((.integer 1, .integer 2) :: (.integer 3, .integer alg) :: (COSEKeyType.ecEc2 ec2k).parameters)) =
      .ok ⟨type_, .ecEc2 ec2k⟩ := by
  obtain ⟨ecdsa, lx, ly, point⟩ := valid
  refine tryFrom_eq_ok.mpr ⟨_, 2, alg, rfl, rfl, rfl, COSEAlgorithm.tryFrom_toI128 numbered, .inl ⟨rfl, ecdsa, ?_⟩⟩
  exact tryFromEc2_eq_ok.mpr
    ⟨ec2k.curve.toI128, ec2k.curve, ec2k.x, ec2k.y, rfl, by simp, rfl, rfl, lx, ly, point, rfl⟩

theorem tryFrom_rsa_toCbor {type_ : COSEAlgorithm} {rsak : COSERSAKey} {alg : Int}
    (numbered : type_.toI128 = some alg) (valid : COSEKey.Valid ⟨type_, .rsa rsak⟩) :
    tryFrom (.map ((.integer 1, .integer 3) :: (.integer 3, .integer alg) :: (COSEKeyType.rsa rsak).parameters)) =
      .ok ⟨type_, .rsa rsak⟩ := by
  obtain ⟨rs, ln⟩ := valid
  refine tryFrom_eq_ok.mpr ⟨_, 3, alg, rfl, rfl, rfl, COSEAlgorithm.tryFrom_toI128 numbered, .inr ⟨rfl, rs, ?_⟩⟩
  exact tryFromRsa_eq_ok.mpr ⟨rsak.n, rsak.e, rfl, rfl, ln, rfl⟩

theorem tryFrom_toCbor {k : COSEKey} (valid : k.Valid) (notEddsa : k.type_ ≠ .eddsa) :
    k.toCbor.map tryFrom = some (.ok k) := by
  obtain ⟨type_, key⟩ := k
  cases key with
  | ecEc2 ec2k =>
    obtain ⟨alg, numbered⟩ := toI128_isSome (valid.1.imp_right (.imp_right .inl))
    simp only [toCbor, numbered, Option.map_some', COSEKeyType.typeId, COSEKeyTypeId.toI128]
    rw [tryFrom_ec2_toCbor numbered valid]
  | rsa rsak =>
    obtain ⟨alg, numbered⟩ := toI128_isSome (.inr (.inr (.inr valid.1)))
    simp only [toCbor, numbered, Option.map_some', COSEKeyType.typeId, COSEKeyTypeId.toI128]
    rw [tryFrom_rsa_toCbor numbered valid]
  | ecOkp okpk => exact absurd valid notEddsa

theorem tryFrom_valid_not_eddsa {v : Value} {k : COSEKey} (decoded : tryFrom v = .ok k) :
    k.Valid ∧ k.type_ ≠ .eddsa := by
  obtain ⟨_, _, _, -, -, -, -, arm⟩ := tryFrom_eq_ok.mp decoded
  refine ⟨tryFrom_valid decoded, ?_⟩
  rcases arm with ⟨-, ecdsa | ecdsa | ecdsa, -⟩ | ⟨-, rs, -⟩ <;> simp [*]

/-- The COSE_Key map of a key decodes back to it exactly when the key is valid and not an EdDSA
key: the decoder checks every invariant, and reads the layout it checks. -/
theorem toCbor_round_trip_iff {k : COSEKey} : k.toCbor.map tryFrom = some (.ok k) ↔ k.Valid ∧ k.type_ ≠ .eddsa := by
  constructor
  · intro encoded
    obtain ⟨v, -, decoded⟩ := Option.map_eq_some'.mp encoded
    exact tryFrom_valid_not_eddsa decoded
  · exact fun ⟨valid, notEddsa⟩ => tryFrom_toCbor valid notEddsa

/-- Two maps with one entry per label that hold the same entries at the labels `1`, `3`, `-1`, `-2`
and `-3` decode alike: the decoder reads no other entry, and not the order of the entries. -/
theorem tryFrom_reads_only_labels {m m' : List (Value × Value)} (unique : Value.UniqueKeys m)
    (unique' : Value.UniqueKeys m')
    (agree : ∀ label ∈ [1, 3, -1, -2, -3], ∀ v, (.integer label, v) ∈ m ↔ (.integer label, v) ∈ m') :
    tryFrom (.map m) = tryFrom (.map m') := by
  have lookups : ∀ label ∈ [1, 3, -1, -2, -3], Value.get m label = Value.get m' label :=
    fun label listed => Value.get_congr unique unique' (agree label listed)
  simp only [List.mem_cons, List.mem_singleton, forall_eq_or_imp, forall_eq, List.not_mem_nil, or_false] at lookups
  obtain ⟨k1, k3, kcrv, kx, ky⟩ := lookups
  simp only [tryFrom, tryFromEc2, tryFromRsa, tryFromOkp, cborTryMap, ok_bind, k1, k3, kcrv, kx, ky]

/-- The entries of `cbor_es256` in reverse order, with a key id at label `2` among them. -/
def cborEs256WithKid : List (Value × Value) :=
  [(.integer (-3), .bytes cborEs256Y), (.integer 2, .bytes [0x01]), (.integer (-2), .bytes cborEs256X),
    (.integer (-1), .integer 1), (.integer 3, .integer (-7)), (.integer 1, .integer 2)]

theorem cbor_es256_kid_ignored :
    (Value.UniqueKeys cborEs256WithKid ∧
      Value.UniqueKeys [(.integer 1, .integer 2), (.integer 3, .integer (-7)), (.integer (-1), .integer 1),
        (.integer (-2), .bytes cborEs256X), (.integer (-3), .bytes cborEs256Y)] ∧
      ∀ label ∈ [1, 3, -1, -2, -3], ∀ v, (.integer label, v) ∈ cborEs256WithKid ↔
        (.integer label, v) ∈ ([(.integer 1, .integer 2), (.integer 3, .integer (-7)), (.integer (-1), .integer 1),
          (.integer (-2), .bytes cborEs256X), (.integer (-3), .bytes cborEs256Y)] : List (Value × Value))) ∧
      tryFrom (.map cborEs256WithKid) = tryFrom cborEs256 := by
  refine ⟨⟨?unique, ?unique', ?agree⟩, tryFrom_reads_only_labels ?unique ?unique' ?agree⟩
  · simp [Value.UniqueKeys, cborEs256WithKid]
  · simp [Value.UniqueKeys]
  · simp only [List.mem_cons, List.mem_singleton, List.not_mem_nil, or_false]
    rintro _ (rfl | rfl | rfl | rfl | rfl) v <;> simp [cborEs256WithKid]

/-- A key converted from a certificate is valid, so its COSE_Key map decodes back to it. -/
theorem tryFromX509_toCbor {alg : COSEAlgorithm} {cert : X509} {k : COSEKey} (converted : tryFromX509 alg cert = .ok k) :
    k.toCbor.map tryFrom = some (.ok k) := by
  obtain ⟨ecdsa, key, ec2, rfl⟩ := tryFromX509_eq_ok.mp converted
  obtain ⟨⟨g, x, y⟩, curve, -, valid, name, lx, ly, rfl⟩ := ec2FromX509_eq_ok.mp ec2
  obtain rfl : g = curve.group := ECDSACurve.eq_group name
  refine tryFrom_toCbor ⟨ecdsa, by rw [length_toVec, lx], by rw [length_toVec, ly], ?_⟩ ?_
  · simpa only [fromSlice_toVec] using valid
  · rcases ecdsa with rfl | rfl | rfl <;> nofun

set_option maxRecDepth 4000 in
theorem p256_certificate_key_round_trip :
    tryFromX509 .es256 p256Certificate = .ok p256CertificateKey ∧
      p256CertificateKey.toCbor.map tryFrom = some (.ok p256CertificateKey) :=
  have converted : tryFromX509 .es256 p256Certificate = .ok p256CertificateKey := rfl
  ⟨converted, tryFromX509_toCbor converted⟩

/-- The uncompressed point `0x04 ‖ x ‖ y` that the U2F path signs determines a decoded EC2 key's
curve and coordinates: two decoded keys with the same raw point have the same key material. -/
theorem x962Raw_determines_key {v v' : Value} {k k' : COSEKey} {ec2k ec2k' : COSEEC2Key}
    (decoded : tryFrom v = .ok k) (decoded' : tryFrom v' = .ok k') (ec2 : k.key = .ecEc2 ec2k)
    (ec2' : k'.key = .ecEc2 ec2k') (same : k.getAlgKeyEccX962Raw = k'.getAlgKeyEccX962Raw) : ec2k = ec2k' := by
  obtain ⟨curve, x, y⟩ := ec2k
  obtain ⟨curve', x', y'⟩ := ec2k'
  have valid := tryFrom_valid decoded
  have valid' := tryFrom_valid decoded'
  simp only [Valid, ec2, ec2'] at valid valid'
  simp only [getAlgKeyEccX962Raw, ec2, ec2', Except.ok.injEq] at same
  have sizes : curve.coordinateSize = curve'.coordinateSize := by
    have lengths := congrArg List.length same
    simp only [List.length_append, List.length_cons, valid.2.1, valid.2.2.1, valid'.2.1, valid'.2.2.1] at lengths
    omega
  obtain rfl := ECDSACurve.coordinateSize_injective sizes
  obtain ⟨sameX, rfl⟩ := List.append_inj same (by simp only [List.length_cons, valid.2.1, valid'.2.1])
  obtain ⟨-, rfl⟩ := List.cons.inj sameX
  rfl

/-- The point of `cbor_es256` under the algorithm number of `ES384`, on P-256. -/
def cborEs384OnP256 : Value :=
  .map [(.integer 1, .integer 2), (.integer 3, .integer (-35)), (.integer (-1), .integer 1),
    (.integer (-2), .bytes cborEs256X), (.integer (-3), .bytes cborEs256Y)]

theorem cbor_es256_x962Raw_determines_key :
    (tryFrom cborEs256 = .ok cborEs256Key ∧
      tryFrom cborEs384OnP256 = .ok ⟨.es384, .ecEc2 ⟨.secp256r1, cborEs256X, cborEs256Y⟩⟩ ∧
      cborEs256Key.getAlgKeyEccX962Raw =
        (⟨.es384, .ecEc2 ⟨.secp256r1, cborEs256X, cborEs256Y⟩⟩ : COSEKey).getAlgKeyEccX962Raw) ∧
      (⟨.secp256r1, cborEs256X, cborEs256Y⟩ : COSEEC2Key) = ⟨.secp256r1, cborEs256X, cborEs256Y⟩ :=
  have decoded : tryFrom cborEs256 = .ok cborEs256Key := rfl
  have decoded' : tryFrom cborEs384OnP256 = .ok ⟨.es384, .ecEc2 ⟨.secp256r1, cborEs256X, cborEs256Y⟩⟩ := rfl
  ⟨⟨decoded, decoded', rfl⟩, x962Raw_determines_key decoded decoded' rfl rfl rfl⟩

end COSEKey

end Webauthn
