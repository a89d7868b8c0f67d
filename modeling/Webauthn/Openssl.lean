import Mathlib.Tactic.Ring
import Webauthn.Proto

/-! The parts of OpenSSL that `crypto.rs` calls: big-endian `BigNum` conversion, the three
named prime curves with the point check of `EC_KEY_check_key`, public keys, and the digest
verifier. The verifier's digest and signature arithmetic is taken as given (`SignApi`):
what is proved about verification holds for every such API. -/
namespace Webauthn

namespace BigNum

/-- `BigNum::from_slice` (`BN_bin2bn`): the big-endian number of a byte string. -/
def fromSlice (bytes : List UInt8) : Nat := bytes.foldl (fun acc b => acc * 256 + b.toNat) 0

/-- The bit length of `n`, when `n ≤ fuel`. -/
def bitLength : Nat → Nat → Nat
  | 0, _ => 0
  | fuel + 1, n => if n = 0 then 0 else bitLength fuel (n / 2) + 1

/-- `BN_num_bits`. -/
def numBits (n : Nat) : Nat := bitLength n n

/-- `BigNum::num_bytes` (`BN_num_bytes`). -/
def numBytes (n : Nat) : Nat := (numBits n + 7) / 8

/-- `BigNum::to_vec_padded` (`BN_bn2binpad`): the `len` low-order bytes of `n`, big-endian. -/
def toVecPadded (n len : Nat) : List UInt8 :=
  (List.range len).reverse.map (fun i => (n / 256 ^ i % 256).toUInt8)

/-- `BigNum::to_vec` (`BN_bn2bin`): the minimal big-endian encoding, empty for zero. -/
def toVec (n : Nat) : List UInt8 := toVecPadded n (numBytes n)

private theorem foldl_acc (bytes : List UInt8) (acc : Nat) :
    bytes.foldl (fun acc b => acc * 256 + b.toNat) acc = acc * 256 ^ bytes.length + fromSlice bytes := by
  unfold fromSlice
  induction bytes generalizing acc with
  | nil => simp
  | cons b bytes ih =>
    rw [List.foldl_cons, List.foldl_cons, ih (acc * 256 + b.toNat), ih (0 * 256 + b.toNat),
      List.length_cons, Nat.pow_succ]
    ring

theorem fromSlice_cons (b : UInt8) (bytes : List UInt8) :
    fromSlice (b :: bytes) = b.toNat * 256 ^ bytes.length + fromSlice bytes := by
  simpa [fromSlice] using foldl_acc bytes b.toNat

@[simp] theorem length_toVecPadded (n len : Nat) : (toVecPadded n len).length = len := by
  simp [toVecPadded]

theorem fromSlice_toVecPadded (n len : Nat) : fromSlice (toVecPadded n len) = n % 256 ^ len := by
  induction len with
  | zero => simp [toVecPadded, fromSlice, Nat.mod_one]
  | succ len ih =>
    have byte : (n / 256 ^ len % 256).toUInt8.toNat = n / 256 ^ len % 256 :=
      UInt8.toNat_ofNat_of_lt (Nat.mod_lt _ (by decide))
    have split : toVecPadded n (len + 1) = (n / 256 ^ len % 256).toUInt8 :: toVecPadded n len := by
      simp [toVecPadded, List.range_succ]
    rw [split, fromSlice_cons, byte, length_toVecPadded, ih, Nat.mod_pow_succ]
    ring

theorem bitLength_le_iff {fuel n : Nat} (enough : n ≤ fuel) (m : Nat) :
    bitLength fuel n ≤ m ↔ n < 2 ^ m := by
  induction fuel generalizing n m with
  | zero => simp [bitLength, Nat.le_zero.mp enough, Nat.pos_pow_of_pos]
  | succ fuel ih =>
    by_cases zero : n = 0
    · simp [bitLength, zero, Nat.pos_pow_of_pos]
    · cases m with
      | zero => simp [bitLength, zero]
      | succ m =>
        simp only [bitLength, zero, if_false, Nat.add_le_add_iff_right, ih (n := n / 2) (by omega),
          Nat.pow_succ]
        omega

theorem numBytes_le_iff (n k : Nat) : numBytes n ≤ k ↔ n < 256 ^ k := by
  have bits := bitLength_le_iff (le_refl n) (8 * k)
  rw [Nat.pow_mul] at bits
  rw [numBytes, numBits, ← show (2 ^ 8) ^ k = 256 ^ k by norm_num, ← bits]
  omega

theorem lt_pow_numBytes (n : Nat) : n < 256 ^ numBytes n := (numBytes_le_iff n _).mp le_rfl

@[simp] theorem length_toVec (n : Nat) : (toVec n).length = numBytes n := length_toVecPadded _ _

@[simp] theorem fromSlice_toVec (n : Nat) : fromSlice (toVec n) = n := by
  rw [toVec, fromSlice_toVecPadded, Nat.mod_eq_of_lt (lt_pow_numBytes n)]

theorem numBytes_ne_of_lt {n k : Nat} (positive : 0 < k) (small : n < 256 ^ (k - 1)) :
    numBytes n ≠ k := by
  have := (numBytes_le_iff n (k - 1)).mpr small
  omega

theorem numBytes_eq_iff {n k : Nat} (positive : 0 < k) (fits : n < 256 ^ k) :
    numBytes n = k ↔ 256 ^ (k - 1) ≤ n := by
  have upper := (numBytes_le_iff n k).mpr fits
  have lower := numBytes_le_iff n (k - 1)
  constructor
  · intro same
    exact Nat.not_lt.mp fun small => by have := lower.mpr small; omega
  · intro large
    have := mt lower.mp (Nat.not_lt.mpr large)
    omega

end BigNum

/-- A short Weierstrass curve `y² = x³ + a·x + b` over the integers modulo the prime `p`. -/
structure CurveParams where
  p : Nat
  a : Nat
  b : Nat
  deriving DecidableEq

/-- The affine point `(x, y)` has reduced coordinates and lies on the curve. Each curve below has
cofactor 1, so this is all that `EC_KEY_check_key` asks of a public point. -/
def CurveParams.onCurve (c : CurveParams) (x y : Nat) : Bool :=
  x < c.p && y < c.p && y * y % c.p == (x * x * x + c.a * x + c.b) % c.p

namespace CurveParams

def p256 : CurveParams :=
  ⟨0xffffffff00000001000000000000000000000000ffffffffffffffffffffffff,
    0xffffffff00000001000000000000000000000000fffffffffffffffffffffffc,
    0x5ac635d8aa3a93e7b3ebbd55769886bc651d06b0cc53b0f63bce3c3e27d2604b⟩

def p384 : CurveParams :=
  ⟨0xfffffffffffffffffffffffffffffffffffffffffffffffffffffffffffffffeffffffff0000000000000000ffffffff,
    0xfffffffffffffffffffffffffffffffffffffffffffffffffffffffffffffffeffffffff0000000000000000fffffffc,
    0xb3312fa7e23ee7e4988e056be3f82d19181d9c6efe8141120314088f5013875ac656398d8a2ed19d2a85c8edd3ec2aef⟩

def p521 : CurveParams :=
  ⟨0x1ffffffffffffffffffffffffffffffffffffffffffffffffffffffffffffffffffffffffffffffffffffffffffffffffffffffffffffffffffffffffffffffffff,
    0x1fffffffffffffffffffffffffffffffffffffffffffffffffffffffffffffffffffffffffffffffffffffffffffffffffffffffffffffffffffffffffffffffffc,
    0x0051953eb9618e1c9a1f929a21a0b68540eea2da725b99b315f3b8b489918ef109e156193951ec7e937b1652c0bd3bb1bf073573df883d2c34f1ef451fd46b503f00⟩

end CurveParams

/-- `openssl::nid::Nid`, OpenSSL's numeric object identifier. -/
structure Nid where
  asRaw : Int
  deriving DecidableEq, Repr

namespace Nid

def x962Prime256v1 : Nid := ⟨415⟩
def secp384r1 : Nid := ⟨715⟩
def secp521r1 : Nid := ⟨716⟩

end Nid

/-- The parameters OpenSSL builds for a named curve; only the three the crate names are listed. -/
def builtinCurve (nid : Nid) : Option CurveParams :=
  if nid = .x962Prime256v1 then some .p256
  else if nid = .secp384r1 then some .p384
  else if nid = .secp521r1 then some .p521
  else none

/-- `EcGroup`: a curve and the name OpenSSL knows it by. A named group carries the builtin
parameters of its name, so two groups of one listed name are one group. -/
structure EcGroup where
  curveName : Option Nid
  params : CurveParams
  named : ∀ nid ∈ curveName, ∀ q ∈ builtinCurve nid, params = q

/-- `EcGroup::from_curve_name`. -/
def EcGroup.fromCurveName (nid : Nid) : Except ErrorStack EcGroup :=
  match builtin : builtinCurve nid with
  | some q => .ok ⟨some nid, q, by
      rintro _ ⟨⟩ q' listed
      rw [builtin] at listed
      exact Option.mem_some_iff.mp listed⟩
  | none => .error .unknownCurve

theorem EcGroup.eq_of_curveName {g h : EcGroup} {nid : Nid} {q : CurveParams}
    (gName : g.curveName = some nid) (hName : h.curveName = some nid)
    (listed : builtinCurve nid = some q) : g = h := by
  obtain ⟨gn, gp, gNamed⟩ := g
  obtain ⟨hn, hp, hNamed⟩ := h
  simp only at gName hName
  subst gName hName
  have gq := gNamed nid rfl q listed
  have hq := hNamed nid rfl q listed
  subst gq hq
  rfl

/-- `EcKey<Public>`: a group and the affine coordinates of the public point. -/
structure EcKey where
  group : EcGroup
  x : Nat
  y : Nat

/-- `EcKey::check_key`. -/
def EcKey.checkKey (key : EcKey) : Except ErrorStack Unit :=
  if key.group.params.onCurve key.x key.y then .ok () else .error .pointIsNotOnCurve

/-- `EcKey::from_public_key_affine_coordinates`, which checks the key it builds. -/
def EcKey.fromPublicKeyAffineCoordinates (group : EcGroup) (x y : Nat) : Except ErrorStack EcKey := do
  let key : EcKey := ⟨group, x, y⟩
  key.checkKey
  pure key

/-- `Rsa<Public>`: a modulus and an exponent. -/
structure Rsa where
  n : Nat
  e : Nat

/-- `Rsa::from_public_components`, which sets the two numbers without checking them. -/
def Rsa.fromPublicComponents (n e : Nat) : Except ErrorStack Rsa := .ok ⟨n, e⟩

/-- `PKey<Public>`. `other` stands for the key types this code never builds (DSA, EdDSA, ...). -/
inductive PKey where
  | ec (key : EcKey)
  | rsa (key : Rsa)
  | other (id : Nat)

def PKey.fromEcKey (key : EcKey) : Except ErrorStack PKey := .ok (.ec key)

def PKey.fromRsa (key : Rsa) : Except ErrorStack PKey := .ok (.rsa key)

/-- `PKey::ec_key`. -/
def PKey.ecKey : PKey → Except ErrorStack EcKey
  | .ec key => .ok key
  | _ => .error .expectingAnEcKey

inductive MessageDigest where
  | sha1 | sha256 | sha384 | sha512
  deriving DecidableEq, Repr

inductive Padding where
  | pkcs1 | pkcs1Pss
  deriving DecidableEq, Repr

/-- The calls of `openssl::sign::Verifier` over a verifier context `V`. -/
structure SignApi (V : Type) where
  new : MessageDigest → PKey → Except ErrorStack V
  setRsaPadding : V → Padding → Except ErrorStack V
  update : V → List UInt8 → Except ErrorStack V
  verify : V → List UInt8 → Except ErrorStack Bool

end Webauthn
