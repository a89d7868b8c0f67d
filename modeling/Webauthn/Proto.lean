import Mathlib.Data.Vector.Basic
import Webauthn.Error

/-! Wire-level types: the generic CBOR tree of `serde_cbor_2` with its integer-keyed lookup and
typed accessors, and the COSE key model of `webauthn_rs_proto` that the decoder fills in.
The crate's accessor macros and the proto crate's numbering are not under src/; they follow
the spec (§3, §4.1, §4.2) and RFC 8152, which it cites. -/
namespace Webauthn

/-- `serde_cbor_2::Value`. Floats are left out: no modelled function reads one. A map is a
`BTreeMap<Value, Value>`, kept as its list of entries; `UniqueKeys` states that it has one entry
per key, as the `BTreeMap` has. -/
inductive Value where
  | null
  | bool (b : Bool)
  | integer (i : Int)
  | bytes (b : List UInt8)
  | text (s : String)
  | array (items : List Value)
  | map (entries : List (Value × Value))
  | tag (t : Nat) (v : Value)

namespace Value

def isIntegerKey (key : Int) : Value → Bool
  | .integer i => decide (i = key)
  | _ => false

/-- `BTreeMap::get(&Value::Integer(key))` on the entries of a map. -/
def get (entries : List (Value × Value)) (key : Int) : Option Value :=
  (entries.find? (fun entry => entry.1.isIntegerKey key)).map (·.2)

def UniqueKeys (entries : List (Value × Value)) : Prop := (entries.map Prod.fst).Nodup

@[simp] theorem isIntegerKey_eq_true {key : Int} {k : Value} : k.isIntegerKey key = true ↔ k = .integer key := by
  cases k <;> simp [isIntegerKey]

theorem get_eq_some_iff {entries : List (Value × Value)} (unique : UniqueKeys entries) {key : Int} {v : Value} :
    get entries key = some v ↔ (.integer key, v) ∈ entries := by
  induction entries with
  | nil => simp [get]
  | cons entry rest ih =>
    obtain ⟨k, w⟩ := entry
    obtain ⟨fresh, unique⟩ := List.nodup_cons.mp unique
    by_cases same : k = .integer key
    · subst same
      have absent : (.integer key, v) ∉ rest := fun mem => fresh (List.mem_map.mpr ⟨_, mem, rfl⟩)
      simp [get, isIntegerKey, absent, eq_comm]
    · have other : k.isIntegerKey key = false := Bool.eq_false_iff.mpr (mt isIntegerKey_eq_true.mp same)
      have skipped : get ((k, w) :: rest) key = get rest key := by simp [get, List.find?_cons, other]
      simp [skipped, ih unique, Ne.symm same]

theorem get_congr {m m' : List (Value × Value)} (unique : UniqueKeys m) (unique' : UniqueKeys m') {key : Int}
    (agree : ∀ v, (.integer key, v) ∈ m ↔ (.integer key, v) ∈ m') : get m key = get m' key :=
  Option.ext fun v => by rw [Option.mem_def, Option.mem_def, get_eq_some_iff unique, get_eq_some_iff unique', agree]

end Value

/-- Modelled from the spec: the crate's `cbor_try_map!`, which is not under src/. A typed
accessor fails with `COSEKeyInvalidCBORValue` on a value of another kind (§4.1, §7). -/
def cborTryMap : Value → WebauthnResult (List (Value × Value))
  | .map m => .ok m
  | _ => .error .coseKeyInvalidCBORValue

/-- Modelled from the spec: the crate's `cbor_try_i128!`, which is not under src/. -/
def cborTryI128 : Value → WebauthnResult Int
  | .integer i => .ok i
  | _ => .error .coseKeyInvalidCBORValue

/-- Modelled from the spec: the crate's `cbor_try_bytes!`, which is not under src/. -/
def cborTryBytes : Value → WebauthnResult (List UInt8)
  | .bytes b => .ok b
  | _ => .error .coseKeyInvalidCBORValue

@[simp] theorem cborTryI128_eq_ok {v : Value} {i : Int} : cborTryI128 v = .ok i ↔ v = .integer i := by
  cases v <;> simp [cborTryI128]

@[simp] theorem cborTryBytes_eq_ok {v : Value} {b : List UInt8} :
    cborTryBytes v = .ok b ↔ v = .bytes b := by
  cases v <;> simp [cborTryBytes]

@[simp] theorem cborTryMap_eq_ok {v : Value} {m : List (Value × Value)} :
    cborTryMap v = .ok m ↔ v = .map m := by
  cases v <;> simp [cborTryMap]

inductive COSEAlgorithm where
  | es256 | es384 | es512
  | rs256 | rs384 | rs512
  | ps256 | ps384 | ps512
  | eddsa | insecureRs1 | pinUvProtocol
  deriving DecidableEq, Repr

/-- Modelled from the spec: `TryFrom<i128> for COSEAlgorithm`, not under src/, numbers the
algorithms as §3 does. `PinUvProtocol` has no number there and is never decoded. -/
def COSEAlgorithm.tryFrom (i : Int) : Option COSEAlgorithm :=
  [(-7, .es256), (-35, .es384), (-36, .es512), (-257, .rs256), (-258, .rs384), (-259, .rs512),
    (-37, .ps256), (-38, .ps384), (-39, .ps512), (-8, .eddsa), (-65535, .insecureRs1)].lookup i

inductive ECDSACurve where
  | secp256r1 | secp384r1 | secp521r1
  deriving DecidableEq, Repr

/-- Modelled from the spec: `TryFrom<i128> for ECDSACurve`, the RFC 8152 curve identifiers
1, 2 and 3 that the crate's tests use for P-256, P-384 and P-521. -/
def ECDSACurve.tryFrom (i : Int) : WebauthnResult ECDSACurve :=
  if i = 1 then .ok .secp256r1
  else if i = 2 then .ok .secp384r1
  else if i = 3 then .ok .secp521r1
  else .error .coseKeyECDSAInvalidCurve

/-- Modelled from the spec: `coordinate_size` is 32/48/66 (§3). -/
def ECDSACurve.coordinateSize : ECDSACurve → Nat
  | .secp256r1 => 32
  | .secp384r1 => 48
  | .secp521r1 => 66

inductive EDDSACurve where
  | ed25519 | ed448
  deriving DecidableEq, Repr

/-- Modelled from the spec: `TryFrom<i128> for EDDSACurve`, the RFC 8152 identifiers 6 and 7. -/
def EDDSACurve.tryFrom (i : Int) : WebauthnResult EDDSACurve :=
  if i = 6 then .ok .ed25519
  else if i = 7 then .ok .ed448
  else .error .coseKeyEDDSAInvalidCurve

/-- `COSEKeyTypeId`, with the discriminants (§4.2) that `as i128` reads. -/
inductive COSEKeyTypeId where
  | ecOkp | ecEc2 | ecRsa
  deriving DecidableEq, Repr

def COSEKeyTypeId.toI128 : COSEKeyTypeId → Int
  | .ecOkp => 1
  | .ecEc2 => 2
  | .ecRsa => 3

structure COSEEC2Key where
  curve : ECDSACurve
  x : List UInt8
  y : List UInt8
  deriving DecidableEq

/-- `COSERSAKey`; `e` is the fixed array `[u8; 3]`. -/
structure COSERSAKey where
  n : List UInt8
  e : Mathlib.Vector UInt8 3
  deriving DecidableEq

/-- `COSEOKPKey`; `x` is the fixed array `[u8; 32]`. -/
structure COSEOKPKey where
  curve : EDDSACurve
  x : Mathlib.Vector UInt8 32
  deriving DecidableEq

inductive COSEKeyType where
  | ecEc2 (key : COSEEC2Key)
  | ecOkp (key : COSEOKPKey)
  | rsa (key : COSERSAKey)
  deriving DecidableEq

structure COSEKey where
  type_ : COSEAlgorithm
  key : COSEKeyType
  deriving DecidableEq

theorem ECDSACurve.tryFrom_eq_ok {i : Int} {curve : ECDSACurve} :
    ECDSACurve.tryFrom i = .ok curve ↔
      (i = 1 ∧ curve = .secp256r1) ∨ (i = 2 ∧ curve = .secp384r1) ∨ (i = 3 ∧ curve = .secp521r1) := by
  unfold ECDSACurve.tryFrom
  split_ifs <;> subst_vars <;> simp_all [eq_comm]

end Webauthn
