import Mathlib.Data.List.Basic

/-! Errors of the crypto core (`webauthn_rs_core::error`) and the `Result` plumbing that
every decoder below is written in. Only the variants the modelled code raises are kept. -/
namespace Webauthn

/-- OpenSSL's error stack, kept as the reason of its first entry. -/
inductive ErrorStack where
  | pointIsNotOnCurve
  | coordinatesOutOfRange
  | expectingAnEcKey
  | unknownCurve
  | other (code : Nat)
  deriving DecidableEq, Repr

inductive WebauthnError where
  | configuration
  | coseKeyInvalidCBORValue
  | coseKeyInvalidAlgorithm
  | coseKeyInvalidType
  | coseKeyECDSAXYInvalid
  | coseKeyECDSAInvalidCurve
  | coseKeyRSANEInvalid
  | coseKeyEDDSAXInvalid
  | coseKeyEDDSAInvalidCurve
  | coseKeyEDUnsupported
  | ecdsaCurveInvalidNid
  | openSSLError (error : ErrorStack)
  | openSSLErrorNoCurveName
  | credentialInsecureCryptography
  | attestationCertificateRequirementsNotMet
  | attestationStatementX5CInvalid
  | parseNOMFailure
  | missingAttestationCaList
  | invalidUserUniqueId
  deriving DecidableEq, Repr

abbrev WebauthnResult (α : Type) := Except WebauthnError α

/-- `Option::ok_or`. -/
def okOr {ε α : Type} (value : Option α) (error : ε) : Except ε α :=
  match value with
  | some a => .ok a
  | none => .error error

@[simp] theorem okOr_some {ε α : Type} (a : α) (error : ε) : okOr (some a) error = .ok a := rfl

@[simp] theorem okOr_none {ε α : Type} (error : ε) : okOr (none : Option α) error = .error error :=
  rfl

theorem okOr_eq_ok {ε α : Type} {value : Option α} {error : ε} {a : α} :
    okOr value error = .ok a ↔ value = some a := by
  cases value <;> simp [okOr]

theorem bind_eq_ok {ε α β : Type} {value : Except ε α} {next : α → Except ε β} {result : β} :
    value >>= next = .ok result ↔ ∃ a, value = .ok a ∧ next a = .ok result := by
  cases value <;> simp [bind, Except.bind]

theorem bind_unit_eq_ok {ε α : Type} {first : Except ε Unit} {rest : Unit → Except ε α} {a : α} :
    first >>= rest = .ok a ↔ first = .ok () ∧ rest () = .ok a := by
  cases first <;> simp [bind, Except.bind]

@[simp] theorem ok_bind {ε α β : Type} (a : α) (next : α → Except ε β) :
    (Except.ok a : Except ε α) >>= next = next a := rfl

theorem bind_eq_error {ε α β : Type} {value : Except ε α} {next : α → Except ε β} {error : ε} :
    value >>= next = .error error ↔ value = .error error ∨ ∃ a, value = .ok a ∧ next a = .error error := by
  cases value <;> simp [bind, Except.bind]

theorem mapError_eq_ok {ε ε' α : Type} {f : ε → ε'} {value : Except ε α} {a : α} :
    value.mapError f = .ok a ↔ value = .ok a := by
  cases value <;> simp [Except.mapError]

theorem mapError_eq_error {ε ε' α : Type} {f : ε → ε'} {value : Except ε α} {e : ε'} :
    value.mapError f = .error e ↔ ∃ e₀, value = .error e₀ ∧ e = f e₀ := by
  cases value <;> simp [Except.mapError, eq_comm]

@[simp] theorem mapError_ok {ε ε' α : Type} (f : ε → ε') (a : α) :
    (Except.ok a : Except ε α).mapError f = .ok a := rfl

theorem ite_error_eq_ok {ε α : Type} {c : Prop} [Decidable c] {e : ε} {r : Except ε α} {a : α} :
    (if c then .error e else r) = .ok a ↔ ¬c ∧ r = .ok a := by
  split <;> simp_all

theorem dite_error_eq_ok {ε α : Type} {c : Prop} [Decidable c] {e : ε} {r : ¬c → Except ε α} {a : α} :
    (if h : c then .error e else r h) = .ok a ↔ ∃ h : ¬c, r h = .ok a := by
  split <;> simp_all

@[simp] theorem toBool_eq_true {ε α : Type} {value : Except ε α} :
    value.toBool = true ↔ ∃ a, value = .ok a := by
  cases value <;> simp [Except.toBool]

theorem pure_eq_ok {ε α : Type} {a b : α} : (pure a : Except ε α) = .ok b ↔ a = b := by
  simp [pure, Except.pure]

theorem map_eq_ok {ε α β : Type} {f : α → β} {value : Except ε α} {b : β} :
    value.map f = .ok b ↔ ∃ a, value = .ok a ∧ f a = b := by
  cases value <;> simp [Except.map]

end Webauthn
