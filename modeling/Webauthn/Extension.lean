import Webauthn.Certificate

/-! The X.509 extensions the attestation profiles read, as `x509_parser` returns them (the
unique extension of an OID, parsed as its kind), and `check_extension` of `crypto.rs`. -/
namespace Webauthn

namespace Oid

def subjectAltName : Oid := ⟨[2, 5, 29, 17]⟩
def extendedKeyUsage : Oid := ⟨[2, 5, 29, 37]⟩
def basicConstraints : Oid := ⟨[2, 5, 29, 19]⟩
def countryName : Oid := ⟨[2, 5, 4, 6]⟩
def organizationName : Oid := ⟨[2, 5, 4, 10]⟩
def organizationalUnitName : Oid := ⟨[2, 5, 4, 11]⟩
def commonName : Oid := ⟨[2, 5, 4, 3]⟩
/-- `FidoGenCeAaguid::OID`, id-fido-gen-ce-aaguid. -/
def fidoGenCeAaguid : Oid := ⟨[1, 3, 6, 1, 4, 1, 45724, 1, 1, 4]⟩
/-- `TCG_AT_TPM_MANUFACTURER_RAW`. -/
def tcgAtTpmManufacturer : Oid := ⟨[2, 23, 133, 2, 1]⟩
/-- `TCG_AT_TPM_MODEL_RAW`. -/
def tcgAtTpmModel : Oid := ⟨[2, 23, 133, 2, 2]⟩
/-- `TCG_AT_TPM_VERSION_RAW`. -/
def tcgAtTpmVersion : Oid := ⟨[2, 23, 133, 2, 3]⟩
/-- tcg-kp-AIKCertificate. -/
def tcgKpAikCertificate : Oid := ⟨[2, 23, 133, 8, 3]⟩

end Oid

/-- `X509Error`, as the extension accessors raise it. -/
inductive X509Error where
  | duplicateExtensions
  | invalidExtensions
  deriving DecidableEq, Repr

/-- `BasicExtension`: an extension's criticality and parsed value. -/
structure BasicExtension (α : Type) where
  critical : Bool
  value : α

namespace ParsedExtension

def asSubjectAlternativeName : ParsedExtension → Option (List GeneralName)
  | .subjectAlternativeName generalNames => some generalNames
  | _ => none

def asExtendedKeyUsage : ParsedExtension → Option (List Oid)
  | .extendedKeyUsage other => some other
  | _ => none

def asBasicConstraints : ParsedExtension → Option Bool
  | .basicConstraints ca => some ca
  | _ => none

@[simp] theorem asSubjectAlternativeName_eq_some {p : ParsedExtension} {g : List GeneralName} :
    p.asSubjectAlternativeName = some g ↔ p = .subjectAlternativeName g := by
  cases p <;> simp [asSubjectAlternativeName]

@[simp] theorem asExtendedKeyUsage_eq_some {p : ParsedExtension} {other : List Oid} :
    p.asExtendedKeyUsage = some other ↔ p = .extendedKeyUsage other := by
  cases p <;> simp [asExtendedKeyUsage]

@[simp] theorem asBasicConstraints_eq_some {p : ParsedExtension} {ca : Bool} :
    p.asBasicConstraints = some ca ↔ p = .basicConstraints ca := by
  cases p <;> simp [asBasicConstraints]

end ParsedExtension

namespace X509Certificate

def extensionsOf (c : X509Certificate) (oid : Oid) : List X509Extension :=
  c.extensions.filter (fun e => e.oid = oid)

/-- `get_extension_unique`: the extension of this OID, refused when it occurs twice. -/
def getExtensionUnique (c : X509Certificate) (oid : Oid) : Except X509Error (Option X509Extension) :=
  match c.extensionsOf oid with
  | [] => .ok none
  | [e] => .ok (some e)
  | _ => .error .duplicateExtensions

/-- The typed accessors (`subject_alternative_name`, `extended_key_usage`, `basic_constraints`):
the unique extension of an OID, which must have parsed as its own kind. -/
def typedExtension {α : Type} (c : X509Certificate) (oid : Oid) (select : ParsedExtension → Option α) :
    Except X509Error (Option (BasicExtension α)) := do
  match ← c.getExtensionUnique oid with
  | none => pure none
  | some ext =>
    match select ext.parsedExtension with
    | some value => pure (some ⟨ext.critical, value⟩)
    | none => throw .invalidExtensions

/-- `subject_alternative_name`, its value the SAN's `general_names`. -/
def subjectAlternativeName (c : X509Certificate) : Except X509Error (Option (BasicExtension (List GeneralName))) :=
  c.typedExtension .subjectAltName ParsedExtension.asSubjectAlternativeName

/-- `extended_key_usage`, its value the EKU's `other` purposes. -/
def extendedKeyUsage (c : X509Certificate) : Except X509Error (Option (BasicExtension (List Oid))) :=
  c.typedExtension .extendedKeyUsage ParsedExtension.asExtendedKeyUsage

/-- `basic_constraints`, its value the `ca` flag. -/
def basicConstraints (c : X509Certificate) : Except X509Error (Option (BasicExtension Bool)) :=
  c.typedExtension .basicConstraints ParsedExtension.asBasicConstraints

theorem getExtensionUnique_eq_ok_some {c : X509Certificate} {oid : Oid} {e : X509Extension} :
    c.getExtensionUnique oid = .ok (some e) ↔ c.extensionsOf oid = [e] := by
  unfold getExtensionUnique
  split <;> simp_all

theorem getExtensionUnique_eq_ok_none {c : X509Certificate} {oid : Oid} :
    c.getExtensionUnique oid = .ok none ↔ c.extensionsOf oid = [] := by
  unfold getExtensionUnique
  split <;> simp_all

theorem typedExtension_eq_ok_some {α : Type} {c : X509Certificate} {oid : Oid}
    {select : ParsedExtension → Option α} {ext : BasicExtension α} :
    c.typedExtension oid select = .ok (some ext) ↔
      ∃ e, c.extensionsOf oid = [e] ∧ select e.parsedExtension = some ext.value ∧ e.critical = ext.critical := by
  simp only [← getExtensionUnique_eq_ok_some]
  unfold typedExtension
  rcases c.getExtensionUnique oid with _ | _ | e
  · simp [bind, Except.bind]
  · simp [bind, Except.bind, pure, Except.pure]
  · obtain ⟨critical, value⟩ := ext
    cases selected : select e.parsedExtension <;>
      simp [bind, Except.bind, pure, Except.pure, throw, throwThe, MonadExceptOf.throw, selected, eq_comm, and_comm]

end X509Certificate

/-- `check_extension`. -/
def checkExtension {T : Type} (extension : Except X509Error (Option T)) (mustBePresent : Bool)
    (f : T → Bool) : WebauthnResult Unit :=
  match extension with
  | .ok (some extension) =>
    if f extension then .ok () else .error .attestationCertificateRequirementsNotMet
  | .ok none => if mustBePresent then .error .attestationCertificateRequirementsNotMet else .ok ()
  | .error _ => .error .attestationCertificateRequirementsNotMet

theorem checkExtension_eq_ok {T : Type} {extension : Except X509Error (Option T)} {mustBePresent : Bool}
    {f : T → Bool} :
    checkExtension extension mustBePresent f = .ok () ↔
      (∃ x, extension = .ok (some x) ∧ f x) ∨ (extension = .ok none ∧ mustBePresent = false) := by
  unfold checkExtension
  split <;> simp_all

theorem checkExtension_eq_error {T : Type} {extension : Except X509Error (Option T)} {mustBePresent : Bool}
    {f : T → Bool} {e : WebauthnError} (failed : checkExtension extension mustBePresent f = .error e) :
    e = .attestationCertificateRequirementsNotMet := by
  unfold checkExtension at failed
  split at failed <;> (try split at failed) <;> simp_all

theorem checkExtension_typed_eq_ok {α : Type} {c : X509Certificate} {oid : Oid}
    {select : ParsedExtension → Option α} {f : BasicExtension α → Bool} :
    checkExtension (c.typedExtension oid select) true f = .ok () ↔
      ∃ e v, c.extensionsOf oid = [e] ∧ select e.parsedExtension = some v ∧ f ⟨e.critical, v⟩ := by
  simp only [checkExtension_eq_ok, Bool.true_eq_false, and_false, or_false]
  constructor
  · rintro ⟨⟨critical, v⟩, typed, check⟩
    obtain ⟨e, listed, selected, rfl⟩ := X509Certificate.typedExtension_eq_ok_some.mp typed
    exact ⟨e, v, listed, selected, check⟩
  · rintro ⟨e, v, listed, selected, check⟩
    exact ⟨⟨e.critical, v⟩, X509Certificate.typedExtension_eq_ok_some.mpr ⟨e, listed, selected, rfl⟩, check⟩

theorem checkExtension_basicConstraints_eq_ok {c : X509Certificate} :
    checkExtension c.basicConstraints true (fun basicConstraints => !basicConstraints.value) = .ok () ↔
      ∃ e, c.extensionsOf .basicConstraints = [e] ∧ e.parsedExtension = .basicConstraints false := by
  simp only [X509Certificate.basicConstraints, checkExtension_typed_eq_ok,
    ParsedExtension.asBasicConstraints_eq_some, Bool.not_eq_true', exists_eq_right_right]

end Webauthn
