import Webauthn.TpmSanData

/-! The attestation certificate profiles of §4.6: `assert_tpm_attest_req` (the TPM AIK
certificate) and `assert_packed_attest_req`. Each check accepts exactly the certificates of its
profile, stated as a structure of named requirements, and refuses every other one with
`AttestationCertificateRequirementsNotMet`. Both start from `to_der()?`, which fails with an
`OpenSSLError`, and the certificate `x509_parser` reads back from its bytes. The TPM check reads
`tpm_device_attribute_parser` and `TpmVendor::try_from` of `crate::internals`, which are not under
src/; its results hold for any choice of them. -/
namespace Webauthn

/-- Both checks start with `to_der()?` and read the certificate back from the bytes; where one is
read back, they go on with it. -/
theorem X509.toDer_reparsed_bind {x509 : X509} {c : X509Certificate} (reparsed : x509.reparsed = some c)
    {β : Type} (next : X509Certificate → WebauthnResult β) :
    (x509.toDer.mapError .openSSLError >>= fun _ => okOr x509.reparsed .attestationStatementX5CInvalid >>= next) =
      next c := by
  obtain ⟨der, encoded⟩ := x509.reparsedFromDer c reparsed
  rw [encoded, reparsed, mapError_ok, ok_bind, okOr_some, ok_bind]

theorem X509.toDer_unparsed_bind {x509 : X509} (reparsed : x509.reparsed = none) {β : Type}
    (next : X509Certificate → WebauthnResult β) (b : β) :
    (x509.toDer.mapError .openSSLError >>= fun _ => okOr x509.reparsed .attestationStatementX5CInvalid >>= next) ≠
      .ok b := by
  rw [reparsed, okOr_none]
  cases x509.toDer <;> nofun

section Tpm

variable {TpmVendor : Type}
  (tpmDeviceAttributeParser : List UInt8 → Except Unit (List UInt8 × List UInt8))
  (tpmVendorTryFrom : List UInt8 → WebauthnResult TpmVendor)

/-- The test the SAN check applies to each general name: a directory name whose TCG attributes
name a manufacturer of a known vendor. -/
def tpmManufacturerKnown : GeneralName → Bool
  | .directoryName x509Name =>
    (TpmSanData.tryFrom x509Name >>= (fun sanData =>
        (tpmDeviceAttributeParser sanData.manufacturer.toUTF8.data.toList).mapError
          fun _ => .parseNOMFailure) >>=
      fun (_, manufacturerBytes) => tpmVendorTryFrom manufacturerBytes).toBool
  | _ => false

/-- `assert_tpm_attest_req`. -/
def assertTpmAttestReq (x509 : X509) : WebauthnResult Unit := do
  let _derBytes ← x509.toDer.mapError .openSSLError
  let x509Cert ← okOr x509.reparsed .attestationStatementX5CInvalid
  if x509Cert.version ≠ .v3 then .error .attestationCertificateRequirementsNotMet
  else if x509.subjectName.length ≠ 0 then .error .attestationCertificateRequirementsNotMet
  else do
    checkExtension x509Cert.subjectAlternativeName true
      fun subjectAlternativeName =>
        if !subjectAlternativeName.critical then false
        else subjectAlternativeName.value.any (tpmManufacturerKnown tpmDeviceAttributeParser tpmVendorTryFrom)
    checkExtension x509Cert.extendedKeyUsage true
      fun extendedKeyUsage => extendedKeyUsage.value.contains .tcgKpAikCertificate
    checkExtension x509Cert.basicConstraints true
      fun basicConstraints => !basicConstraints.value

def TpmDirectoryName (gn : GeneralName) : Prop :=
  ∃ name, gn = .directoryName name ∧ ∃ d rest manufacturerBytes vendor, TpmSanData.tryFrom name = .ok d ∧
    tpmDeviceAttributeParser d.manufacturer.toUTF8.data.toList = .ok (rest, manufacturerBytes) ∧
    tpmVendorTryFrom manufacturerBytes = .ok vendor

/-- The AIK certificate requirements of §4.6, TPM step 4. -/
@[mk_iff] structure TpmAikProfile (c : X509Certificate) (subject : X509Name) : Prop where
  version : c.version = .v3
  subjectEmpty : subject = []
  subjectAltName : ∃ e generalNames, c.extensionsOf .subjectAltName = [e] ∧
    e.parsedExtension = .subjectAlternativeName generalNames ∧ e.critical = true ∧
    ∃ gn ∈ generalNames, TpmDirectoryName tpmDeviceAttributeParser tpmVendorTryFrom gn
  extendedKeyUsage : ∃ e other, c.extensionsOf .extendedKeyUsage = [e] ∧
    e.parsedExtension = .extendedKeyUsage other ∧ Oid.tcgKpAikCertificate ∈ other
  basicConstraints : ∃ e, c.extensionsOf .basicConstraints = [e] ∧
    e.parsedExtension = .basicConstraints false

theorem tpmManufacturerKnown_iff (gn : GeneralName) :
    tpmManufacturerKnown tpmDeviceAttributeParser tpmVendorTryFrom gn ↔
      TpmDirectoryName tpmDeviceAttributeParser tpmVendorTryFrom gn := by
  cases gn with
  | directoryName name =>
    simp only [tpmManufacturerKnown, TpmDirectoryName, toBool_eq_true, bind_eq_ok, mapError_eq_ok,
      GeneralName.directoryName.injEq, exists_eq_left', Prod.exists]
    constructor
    · rintro ⟨vendor, rest, bytes, ⟨d, found, parsed⟩, known⟩
      exact ⟨d, rest, bytes, vendor, found, parsed, known⟩
    · rintro ⟨d, rest, bytes, vendor, found, parsed, known⟩
      exact ⟨vendor, rest, bytes, ⟨d, found, parsed⟩, known⟩
  | _ => simp [tpmManufacturerKnown, TpmDirectoryName]

theorem checkExtension_tpmSubjectAltName_eq_ok {c : X509Certificate} :
    checkExtension c.subjectAlternativeName true (fun subjectAlternativeName =>
        if !subjectAlternativeName.critical then false
        else subjectAlternativeName.value.any (tpmManufacturerKnown tpmDeviceAttributeParser tpmVendorTryFrom)) =
        .ok () ↔
      ∃ e generalNames, c.extensionsOf .subjectAltName = [e] ∧
        e.parsedExtension = .subjectAlternativeName generalNames ∧ e.critical = true ∧
        ∃ gn ∈ generalNames, TpmDirectoryName tpmDeviceAttributeParser tpmVendorTryFrom gn := by
  simp only [X509Certificate.subjectAlternativeName, checkExtension_typed_eq_ok,
    ParsedExtension.asSubjectAlternativeName_eq_some, Bool.ite_eq_true_distrib, Bool.not_eq_true',
    Bool.false_eq_true, if_false_left, Bool.not_eq_false, List.any_eq_true, tpmManufacturerKnown_iff]

theorem checkExtension_aikExtendedKeyUsage_eq_ok {c : X509Certificate} :
    checkExtension c.extendedKeyUsage true
        (fun extendedKeyUsage => extendedKeyUsage.value.contains .tcgKpAikCertificate) = .ok () ↔
      ∃ e other, c.extensionsOf .extendedKeyUsage = [e] ∧ e.parsedExtension = .extendedKeyUsage other ∧
        Oid.tcgKpAikCertificate ∈ other := by
  simp only [X509Certificate.extendedKeyUsage, checkExtension_typed_eq_ok,
    ParsedExtension.asExtendedKeyUsage_eq_some, List.contains, List.elem_iff]

theorem assertTpmAttestReq_eq_ok {x509 : X509} {c : X509Certificate} (reparsed : x509.reparsed = some c) :
    assertTpmAttestReq tpmDeviceAttributeParser tpmVendorTryFrom x509 = .ok () ↔
      TpmAikProfile tpmDeviceAttributeParser tpmVendorTryFrom c x509.subjectName := by
  rw [assertTpmAttestReq, X509.toDer_reparsed_bind reparsed, tpmAikProfile_iff]
  simp only [ite_error_eq_ok, ne_eq, not_not, List.length_eq_zero, bind_unit_eq_ok,
    checkExtension_tpmSubjectAltName_eq_ok, checkExtension_aikExtendedKeyUsage_eq_ok,
    checkExtension_basicConstraints_eq_ok]

theorem assertTpmAttestReq_eq_error {x509 : X509} {c : X509Certificate} {e : WebauthnError}
    (reparsed : x509.reparsed = some c)
    (failed : assertTpmAttestReq tpmDeviceAttributeParser tpmVendorTryFrom x509 = .error e) :
    e = .attestationCertificateRequirementsNotMet := by
  rw [assertTpmAttestReq, X509.toDer_reparsed_bind reparsed] at failed
  split_ifs at failed
  · exact (Except.error.inj failed).symm
  · exact (Except.error.inj failed).symm
  · simp only [bind_eq_error] at failed
    rcases failed with san | ⟨_, _, eku | ⟨_, _, bc⟩⟩
    exacts [checkExtension_eq_error san, checkExtension_eq_error eku, checkExtension_eq_error bc]

theorem assertTpmAttestReq_decides_profile {x509 : X509} {c : X509Certificate}
    (reparsed : x509.reparsed = some c) :
    (assertTpmAttestReq tpmDeviceAttributeParser tpmVendorTryFrom x509 = .ok () ↔
        TpmAikProfile tpmDeviceAttributeParser tpmVendorTryFrom c x509.subjectName) ∧
      (¬TpmAikProfile tpmDeviceAttributeParser tpmVendorTryFrom c x509.subjectName →
        assertTpmAttestReq tpmDeviceAttributeParser tpmVendorTryFrom x509 =
          .error .attestationCertificateRequirementsNotMet) := by
  refine ⟨assertTpmAttestReq_eq_ok _ _ reparsed, fun violated => ?_⟩
  cases result : assertTpmAttestReq tpmDeviceAttributeParser tpmVendorTryFrom x509 with
  | error e => rw [assertTpmAttestReq_eq_error _ _ reparsed result]
  | ok u => exact absurd ((assertTpmAttestReq_eq_ok _ _ reparsed).mp result) violated

end Tpm

def tpmSanName : X509Name :=
  [⟨.tcgAtTpmManufacturer, .str "id:414D4400"⟩, ⟨.tcgAtTpmModel, .str "NPCT6xx"⟩,
    ⟨.tcgAtTpmVersion, .str "id:0007"⟩]

def tpmAikCertificate : X509Certificate where
  version := .v3
  subject := []
  extensions :=
    [⟨.subjectAltName, true, .subjectAlternativeName [.dnsName "tpm.example", .directoryName tpmSanName]⟩,
      ⟨.extendedKeyUsage, false, .extendedKeyUsage [.tcgKpAikCertificate]⟩,
      ⟨.basicConstraints, true, .basicConstraints false⟩]

def tpmAikX509 : X509 :=
  ⟨.error (.other 0), [], .ok [], some tpmAikCertificate, by simp [tpmAikCertificate], fun _ _ => ⟨[], rfl⟩⟩

/-- A device-attribute parser of the crate's shape: the tag `id:`, then the eight bytes of the
vendor code. -/
def vendorCodeParser : List UInt8 → Except Unit (List UInt8 × List UInt8)
  | 0x69 :: 0x64 :: 0x3a :: rest => if 8 ≤ rest.length then .ok (rest.drop 8, rest.take 8) else .error ()
  | _ => .error ()

/-- A vendor table of the crate's shape: the vendor codes it knows. -/
def tpmVendorCodes : List String := ["414D4400"]

def vendorCodeTryFrom (code : List UInt8) : WebauthnResult (List UInt8) :=
  if code ∈ tpmVendorCodes.map (·.toUTF8.data.toList) then .ok code else .error .parseNOMFailure

theorem tpm_aik_certificate_meets_profile :
    TpmAikProfile vendorCodeParser vendorCodeTryFrom tpmAikCertificate [] :=
  (assertTpmAttestReq_decides_profile vendorCodeParser vendorCodeTryFrom
    (rfl : tpmAikX509.reparsed = some tpmAikCertificate)).1.mp rfl

example : tpmManufacturerKnown vendorCodeParser vendorCodeTryFrom (.directoryName tpmSanName) = true ∧
    tpmManufacturerKnown vendorCodeParser vendorCodeTryFrom
      (.directoryName [⟨.tcgAtTpmManufacturer, .str "id:DEADBEEF"⟩, ⟨.tcgAtTpmModel, .str "NPCT6xx"⟩,
        ⟨.tcgAtTpmVersion, .str "id:0007"⟩]) = false :=
  ⟨rfl, rfl⟩

/-- The `match subject_ou` of `assert_packed_attest_req`. -/
def checkOrganizationalUnit (subjectOu : Option AttributeTypeAndValue) : WebauthnResult Unit :=
  match subjectOu with
  | some ou =>
    match ou.attrValue.asStr with
    | some ouD =>
      if ouD ≠ "Authenticator Attestation" then .error .attestationCertificateRequirementsNotMet
      else .ok ()
    | none => .error .attestationCertificateRequirementsNotMet
  | none => .error .attestationCertificateRequirementsNotMet

/-- `assert_packed_attest_req`. -/
def assertPackedAttestReq (pubk : X509) : WebauthnResult Unit := do
  let _derBytes ← pubk.toDer.mapError .openSSLError
  let x509Cert ← okOr pubk.reparsed .attestationStatementX5CInvalid
  if x509Cert.version ≠ .v3 then .error .attestationCertificateRequirementsNotMet
  else
    let subject := x509Cert.subject
    let subjectC := subject.find? fun a => a.attrType = .countryName
    let subjectO := subject.find? fun a => a.attrType = .organizationName
    let subjectOu := subject.find? fun a => a.attrType = .organizationalUnitName
    let subjectCn := subject.find? fun a => a.attrType = .commonName
    if subjectC.isNone || subjectO.isNone || subjectCn.isNone then
      .error .attestationCertificateRequirementsNotMet
    else do
      checkOrganizationalUnit subjectOu
      checkExtension (x509Cert.getExtensionUnique .fidoGenCeAaguid) false
        fun fidoGenCeAaguid => !fidoGenCeAaguid.critical
      checkExtension x509Cert.basicConstraints true
        fun basicConstraints => !basicConstraints.value

/-- The packed attestation certificate requirements of §4.6. -/
@[mk_iff] structure PackedProfile (c : X509Certificate) : Prop where
  version : c.version = .v3
  country : ∃ a ∈ c.subject, a.attrType = .countryName
  organization : ∃ a ∈ c.subject, a.attrType = .organizationName
  commonName : ∃ a ∈ c.subject, a.attrType = .commonName
  organizationalUnit : ∃ ou, c.subject.find? (fun a => a.attrType = .organizationalUnitName) = some ou ∧
    ou.attrValue = .str "Authenticator Attestation"
  aaguid : (∃ e, c.extensionsOf .fidoGenCeAaguid = [e] ∧ e.critical = false) ∨
    c.extensionsOf .fidoGenCeAaguid = []
  basicConstraints : ∃ e, c.extensionsOf .basicConstraints = [e] ∧
    e.parsedExtension = .basicConstraints false

theorem checkOrganizationalUnit_eq_ok {subjectOu : Option AttributeTypeAndValue} :
    checkOrganizationalUnit subjectOu = .ok () ↔
      ∃ ou, subjectOu = some ou ∧ ou.attrValue = .str "Authenticator Attestation" := by
  rcases subjectOu with _ | ⟨_, _ | _⟩ <;> simp [checkOrganizationalUnit, AttributeValue.asStr]

theorem checkOrganizationalUnit_eq_error {subjectOu : Option AttributeTypeAndValue} {e : WebauthnError}
    (failed : checkOrganizationalUnit subjectOu = .error e) : e = .attestationCertificateRequirementsNotMet := by
  unfold checkOrganizationalUnit at failed
  split at failed <;> (try split at failed) <;> (try split at failed) <;> simp_all

theorem subjectNamesPresent_iff {subject : X509Name} :
    ¬((subject.find? fun a => a.attrType = .countryName).isNone ||
        (subject.find? fun a => a.attrType = .organizationName).isNone ||
        (subject.find? fun a => a.attrType = .commonName).isNone) = true ↔
      (∃ a ∈ subject, a.attrType = .countryName) ∧ (∃ a ∈ subject, a.attrType = .organizationName) ∧
        ∃ a ∈ subject, a.attrType = .commonName := by
  simp only [Bool.or_eq_true, Option.isNone_iff_eq_none, List.find?_eq_none, decide_eq_true_eq, not_or,
    not_forall, not_not, exists_prop, and_assoc]

theorem checkExtension_aaguid_eq_ok {c : X509Certificate} :
    checkExtension (c.getExtensionUnique .fidoGenCeAaguid) false
        (fun fidoGenCeAaguid => !fidoGenCeAaguid.critical) = .ok () ↔
      (∃ e, c.extensionsOf .fidoGenCeAaguid = [e] ∧ e.critical = false) ∨
        c.extensionsOf .fidoGenCeAaguid = [] := by
  simp only [checkExtension_eq_ok, X509Certificate.getExtensionUnique_eq_ok_some,
    X509Certificate.getExtensionUnique_eq_ok_none, Bool.not_eq_true', and_true]

theorem assertPackedAttestReq_eq_ok {pubk : X509} {c : X509Certificate} (reparsed : pubk.reparsed = some c) :
    assertPackedAttestReq pubk = .ok () ↔ PackedProfile c := by
  rw [assertPackedAttestReq, X509.toDer_reparsed_bind reparsed, packedProfile_iff]
  simp only [ite_error_eq_ok, ne_eq, not_not, subjectNamesPresent_iff, bind_unit_eq_ok,
    checkOrganizationalUnit_eq_ok, checkExtension_aaguid_eq_ok, checkExtension_basicConstraints_eq_ok,
    and_assoc]

theorem assertPackedAttestReq_eq_error {pubk : X509} {c : X509Certificate} {e : WebauthnError}
    (reparsed : pubk.reparsed = some c) (failed : assertPackedAttestReq pubk = .error e) :
    e = .attestationCertificateRequirementsNotMet := by
  rw [assertPackedAttestReq, X509.toDer_reparsed_bind reparsed] at failed
  dsimp only at failed
  split_ifs at failed
  · exact (Except.error.inj failed).symm
  · exact (Except.error.inj failed).symm
  · simp only [bind_eq_error] at failed
    rcases failed with ou | ⟨_, _, aaguid | ⟨_, _, bc⟩⟩
    exacts [checkOrganizationalUnit_eq_error ou, checkExtension_eq_error aaguid, checkExtension_eq_error bc]

theorem assertPackedAttestReq_decides_profile {pubk : X509} {c : X509Certificate}
    (reparsed : pubk.reparsed = some c) :
    (assertPackedAttestReq pubk = .ok () ↔ PackedProfile c) ∧
      (¬PackedProfile c → assertPackedAttestReq pubk = .error .attestationCertificateRequirementsNotMet) := by
  refine ⟨assertPackedAttestReq_eq_ok reparsed, fun violated => ?_⟩
  cases result : assertPackedAttestReq pubk with
  | error e => rw [assertPackedAttestReq_eq_error reparsed result]
  | ok u => exact absurd ((assertPackedAttestReq_eq_ok reparsed).mp result) violated

def packedAttestationCertificate : X509Certificate where
  version := .v3
  subject :=
    [⟨.countryName, .str "SE"⟩, ⟨.organizationName, .str "Example Vendor"⟩,
      ⟨.organizationalUnitName, .str "Authenticator Attestation"⟩, ⟨.commonName, .str "Example Attestation"⟩]
  extensions :=
    [⟨.fidoGenCeAaguid, false, .unsupported⟩, ⟨.basicConstraints, true, .basicConstraints false⟩]

def packedAttestationX509 : X509 :=
  ⟨.error (.other 0), packedAttestationCertificate.subject, .ok [], some packedAttestationCertificate, by simp,
    fun _ _ => ⟨[], rfl⟩⟩

theorem packed_attestation_certificate_meets_profile : PackedProfile packedAttestationCertificate :=
  (assertPackedAttestReq_decides_profile
    (rfl : packedAttestationX509.reparsed = some packedAttestationCertificate)).1.mp rfl

/-- No certificate meets both profiles: an AIK certificate has an empty subject, and a packed
attestation certificate names a country, an organisation and a common name in it. -/
theorem tpm_packed_profiles_disjoint {TpmVendor : Type}
    (tpmDeviceAttributeParser : List UInt8 → Except Unit (List UInt8 × List UInt8))
    (tpmVendorTryFrom : List UInt8 → WebauthnResult TpmVendor) (x509 : X509) :
    ¬(assertTpmAttestReq tpmDeviceAttributeParser tpmVendorTryFrom x509 = .ok () ∧
      assertPackedAttestReq x509 = .ok ()) := by
  rintro ⟨tpm, packed⟩
  cases reparsed : x509.reparsed with
  | none => exact X509.toDer_unparsed_bind reparsed _ () packed
  | some c =>
    have aik := (assertTpmAttestReq_eq_ok _ _ reparsed).mp tpm
    obtain ⟨a, present, -⟩ := ((assertPackedAttestReq_eq_ok reparsed).mp packed).country
    rw [x509.sameSubject c reparsed, aik.subjectEmpty] at present
    exact List.not_mem_nil a present

end Webauthn
