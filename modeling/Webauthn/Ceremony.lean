import Webauthn.Builder

/-! The ceremonies of `Webauthn` (lib.rs). Each `start_*` fixes the options it hands to
`WebauthnCore` and wraps the state the core returns; each `finish_*` hands that state back to the
core, with the attestation CA list its `start_*` was given. The core, the proto types and the
wrapper types of `interface.rs` lie outside src/: the calls lib.rs makes on them are the parameter
`core`, and every result holds for all of them. A wrapper that holds one value is that value. -/
namespace Webauthn

inductive AttestationConveyancePreference where
  | none | indirect | direct
  deriving DecidableEq, Repr

inductive UserVerificationPolicy where
  | required | preferred | discouragedDoNotUse
  deriving DecidableEq, Repr

inductive CredentialProtectionPolicy where
  | userVerificationOptional | userVerificationOptionalWithCredentialIDList | userVerificationRequired
  deriving DecidableEq, Repr

structure CredProtect where
  credentialProtectionPolicy : CredentialProtectionPolicy
  enforceCredentialProtectionPolicy : Option Bool
  deriving DecidableEq, Repr

structure RequestRegistrationExtensions where
  credProtect : Option CredProtect
  uvm : Option Bool
  credProps : Option Bool
  minPinLength : Option Bool
  hmacCreateSecret : Option Bool
  deriving DecidableEq, Repr

/-- `RequestAuthenticationExtensions`, without `hmac_get_secret`, which lib.rs always leaves
`None`. -/
structure RequestAuthenticationExtensions where
  appid : Option String
  uvm : Option Bool
  deriving DecidableEq, Repr

inductive AuthenticatorAttachment where
  | platform | crossPlatform
  deriving DecidableEq, Repr

/-- `uuid::Uuid`: sixteen bytes. -/
structure Uuid where
  bytes : List UInt8
  sixteen : bytes.length = 16
  deriving DecidableEq

/-- `Uuid::as_bytes`. -/
def Uuid.asBytes (u : Uuid) : List UInt8 := u.bytes

/-- `Uuid::from_slice`: a slice of exactly sixteen bytes. -/
def Uuid.fromSlice (b : List UInt8) : Option Uuid :=
  if sixteen : b.length = 16 then some ⟨b, sixteen⟩ else none

/-- `AttestationCaList`, by the certificate authorities it holds. -/
structure AttestationCaList (Ca : Type) where
  cas : List Ca

/-- `AttestationCaList::is_empty`. -/
def AttestationCaList.isEmpty {Ca : Type} (caList : AttestationCaList Ca) : Bool := caList.cas.isEmpty

/-- The arguments of `generate_challenge_register_options`. -/
structure RegistrationOptions where
  userUniqueId : List UInt8
  userName : String
  userDisplayName : String
  attestation : AttestationConveyancePreference
  policy : Option UserVerificationPolicy
  excludeCredentials : Option (List (List UInt8))
  extensions : Option RequestRegistrationExtensions
  credentialAlgorithms : List COSEAlgorithm
  requireResidentKey : Bool
  authenticatorAttachment : Option AuthenticatorAttachment
  rejectPasskeys : Bool

/-- The calls lib.rs makes outside src/: on `WebauthnCore`, whose configuration is their first
argument, on the authentication state, and on the credential the browser returns. -/
structure CoreCalls (Ca Cred Rs Ast Ccr Rcr Reg Pkc Res : Type) where
  generateChallengeRegisterOptions : WebauthnCore → RegistrationOptions → WebauthnResult (Ccr × Rs)
  registerCredential : WebauthnCore → Reg → Rs → Option (AttestationCaList Ca) → WebauthnResult Cred
  generateChallengeAuthenticatePolicy : WebauthnCore → List Cred → UserVerificationPolicy →
    Option RequestAuthenticationExtensions → Bool → WebauthnResult (Rcr × Ast)
  generateChallengeAuthenticateDiscoverable : WebauthnCore → UserVerificationPolicy →
    Option RequestAuthenticationExtensions → WebauthnResult (Rcr × Ast)
  authenticateCredential : WebauthnCore → Pkc → Ast → WebauthnResult Res
  setAllowedCredentials : Ast → List Cred → Ast
  getCredentialId : Pkc → List UInt8
  getUserUniqueId : Pkc → Option (List UInt8)

structure SecurityKeyRegistration (Ca Rs : Type) where
  rs : Rs
  caList : Option (AttestationCaList Ca)

structure AttestedPasskeyRegistration (Ca Rs : Type) where
  rs : Rs
  caList : AttestationCaList Ca

structure AttestedResidentKeyRegistration (Ca Rs : Type) where
  rs : Rs
  caList : AttestationCaList Ca

section Ceremonies
set_option linter.dupNamespace false

variable {Ca Cred Rs Ast Ccr Rcr Reg Pkc Res : Type} (core : CoreCalls Ca Cred Rs Ast Ccr Rcr Reg Pkc Res)

namespace Webauthn

/-- The options every `start_*_registration` hands to the core, from the values in which they
differ. -/
def registrationOptions (w : Webauthn) (userUniqueId : Uuid) (userName userDisplayName : String)
    (excludeCredentials : Option (List (List UInt8))) (attestation : AttestationConveyancePreference)
    (policy : UserVerificationPolicy) (credProtect : Option CredProtect) (minPinLength hmacCreateSecret : Option Bool)
    (requireResidentKey : Bool) (authenticatorAttachment : Option AuthenticatorAttachment) (rejectPasskeys : Bool) :
    RegistrationOptions where
  userUniqueId := userUniqueId.asBytes
  userName := userName
  userDisplayName := userDisplayName
  attestation := attestation
  policy := some policy
  excludeCredentials := excludeCredentials
  extensions := some ⟨credProtect, some true, some true, minPinLength, hmacCreateSecret⟩
  credentialAlgorithms := w.algorithms
  requireResidentKey := requireResidentKey
  authenticatorAttachment := authenticatorAttachment
  rejectPasskeys := rejectPasskeys

/-- `Webauthn::start_passkey_registration`. -/
def startPasskeyRegistration (w : Webauthn) (userUniqueId : Uuid) (userName userDisplayName : String)
    (excludeCredentials : Option (List (List UInt8))) : WebauthnResult (Ccr × Rs) :=
  core.generateChallengeRegisterOptions w.core
    (registrationOptions w userUniqueId userName userDisplayName excludeCredentials .none .required
      (some ⟨.userVerificationRequired, some false⟩) none none false none false)

def finishPasskeyRegistration (w : Webauthn) (reg : Reg) (state : Rs) : WebauthnResult Cred :=
  core.registerCredential w.core reg state none

def startPasskeyAuthentication (w : Webauthn) (creds : List Cred) : WebauthnResult (Rcr × Ast) :=
  core.generateChallengeAuthenticatePolicy w.core creds .required none true

def finishPasskeyAuthentication (w : Webauthn) (reg : Pkc) (state : Ast) : WebauthnResult Res :=
  core.authenticateCredential w.core reg state

/-- The attestation `start_securitykey_registration` asks for: `Direct` with a CA list, which may not
be empty, `None` without one. -/
def securitykeyAttestation (attestationCaList : Option (AttestationCaList Ca)) :
    WebauthnResult AttestationConveyancePreference :=
  match attestationCaList with
  | some caList => if caList.isEmpty then .error .missingAttestationCaList else .ok .direct
  | none => .ok .none

/-- `Webauthn::start_securitykey_registration`: user verification is only preferred, or
discouraged with no credProtect on an instance built for user-presence-only security keys. -/
def startSecuritykeyRegistration (w : Webauthn) (userUniqueId : Uuid) (userName userDisplayName : String)
    (excludeCredentials : Option (List (List UInt8))) (attestationCaList : Option (AttestationCaList Ca))
    (uiHintAuthenticatorAttachment : Option AuthenticatorAttachment) :
    WebauthnResult (Ccr × SecurityKeyRegistration Ca Rs) := do
  let attestation ← securitykeyAttestation attestationCaList
  let credProtect : Option CredProtect :=
    if w.userPresenceOnlySecurityKeys then none else some ⟨.userVerificationRequired, some false⟩
  let policy : UserVerificationPolicy :=
    if w.userPresenceOnlySecurityKeys then .discouragedDoNotUse else .preferred
  (core.generateChallengeRegisterOptions w.core
      (registrationOptions w userUniqueId userName userDisplayName excludeCredentials attestation policy
        credProtect none none false uiHintAuthenticatorAttachment true)).map
    fun (ccr, rs) => (ccr, ⟨rs, attestationCaList⟩)

def finishSecuritykeyRegistration (w : Webauthn) (reg : Reg) (state : SecurityKeyRegistration Ca Rs) :
    WebauthnResult Cred :=
  core.registerCredential w.core reg state.rs state.caList

def startSecuritykeyAuthentication (w : Webauthn) (creds : List Cred) : WebauthnResult (Rcr × Ast) :=
  let policy : UserVerificationPolicy :=
    if w.userPresenceOnlySecurityKeys then .discouragedDoNotUse else .preferred
  core.generateChallengeAuthenticatePolicy w.core creds policy none false

def finishSecuritykeyAuthentication (w : Webauthn) (reg : Pkc) (state : Ast) :
    WebauthnResult Res :=
  core.authenticateCredential w.core reg state

/-- `Webauthn::start_attested_passkey_registration`. -/
def startAttestedPasskeyRegistration (w : Webauthn) (userUniqueId : Uuid) (userName userDisplayName : String)
    (excludeCredentials : Option (List (List UInt8))) (attestationCaList : AttestationCaList Ca)
    (uiHintAuthenticatorAttachment : Option AuthenticatorAttachment) :
    WebauthnResult (Ccr × AttestedPasskeyRegistration Ca Rs) :=
  if attestationCaList.isEmpty then .error .missingAttestationCaList
  else
    (core.generateChallengeRegisterOptions w.core
        (registrationOptions w userUniqueId userName userDisplayName excludeCredentials .direct .required
          (some ⟨.userVerificationRequired, some true⟩) (some true) none false uiHintAuthenticatorAttachment true)).map
      fun (ccr, rs) => (ccr, ⟨rs, attestationCaList⟩)

def finishAttestedPasskeyRegistration (w : Webauthn) (reg : Reg) (state : AttestedPasskeyRegistration Ca Rs) :
    WebauthnResult Cred :=
  core.registerCredential w.core reg state.rs (some state.caList)

def startAttestedPasskeyAuthentication (w : Webauthn) (creds : List Cred) : WebauthnResult (Rcr × Ast) :=
  core.generateChallengeAuthenticatePolicy w.core creds .required (some ⟨none, some true⟩) false

def finishAttestedPasskeyAuthentication (w : Webauthn) (reg : Pkc) (state : Ast) : WebauthnResult Res :=
  core.authenticateCredential w.core reg state

def startDiscoverableAuthentication (w : Webauthn) : WebauthnResult (Rcr × Ast) :=
  core.generateChallengeAuthenticateDiscoverable w.core .required (some ⟨none, some true⟩)

/-- `Webauthn::identify_discoverable_authentication`: the user the credential's user handle
names, and the credential's id. -/
def identifyDiscoverableAuthentication (reg : Pkc) : WebauthnResult (Uuid × List UInt8) :=
  let credId := core.getCredentialId reg
  okOr (((core.getUserUniqueId reg).bind Uuid.fromSlice).map fun u => (u, credId)) .invalidUserUniqueId

def finishDiscoverableAuthentication (w : Webauthn) (reg : Pkc) (state : Ast) (creds : List Cred) :
    WebauthnResult Res :=
  let state := core.setAllowedCredentials state creds
  core.authenticateCredential w.core reg state

/-- `Webauthn::start_attested_resident_key_registration`. -/
def startAttestedResidentKeyRegistration (w : Webauthn) (userUniqueId : Uuid) (userName userDisplayName : String)
    (excludeCredentials : Option (List (List UInt8))) (attestationCaList : AttestationCaList Ca)
    (uiHintAuthenticatorAttachment : Option AuthenticatorAttachment) :
    WebauthnResult (Ccr × AttestedResidentKeyRegistration Ca Rs) :=
  if attestationCaList.isEmpty then .error .missingAttestationCaList
  else
    (core.generateChallengeRegisterOptions w.core
        (registrationOptions w userUniqueId userName userDisplayName excludeCredentials .direct .required
          (some ⟨.userVerificationRequired, some true⟩) (some true) (some true) true uiHintAuthenticatorAttachment
          true)).map
      fun (ccr, rs) => (ccr, ⟨rs, attestationCaList⟩)

def finishAttestedResidentKeyRegistration (w : Webauthn) (reg : Reg)
    (state : AttestedResidentKeyRegistration Ca Rs) : WebauthnResult Cred := do
  let cred ← core.registerCredential w.core reg state.rs (some state.caList)
  pure cred

def startAttestedResidentKeyAuthentication (w : Webauthn) (creds : List Cred) : WebauthnResult (Rcr × Ast) :=
  core.generateChallengeAuthenticatePolicy w.core creds .required (some ⟨none, some true⟩) false

def finishAttestedResidentKeyAuthentication (w : Webauthn) (reg : Pkc) (state : Ast) : WebauthnResult Res :=
  core.authenticateCredential w.core reg state

theorem securitykeyAttestation_eq_ok {attestationCaList : Option (AttestationCaList Ca)}
    {attestation : AttestationConveyancePreference} :
    securitykeyAttestation attestationCaList = .ok attestation ↔
      (∀ caList ∈ attestationCaList, caList.isEmpty = false) ∧
        (if attestationCaList.isSome then .direct else .none) = attestation := by
  rcases attestationCaList with _ | caList
  · simp [securitykeyAttestation]
  · cases empty : caList.isEmpty <;> simp [securitykeyAttestation, empty]

/-- What a registration's `start` and `finish` do with attestation: the core issued the challenge
for options that ask for attestation exactly when `finish` checks the credential against a CA
list, `checked`, that list is not empty, and `finish` is the core's check against it. -/
def AttestationAgrees (w : Webauthn) (ccr : Ccr) (rs : Rs) (checked : Option (AttestationCaList Ca))
    (finish : Reg → WebauthnResult Cred) : Prop :=
  ∃ options, core.generateChallengeRegisterOptions w.core options = .ok (ccr, rs) ∧
    (options.attestation = .direct ↔ checked.isSome) ∧ (∀ caList ∈ checked, caList.isEmpty = false) ∧
    ∀ reg, finish reg = core.registerCredential w.core reg rs checked

section Agreement
variable {w : Webauthn} {userUniqueId : Uuid} {userName userDisplayName : String}
  {excludeCredentials : Option (List (List UInt8))} {hint : Option AuthenticatorAttachment} {ccr : Ccr}

theorem startPasskeyRegistration_agrees {rs : Rs}
    (started : startPasskeyRegistration core w userUniqueId userName userDisplayName excludeCredentials = .ok (ccr, rs)) :
    AttestationAgrees core w ccr rs none (finishPasskeyRegistration core w · rs) :=
  ⟨_, started, by simp [registrationOptions], nofun, fun _ => rfl⟩

theorem startSecuritykeyRegistration_agrees {attestationCaList : Option (AttestationCaList Ca)}
    {state : SecurityKeyRegistration Ca Rs}
    (started : startSecuritykeyRegistration core w userUniqueId userName userDisplayName excludeCredentials
      attestationCaList hint = .ok (ccr, state)) :
    state.caList = attestationCaList ∧
      AttestationAgrees core w ccr state.rs attestationCaList (finishSecuritykeyRegistration core w · state) := by
  unfold startSecuritykeyRegistration at started
  obtain ⟨attestation, asked, started⟩ := bind_eq_ok.mp started
  obtain ⟨⟨ccr', rs⟩, issued, same⟩ := map_eq_ok.mp started
  cases same
  obtain ⟨nonEmpty, rfl⟩ := securitykeyAttestation_eq_ok.mp asked
  refine ⟨rfl, _, issued, ?_, nonEmpty, fun _ => rfl⟩
  cases attestationCaList <;> simp [registrationOptions]

theorem startAttestedPasskeyRegistration_agrees {attestationCaList : AttestationCaList Ca}
    {state : AttestedPasskeyRegistration Ca Rs}
    (started : startAttestedPasskeyRegistration core w userUniqueId userName userDisplayName excludeCredentials
      attestationCaList hint = .ok (ccr, state)) :
    state.caList = attestationCaList ∧
      AttestationAgrees core w ccr state.rs (some attestationCaList) (finishAttestedPasskeyRegistration core w · state) := by
  unfold startAttestedPasskeyRegistration at started
  split at started
  · cases started
  · rename_i nonEmpty
    obtain ⟨⟨ccr', rs⟩, issued, same⟩ := map_eq_ok.mp started
    cases same
    exact ⟨rfl, _, issued, by simp [registrationOptions], by simpa using nonEmpty, fun _ => rfl⟩

theorem startAttestedResidentKeyRegistration_agrees {attestationCaList : AttestationCaList Ca}
    {state : AttestedResidentKeyRegistration Ca Rs}
    (started : startAttestedResidentKeyRegistration core w userUniqueId userName userDisplayName excludeCredentials
      attestationCaList hint = .ok (ccr, state)) :
    state.caList = attestationCaList ∧
      AttestationAgrees core w ccr state.rs (some attestationCaList)
        (finishAttestedResidentKeyRegistration core w · state) := by
  unfold startAttestedResidentKeyRegistration at started
  split at started
  · cases started
  · rename_i nonEmpty
    obtain ⟨⟨ccr', rs⟩, issued, same⟩ := map_eq_ok.mp started
    cases same
    exact ⟨rfl, _, issued, by simp [registrationOptions], by simpa using nonEmpty, fun _ => bind_pure _⟩

end Agreement

/-- Every registration asks for attestation exactly when its `finish` checks the credential against
a CA list; that list is the one its `start` was given, and the core never sees an empty one. -/
theorem registration_attestation_agrees (w : Webauthn) (userUniqueId : Uuid) (userName userDisplayName : String)
    (excludeCredentials : Option (List (List UInt8))) (hint : Option AuthenticatorAttachment) (ccr : Ccr) :
    (∀ rs, startPasskeyRegistration core w userUniqueId userName userDisplayName excludeCredentials = .ok (ccr, rs) →
        AttestationAgrees core w ccr rs none (finishPasskeyRegistration core w · rs)) ∧
      (∀ attestationCaList state, startSecuritykeyRegistration core w userUniqueId userName userDisplayName
          excludeCredentials attestationCaList hint = .ok (ccr, state) →
        state.caList = attestationCaList ∧
          AttestationAgrees core w ccr state.rs attestationCaList (finishSecuritykeyRegistration core w · state)) ∧
      (∀ attestationCaList state, startAttestedPasskeyRegistration core w userUniqueId userName userDisplayName
          excludeCredentials attestationCaList hint = .ok (ccr, state) →
        state.caList = attestationCaList ∧ AttestationAgrees core w ccr state.rs (some attestationCaList)
          (finishAttestedPasskeyRegistration core w · state)) ∧
      (∀ attestationCaList state, startAttestedResidentKeyRegistration core w userUniqueId userName userDisplayName
          excludeCredentials attestationCaList hint = .ok (ccr, state) →
        state.caList = attestationCaList ∧ AttestationAgrees core w ccr state.rs (some attestationCaList)
          (finishAttestedResidentKeyRegistration core w · state)) :=
  ⟨fun _ => startPasskeyRegistration_agrees core, fun _ _ => startSecuritykeyRegistration_agrees core,
    fun _ _ => startAttestedPasskeyRegistration_agrees core, fun _ _ => startAttestedResidentKeyRegistration_agrees core⟩

/-- A core that issues every challenge and accepts every credential; a credential is its user
handle. -/
def acceptingCore : CoreCalls Unit Unit Unit Unit Unit Unit Unit (List UInt8) Unit :=
  ⟨fun _ _ => .ok ((), ()), fun _ _ _ _ => .ok (), fun _ _ _ _ _ => .ok ((), ()), fun _ _ _ => .ok ((), ()),
    fun _ _ _ => .ok (), fun ast _ => ast, fun _ => [1], some⟩

def exampleInstance : Webauthn :=
  ⟨⟨"Example", "example.com", [idmOrigin], false, false⟩, [.es256, .rs256], false⟩

def exampleUser : Uuid := ⟨List.replicate 16 7, rfl⟩

theorem registrations_check_their_ca_lists :
    (startPasskeyRegistration acceptingCore exampleInstance exampleUser "alice" "Alice" none = .ok ((), ()) ∧
      AttestationAgrees acceptingCore exampleInstance () () none
        (finishPasskeyRegistration acceptingCore exampleInstance · ())) ∧
    (startSecuritykeyRegistration acceptingCore exampleInstance exampleUser "alice" "Alice" none (some ⟨[()]⟩)
        none = .ok ((), ⟨(), some ⟨[()]⟩⟩) ∧
      (⟨(), some ⟨[()]⟩⟩ : SecurityKeyRegistration Unit Unit).caList = some ⟨[()]⟩ ∧
      AttestationAgrees acceptingCore exampleInstance () () (some ⟨[()]⟩)
        (finishSecuritykeyRegistration acceptingCore exampleInstance · ⟨(), some ⟨[()]⟩⟩)) ∧
    (startAttestedPasskeyRegistration acceptingCore exampleInstance exampleUser "alice" "Alice" none ⟨[()]⟩ none =
        .ok ((), ⟨(), ⟨[()]⟩⟩) ∧
      (⟨(), ⟨[()]⟩⟩ : AttestedPasskeyRegistration Unit Unit).caList = ⟨[()]⟩ ∧
      AttestationAgrees acceptingCore exampleInstance () () (some ⟨[()]⟩)
        (finishAttestedPasskeyRegistration acceptingCore exampleInstance · ⟨(), ⟨[()]⟩⟩)) ∧
    (startAttestedResidentKeyRegistration acceptingCore exampleInstance exampleUser "alice" "Alice" none ⟨[()]⟩
        none = .ok ((), ⟨(), ⟨[()]⟩⟩) ∧
      (⟨(), ⟨[()]⟩⟩ : AttestedResidentKeyRegistration Unit Unit).caList = ⟨[()]⟩ ∧
      AttestationAgrees acceptingCore exampleInstance () () (some ⟨[()]⟩)
        (finishAttestedResidentKeyRegistration acceptingCore exampleInstance · ⟨(), ⟨[()]⟩⟩)) :=
  have passkey : startPasskeyRegistration acceptingCore exampleInstance exampleUser "alice" "Alice" none =
      .ok ((), ()) := rfl
  have securitykey : startSecuritykeyRegistration acceptingCore exampleInstance exampleUser "alice" "Alice" none
      (some ⟨[()]⟩) none = .ok ((), ⟨(), some ⟨[()]⟩⟩) := rfl
  have attested : startAttestedPasskeyRegistration acceptingCore exampleInstance exampleUser "alice" "Alice" none
      ⟨[()]⟩ none = .ok ((), ⟨(), ⟨[()]⟩⟩) := rfl
  have resident : startAttestedResidentKeyRegistration acceptingCore exampleInstance exampleUser "alice" "Alice"
      none ⟨[()]⟩ none = .ok ((), ⟨(), ⟨[()]⟩⟩) := rfl
  have agrees := registration_attestation_agrees acceptingCore exampleInstance exampleUser "alice" "Alice" none none ()
  ⟨⟨passkey, agrees.1 _ passkey⟩, ⟨securitykey, agrees.2.1 _ _ securitykey⟩,
    ⟨attested, agrees.2.2.1 _ _ attested⟩, ⟨resident, agrees.2.2.2 _ _ resident⟩⟩

end Webauthn

end Ceremonies

end Webauthn
