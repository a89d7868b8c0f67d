import Webauthn.Proto

/-! `WebauthnBuilder` of `webauthn-rs` (lib.rs). `new` admits the relying party's origin only
when `rp_id` is its domain or a suffix of it on a label boundary; every other call sets one
field, and `append_allowed_origin` pushes its URL unchecked. `build` hands the origins to the
core unchanged, so the origins of a built instance are the first one followed by the appended
ones, in call order. -/
namespace Webauthn

/-- `url::Host`. -/
inductive Host where
  | domain (name : String)
  | ipv4 (octets : List UInt8)
  | ipv6 (segments : List UInt16)
  deriving DecidableEq, Repr

/-- `url::Url`, without its path, query and fragment. -/
structure Url where
  scheme : String
  host : Option Host
  port : Option UInt16
  deriving DecidableEq, Repr

/-- `Url::domain`: the host when it is a domain name. -/
def Url.domain (url : Url) : Option String :=
  match url.host with
  | some (.domain name) => some name
  | _ => none

/-- `str::ends_with`. A byte suffix of UTF-8 text that is itself text is a suffix of its
characters, so the test is made on characters. -/
def endsWith (s suffix : String) : Bool :=
  suffix.toList.isSuffixOf s.toList

theorem endsWith_iff {s suffix : String} : endsWith s suffix = true ↔ ∃ p, s = p ++ suffix := by
  simp only [endsWith, List.isSuffixOf_iff_suffix, List.IsSuffix, String.ext_iff, String.data_append]
  constructor
  · rintro ⟨p, same⟩
    exact ⟨⟨p⟩, same.symm⟩
  · rintro ⟨p, same⟩
    exact ⟨p.data, same.symm⟩

/-- `rp_id` covers a URL when the URL's domain, if it has one, is `rp_id` or a subdomain of it:
some labels, a dot, and `rp_id`. -/
def ScopedBy (rpId : String) (url : Url) : Prop :=
  ∀ d, url.domain = some d → d = rpId ∨ ∃ subdomain, d = subdomain ++ "." ++ rpId

theorem scopedBy_iff {rpId d : String} {url : Url} (domain : url.domain = some d) :
    ScopedBy rpId url ↔ (endsWith d ("." ++ rpId) || d == rpId) = true := by
  simp [ScopedBy, domain, endsWith_iff, String.append_assoc, or_comm]

structure WebauthnBuilder where
  rpName : Option String
  rpId : String
  allowedOrigins : List Url
  allowSubdomains : Bool
  allowAnyPort : Bool
  algorithms : List COSEAlgorithm
  userPresenceOnlySecurityKeys : Bool

namespace WebauthnBuilder

/-- `WebauthnBuilder::new`. `COSEAlgorithm::secure_algs()` lies outside src/; its value is the
argument `secureAlgs`. -/
def new (secureAlgs : List COSEAlgorithm) (rpId : String) (rpOrigin : Url) :
    WebauthnResult WebauthnBuilder :=
  let valid := (rpOrigin.domain.map fun effectiveDomain =>
    endsWith effectiveDomain ("." ++ rpId) || effectiveDomain == rpId).getD false
  if valid then
    .ok
      { rpName := none, rpId := rpId, allowedOrigins := [rpOrigin], allowSubdomains := false,
        allowAnyPort := false, algorithms := secureAlgs, userPresenceOnlySecurityKeys := false }
  else .error .configuration

/-- `WebauthnBuilder::allow_subdomains`. -/
def setAllowSubdomains (self : WebauthnBuilder) (allow : Bool) : WebauthnBuilder :=
  { self with allowSubdomains := allow }

/-- `WebauthnBuilder::allow_any_port`. -/
def setAllowAnyPort (self : WebauthnBuilder) (allow : Bool) : WebauthnBuilder :=
  { self with allowAnyPort := allow }

def appendAllowedOrigin (self : WebauthnBuilder) (origin : Url) : WebauthnBuilder :=
  { self with allowedOrigins := self.allowedOrigins ++ [origin] }

/-- `WebauthnBuilder::rp_name`. -/
def setRpName (self : WebauthnBuilder) (rpName : String) : WebauthnBuilder :=
  { self with rpName := some rpName }

def dangerSetUserPresenceOnlySecurityKeys (self : WebauthnBuilder) (enable : Bool) : WebauthnBuilder :=
  { self with userPresenceOnlySecurityKeys := enable }

end WebauthnBuilder

inductive BuilderCall where
  | allowSubdomains (allow : Bool)
  | allowAnyPort (allow : Bool)
  | appendAllowedOrigin (origin : Url)
  | rpName (rpName : String)
  | dangerSetUserPresenceOnlySecurityKeys (enable : Bool)

namespace BuilderCall

def apply (b : WebauthnBuilder) : BuilderCall → WebauthnBuilder
  | .allowSubdomains allow => b.setAllowSubdomains allow
  | .allowAnyPort allow => b.setAllowAnyPort allow
  | .appendAllowedOrigin origin => b.appendAllowedOrigin origin
  | .rpName name => b.setRpName name
  | .dangerSetUserPresenceOnlySecurityKeys enable => b.dangerSetUserPresenceOnlySecurityKeys enable

def appended : BuilderCall → List Url
  | .appendAllowedOrigin origin => [origin]
  | _ => []

def rpNameWritten : BuilderCall → Option (Option String)
  | .rpName name => some (some name)
  | _ => none

def allowSubdomainsWritten : BuilderCall → Option Bool
  | .allowSubdomains allow => some allow
  | _ => none

def allowAnyPortWritten : BuilderCall → Option Bool
  | .allowAnyPort allow => some allow
  | _ => none

def userPresenceOnlySecurityKeysWritten : BuilderCall → Option Bool
  | .dangerSetUserPresenceOnlySecurityKeys enable => some enable
  | _ => none

@[simp] theorem apply_rpId (b : WebauthnBuilder) (call : BuilderCall) : (apply b call).rpId = b.rpId := by
  cases call <;> rfl

@[simp] theorem apply_allowedOrigins (b : WebauthnBuilder) (call : BuilderCall) :
    (apply b call).allowedOrigins = b.allowedOrigins ++ call.appended := by
  cases call <;> simp [apply, appended, WebauthnBuilder.setAllowSubdomains, WebauthnBuilder.setAllowAnyPort,
    WebauthnBuilder.appendAllowedOrigin, WebauthnBuilder.setRpName,
    WebauthnBuilder.dangerSetUserPresenceOnlySecurityKeys]

theorem apply_rpName (b : WebauthnBuilder) (call : BuilderCall) :
    (apply b call).rpName = call.rpNameWritten.getD b.rpName := by
  cases call <;> rfl

theorem apply_allowSubdomains (b : WebauthnBuilder) (call : BuilderCall) :
    (apply b call).allowSubdomains = call.allowSubdomainsWritten.getD b.allowSubdomains := by
  cases call <;> rfl

theorem apply_allowAnyPort (b : WebauthnBuilder) (call : BuilderCall) :
    (apply b call).allowAnyPort = call.allowAnyPortWritten.getD b.allowAnyPort := by
  cases call <;> rfl

theorem apply_userPresenceOnlySecurityKeys (b : WebauthnBuilder) (call : BuilderCall) :
    (apply b call).userPresenceOnlySecurityKeys =
      call.userPresenceOnlySecurityKeysWritten.getD b.userPresenceOnlySecurityKeys := by
  cases call <;> rfl

end BuilderCall

def WebauthnBuilder.run (b : WebauthnBuilder) (calls : List BuilderCall) : WebauthnBuilder :=
  calls.foldl BuilderCall.apply b

def lastWritten {α : Type} (written : BuilderCall → Option α) (calls : List BuilderCall) : Option α :=
  (calls.filterMap written).getLast?

theorem lastWritten_cons {α : Type} (written : BuilderCall → Option α) (call : BuilderCall)
    (rest : List BuilderCall) : lastWritten written (call :: rest) = (lastWritten written rest).or (written call) := by
  unfold lastWritten
  cases writes : written call <;> cases last : (rest.filterMap written).getLast? <;>
    simp [List.filterMap_cons, List.getLast?_cons, writes, last]

namespace WebauthnBuilder

theorem run_rpId (b : WebauthnBuilder) (calls : List BuilderCall) : (b.run calls).rpId = b.rpId := by
  induction calls generalizing b with
  | nil => rfl
  | cons call rest ih => simp only [run, List.foldl_cons] at ih ⊢; rw [ih, BuilderCall.apply_rpId]

theorem run_allowedOrigins (b : WebauthnBuilder) (calls : List BuilderCall) :
    (b.run calls).allowedOrigins = b.allowedOrigins ++ calls.flatMap BuilderCall.appended := by
  induction calls generalizing b with
  | nil => simp [run]
  | cons call rest ih =>
    simp only [run, List.foldl_cons] at ih ⊢
    rw [ih, BuilderCall.apply_allowedOrigins, List.flatMap_cons, List.append_assoc]

theorem run_lastWritten {α : Type} (field : WebauthnBuilder → α) (written : BuilderCall → Option α)
    (step : ∀ b call, field (call.apply b) = (written call).getD (field b)) (b : WebauthnBuilder)
    (calls : List BuilderCall) : field (b.run calls) = (lastWritten written calls).getD (field b) := by
  induction calls generalizing b with
  | nil => rfl
  | cons call rest ih =>
    simp only [run, List.foldl_cons] at ih ⊢
    rw [ih, step, lastWritten_cons]
    cases lastWritten written rest <;> rfl

theorem run_algorithms (b : WebauthnBuilder) (calls : List BuilderCall) : (b.run calls).algorithms = b.algorithms := by
  induction calls generalizing b with
  | nil => rfl
  | cons call rest ih => simp only [run, List.foldl_cons] at ih ⊢; rw [ih]; cases call <;> rfl

end WebauthnBuilder

/-- Modelled from the spec: `WebauthnCore` keeps the relying party's name and id, the allowed
origins and the two origin-matching flags. -/
structure WebauthnCore where
  rpName : String
  rpId : String
  allowedOrigins : List Url
  allowSubdomainsOrigin : Bool
  allowAnyPort : Bool

/-- Modelled from the spec: `WebauthnCore::new_unsafe_experts_only` keeps its arguments, an
absent flag being false. -/
def WebauthnCore.newUnsafeExpertsOnly (rpName rpId : String) (allowedOrigins : List Url)
    (allowSubdomainsOrigin allowAnyPort : Option Bool) : WebauthnCore :=
  ⟨rpName, rpId, allowedOrigins, allowSubdomainsOrigin.getD false, allowAnyPort.getD false⟩

set_option linter.dupNamespace false in
/-- `Webauthn`: the core and the two settings the façade keeps beside it. -/
structure Webauthn where
  core : WebauthnCore
  algorithms : List COSEAlgorithm
  userPresenceOnlySecurityKeys : Bool

/-- `WebauthnBuilder::build`. -/
def WebauthnBuilder.build (self : WebauthnBuilder) : WebauthnResult Webauthn :=
  .ok ⟨WebauthnCore.newUnsafeExpertsOnly (self.rpName.getD self.rpId) self.rpId self.allowedOrigins
      (some self.allowSubdomains) (some self.allowAnyPort),
    self.algorithms, self.userPresenceOnlySecurityKeys⟩

set_option linter.dupNamespace false in
/-- `Webauthn::get_allowed_origins`, through the core's accessor (modelled from the spec). -/
def Webauthn.getAllowedOrigins (w : Webauthn) : List Url := w.core.allowedOrigins

namespace WebauthnBuilder

theorem new_eq_ok {secureAlgs : List COSEAlgorithm} {rpId : String} {rpOrigin : Url} {b : WebauthnBuilder} :
    new secureAlgs rpId rpOrigin = .ok b ↔
      (∃ d, rpOrigin.domain = some d ∧ (endsWith d ("." ++ rpId) || d == rpId) = true) ∧
        b =
          { rpName := none, rpId := rpId, allowedOrigins := [rpOrigin], allowSubdomains := false,
            allowAnyPort := false, algorithms := secureAlgs, userPresenceOnlySecurityKeys := false } := by
  unfold new
  cases domain : rpOrigin.domain <;> simp only [Option.map_none', Option.map_some', Option.getD_none,
    Option.getD_some, Bool.false_eq_true, if_false, reduceCtorEq, false_iff, not_and, exists_false,
    false_and, Option.some.injEq, exists_eq_left', not_false_eq_true, implies_true]
  split
  · rename_i valid
    simp only [valid, true_and, Except.ok.injEq]
    exact eq_comm
  · simp_all

example : (new [] "example.com" ⟨"https", some (.domain "myexample.com"), none⟩).toBool = false := by
  decide

theorem new_scoped {secureAlgs : List COSEAlgorithm} {rpId : String} {rpOrigin : Url} {b : WebauthnBuilder}
    (created : new secureAlgs rpId rpOrigin = .ok b) : ScopedBy rpId rpOrigin := by
  obtain ⟨⟨d, domain, valid⟩, -⟩ := new_eq_ok.mp created
  exact (scopedBy_iff domain).mpr valid

theorem build_getAllowedOrigins (b : WebauthnBuilder) :
    ∃ w, b.build = .ok w ∧ w.core.rpId = b.rpId ∧ w.getAllowedOrigins = b.allowedOrigins :=
  ⟨_, rfl, rfl, rfl⟩

end WebauthnBuilder

/-- The origins of an instance built from `new rp_id o` and any calls: `o`, which `rp_id`
covers, then the URLs of `append_allowed_origin` in call order, which are not checked. -/
theorem built_origins_checked_then_appended {secureAlgs : List COSEAlgorithm} {rpId : String}
    {rpOrigin : Url} {b0 : WebauthnBuilder} (created : WebauthnBuilder.new secureAlgs rpId rpOrigin = .ok b0)
    (calls : List BuilderCall) :
    ∃ w, (b0.run calls).build = .ok w ∧ w.core.rpId = rpId ∧
      w.getAllowedOrigins = rpOrigin :: calls.flatMap BuilderCall.appended ∧ ScopedBy rpId rpOrigin := by
  have covered := WebauthnBuilder.new_scoped created
  obtain ⟨-, rfl⟩ := WebauthnBuilder.new_eq_ok.mp created
  obtain ⟨w, built, sameId, origins⟩ := (WebauthnBuilder.run _ calls).build_getAllowedOrigins
  refine ⟨w, built, ?_, ?_, covered⟩
  · rw [sameId, WebauthnBuilder.run_rpId]
  · rw [origins, WebauthnBuilder.run_allowedOrigins]
    rfl

def idmOrigin : Url := ⟨"https", some (.domain "idm.example.com"), none⟩

def myexampleOrigin : Url := ⟨"https", some (.domain "myexample.com"), none⟩

theorem idm_builder_origins :
    ∃ b0, WebauthnBuilder.new [.es256, .rs256] "example.com" idmOrigin = .ok b0 ∧
      ∃ w, (b0.run [.rpName "Example", .appendAllowedOrigin myexampleOrigin]).build = .ok w ∧
        w.core.rpId = "example.com" ∧ w.getAllowedOrigins = [idmOrigin, myexampleOrigin] ∧
        ScopedBy "example.com" idmOrigin :=
  ⟨_, rfl, @built_origins_checked_then_appended [.es256, .rs256] "example.com" idmOrigin _ rfl _⟩

/-- `append_allowed_origin` puts an origin that `rp_id` does not cover into the built instance. -/
theorem appended_origin_escapes_rp_id :
    ∃ b0 w, WebauthnBuilder.new [.es256, .rs256] "example.com" idmOrigin = .ok b0 ∧
      (b0.run [.appendAllowedOrigin myexampleOrigin]).build = .ok w ∧
      myexampleOrigin ∈ w.getAllowedOrigins ∧ ¬ScopedBy "example.com" myexampleOrigin :=
  ⟨_, _, rfl, rfl, .tail _ (.head _), by
    rw [@scopedBy_iff "example.com" "myexample.com" myexampleOrigin rfl]
    decide⟩

/-- The instance built from `new rp_id o` and any calls, in closed form: each setting holds the
value of the last call that writes it, or the default of `new` if none does (`rp_name` then falls
back to `rp_id`), the origins are `o` and the appended ones, and the algorithms are `secure_algs`. -/
theorem built_instance_last_written {secureAlgs : List COSEAlgorithm} {rpId : String} {rpOrigin : Url}
    {b0 : WebauthnBuilder} (created : WebauthnBuilder.new secureAlgs rpId rpOrigin = .ok b0)
    (calls : List BuilderCall) :
    (b0.run calls).build = .ok
      { core :=
          { rpName := ((lastWritten BuilderCall.rpNameWritten calls).getD none).getD rpId
            rpId := rpId
            allowedOrigins := rpOrigin :: calls.flatMap BuilderCall.appended
            allowSubdomainsOrigin := (lastWritten BuilderCall.allowSubdomainsWritten calls).getD false
            allowAnyPort := (lastWritten BuilderCall.allowAnyPortWritten calls).getD false }
        algorithms := secureAlgs
        userPresenceOnlySecurityKeys :=
          (lastWritten BuilderCall.userPresenceOnlySecurityKeysWritten calls).getD false } := by
  obtain ⟨-, rfl⟩ := WebauthnBuilder.new_eq_ok.mp created
  simp only [WebauthnBuilder.build, WebauthnCore.newUnsafeExpertsOnly, Option.getD_some,
    WebauthnBuilder.run_rpId, WebauthnBuilder.run_allowedOrigins, WebauthnBuilder.run_algorithms,
    WebauthnBuilder.run_lastWritten _ _ BuilderCall.apply_rpName,
    WebauthnBuilder.run_lastWritten _ _ BuilderCall.apply_allowSubdomains,
    WebauthnBuilder.run_lastWritten _ _ BuilderCall.apply_allowAnyPort,
    WebauthnBuilder.run_lastWritten _ _ BuilderCall.apply_userPresenceOnlySecurityKeys, List.singleton_append]

theorem idm_builder_last_written :
    ∃ b0, WebauthnBuilder.new [.es256, .rs256] "example.com" idmOrigin = .ok b0 ∧
      (b0.run [.rpName "Example", .allowSubdomains true, .dangerSetUserPresenceOnlySecurityKeys true,
          .allowSubdomains false]).build = .ok
        { core :=
            { rpName := "Example", rpId := "example.com", allowedOrigins := [idmOrigin],
              allowSubdomainsOrigin := false, allowAnyPort := false }
          algorithms := [.es256, .rs256]
          userPresenceOnlySecurityKeys := true } :=
  ⟨_, rfl, @built_instance_last_written [.es256, .rs256] "example.com" idmOrigin _ rfl _⟩

end Webauthn
