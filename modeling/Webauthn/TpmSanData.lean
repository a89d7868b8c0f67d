import Webauthn.Extension

/-! The TCG attributes of a TPM directory name (`TpmSanData`, `TpmSanDataBuilder`): the
`try_fold` over the attributes in closed form. Each field takes the value of the last
attribute of its type; the fold stops at the first TCG attribute whose value is no string. -/
namespace Webauthn

structure TpmSanData where
  manufacturer : String
  model : String
  version : String
  deriving DecidableEq, Repr

structure TpmSanDataBuilder where
  manufacturer : Option String
  model : Option String
  version : Option String
  deriving DecidableEq, Repr

namespace TpmSanDataBuilder

def new : TpmSanDataBuilder := ⟨none, none, none⟩

/-- `TpmSanDataBuilder::manufacturer`. -/
def setManufacturer (self : TpmSanDataBuilder) (value : String) : TpmSanDataBuilder :=
  { self with manufacturer := some value }

/-- `TpmSanDataBuilder::model`. -/
def setModel (self : TpmSanDataBuilder) (value : String) : TpmSanDataBuilder :=
  { self with model := some value }

/-- `TpmSanDataBuilder::version`. -/
def setVersion (self : TpmSanDataBuilder) (value : String) : TpmSanDataBuilder :=
  { self with version := some value }

/-- `TpmSanDataBuilder::build`. -/
def build (self : TpmSanDataBuilder) : WebauthnResult TpmSanData :=
  match self.manufacturer, self.model, self.version with
  | some manufacturer, some model, some version => .ok ⟨manufacturer, model, version⟩
  | _, _, _ => .error .attestationCertificateRequirementsNotMet

/-- `der_parser`'s error from `as_str` on a value that is not a string. -/
inductive DerError where
  | berTypeError

/-- One step of the `try_fold` of `TryFrom<&X509Name> for TpmSanData`. -/
def absorb (builder : TpmSanDataBuilder) (attr : AttributeTypeAndValue) :
    Except DerError TpmSanDataBuilder :=
  let value := okOr attr.attrValue.asStr DerError.berTypeError
  if attr.attrType = .tcgAtTpmManufacturer then builder.setManufacturer <$> value
  else if attr.attrType = .tcgAtTpmModel then builder.setModel <$> value
  else if attr.attrType = .tcgAtTpmVersion then builder.setVersion <$> value
  else .ok builder

end TpmSanDataBuilder

/-- `TryFrom<&X509Name> for TpmSanData`. -/
def TpmSanData.tryFrom (x509Name : X509Name) : WebauthnResult TpmSanData :=
  ((x509Name.foldlM TpmSanDataBuilder.absorb TpmSanDataBuilder.new).mapError
    fun _ => .parseNOMFailure) >>= TpmSanDataBuilder.build

def Oid.IsTcg (oid : Oid) : Prop :=
  oid = .tcgAtTpmManufacturer ∨ oid = .tcgAtTpmModel ∨ oid = .tcgAtTpmVersion

instance (oid : Oid) : Decidable oid.IsTcg := inferInstanceAs (Decidable (_ ∨ _))

def tcgValuesAreStrings (name : X509Name) : Bool :=
  name.all fun a => !decide a.attrType.IsTcg || a.attrValue.asStr.isSome

def lastValueOf (name : X509Name) (oid : Oid) : Option String :=
  ((name.filter fun a => a.attrType = oid).getLast?).bind (·.attrValue.asStr)

theorem asStr_of_tcgValuesAreStrings {name : X509Name} {oid : Oid} (strings : tcgValuesAreStrings name)
    (tcg : oid.IsTcg) {b : AttributeTypeAndValue} (member : b ∈ name) (typed : b.attrType = oid) :
    ∃ s, b.attrValue.asStr = some s := by
  have string := List.all_eq_true.mp strings b member
  simp only [typed, tcg, decide_True, Bool.not_true, Bool.false_or] at string
  exact Option.isSome_iff_exists.mp string

theorem lastValueOf_cons {a : AttributeTypeAndValue} {rest : X509Name} {oid : Oid}
    (strings : tcgValuesAreStrings rest) (tcg : oid.IsTcg) :
    lastValueOf (a :: rest) oid = (lastValueOf rest oid).or (lastValueOf [a] oid) := by
  unfold lastValueOf
  by_cases same : a.attrType = oid
  · rcases last : (rest.filter fun a => a.attrType = oid).getLast? with _ | b
    · simp [List.filter_cons, same, last, List.getLast?_cons]
    · have kept := List.mem_filter.mp (List.mem_of_getLast?_eq_some last)
      obtain ⟨s, string⟩ := asStr_of_tcgValuesAreStrings strings tcg kept.1 (of_decide_eq_true kept.2)
      simp [List.filter_cons, same, last, List.getLast?_cons, string]
  · simp [List.filter_cons, same]

theorem lastValueOf_eq_none_iff {name : X509Name} {oid : Oid} (strings : tcgValuesAreStrings name)
    (tcg : oid.IsTcg) : lastValueOf name oid = none ↔ ∀ a ∈ name, a.attrType ≠ oid := by
  simp only [lastValueOf, Option.bind_eq_none]
  constructor
  · intro noString a member same
    obtain ⟨b, last⟩ : ∃ b, (name.filter fun a => a.attrType = oid).getLast? = some b :=
      Option.isSome_iff_exists.mp (List.getLast?_isSome.mpr (List.ne_nil_of_mem
        (List.mem_filter.mpr ⟨member, decide_eq_true same⟩)))
    have kept := List.mem_filter.mp (List.mem_of_getLast?_eq_some last)
    obtain ⟨s, string⟩ := asStr_of_tcgValuesAreStrings strings tcg kept.1 (of_decide_eq_true kept.2)
    simp [noString b last] at string
  · intro absent b last
    have kept := List.mem_filter.mp (List.mem_of_getLast?_eq_some last)
    exact absurd (of_decide_eq_true kept.2) (absent b kept.1)

namespace TpmSanDataBuilder

def overwrite (b : TpmSanDataBuilder) (name : X509Name) : TpmSanDataBuilder :=
  ⟨(lastValueOf name .tcgAtTpmManufacturer).or b.manufacturer,
    (lastValueOf name .tcgAtTpmModel).or b.model, (lastValueOf name .tcgAtTpmVersion).or b.version⟩

theorem absorb_eq (b : TpmSanDataBuilder) (a : AttributeTypeAndValue) :
    b.absorb a = if tcgValuesAreStrings [a] then .ok (b.overwrite [a]) else .error .berTypeError := by
  obtain ⟨type_, value⟩ := a
  unfold absorb
  by_cases manufacturer : type_ = .tcgAtTpmManufacturer
  · subst manufacturer
    cases value <;> simp [tcgValuesAreStrings, overwrite, lastValueOf, Oid.IsTcg, AttributeValue.asStr,
      setManufacturer, Oid.tcgAtTpmManufacturer, Oid.tcgAtTpmModel, Oid.tcgAtTpmVersion, Functor.map,
      Except.map]
  by_cases model : type_ = .tcgAtTpmModel
  · subst model
    cases value <;> simp [tcgValuesAreStrings, overwrite, lastValueOf, Oid.IsTcg, AttributeValue.asStr,
      setModel, Oid.tcgAtTpmManufacturer, Oid.tcgAtTpmModel, Oid.tcgAtTpmVersion, Functor.map,
      Except.map]
  by_cases version : type_ = .tcgAtTpmVersion
  · subst version
    cases value <;> simp [tcgValuesAreStrings, overwrite, lastValueOf, Oid.IsTcg, AttributeValue.asStr,
      setVersion, Oid.tcgAtTpmManufacturer, Oid.tcgAtTpmModel, Oid.tcgAtTpmVersion, Functor.map,
      Except.map]
  simp [tcgValuesAreStrings, overwrite, lastValueOf, Oid.IsTcg, manufacturer, model, version]

theorem overwrite_cons (b : TpmSanDataBuilder) (a : AttributeTypeAndValue) {rest : X509Name}
    (strings : tcgValuesAreStrings rest) : (b.overwrite [a]).overwrite rest = b.overwrite (a :: rest) := by
  simp only [overwrite, lastValueOf_cons strings (.inl rfl), lastValueOf_cons strings (.inr (.inl rfl)),
    lastValueOf_cons strings (.inr (.inr rfl)), Option.or_assoc]

theorem foldlM_absorb (name : X509Name) (b : TpmSanDataBuilder) :
    name.foldlM absorb b = if tcgValuesAreStrings name then .ok (b.overwrite name) else .error .berTypeError := by
  induction name generalizing b with
  | nil => simp [tcgValuesAreStrings, overwrite, lastValueOf, pure, Except.pure]
  | cons a rest ih =>
    have strings : tcgValuesAreStrings (a :: rest) = (tcgValuesAreStrings [a] && tcgValuesAreStrings rest) := by
      simp [tcgValuesAreStrings]
    rw [List.foldlM_cons, absorb_eq, strings]
    by_cases first : tcgValuesAreStrings [a]
    · simp only [first, if_true, Bool.true_and, bind, Except.bind, ih]
      split
      · rw [overwrite_cons b a ‹_›]
      · rfl
    · simp [first, bind, Except.bind]

end TpmSanDataBuilder

theorem TpmSanData.tryFrom_eq (name : X509Name) :
    TpmSanData.tryFrom name =
      if tcgValuesAreStrings name then
        match lastValueOf name .tcgAtTpmManufacturer, lastValueOf name .tcgAtTpmModel,
          lastValueOf name .tcgAtTpmVersion with
        | some manufacturer, some model, some version => .ok ⟨manufacturer, model, version⟩
        | _, _, _ => .error .attestationCertificateRequirementsNotMet
      else .error .parseNOMFailure := by
  rw [TpmSanData.tryFrom, TpmSanDataBuilder.foldlM_absorb]
  split
  · simp only [mapError_ok, TpmSanDataBuilder.overwrite, TpmSanDataBuilder.new, Option.or_none]
    rfl
  · rfl

/-- `TpmSanData::try_from`: a TCG value that is no string fails the whole name; otherwise the
last value of each of the three types is taken, and a missing type refuses the name. -/
theorem tpmSanData_tryFrom_last_values (name : X509Name) :
    TpmSanData.tryFrom name =
        (if tcgValuesAreStrings name then
          match lastValueOf name .tcgAtTpmManufacturer, lastValueOf name .tcgAtTpmModel,
            lastValueOf name .tcgAtTpmVersion with
          | some manufacturer, some model, some version => .ok ⟨manufacturer, model, version⟩
          | _, _, _ => .error .attestationCertificateRequirementsNotMet
        else .error .parseNOMFailure) ∧
      ∀ oid : Oid, oid.IsTcg → tcgValuesAreStrings name →
        (lastValueOf name oid = none ↔ ∀ a ∈ name, a.attrType ≠ oid) :=
  ⟨TpmSanData.tryFrom_eq name, fun _ tcg strings => lastValueOf_eq_none_iff strings tcg⟩

/-- A directory name with a repeated manufacturer and a foreign attribute between. -/
def tpmSanNameRepeated : X509Name :=
  [⟨.tcgAtTpmManufacturer, .str "id:FFFFF1D0"⟩, ⟨.commonName, .other 0⟩, ⟨.tcgAtTpmModel, .str "NPCT6xx"⟩,
    ⟨.tcgAtTpmVersion, .str "id:0007"⟩, ⟨.tcgAtTpmManufacturer, .str "id:414D4400"⟩]

theorem tpmSanNameRepeated_takes_last :
    TpmSanData.tryFrom tpmSanNameRepeated = .ok ⟨"id:414D4400", "NPCT6xx", "id:0007"⟩ ∧
      (lastValueOf tpmSanNameRepeated .tcgAtTpmModel = none ↔
        ∀ a ∈ tpmSanNameRepeated, a.attrType ≠ .tcgAtTpmModel) :=
  ⟨(tpmSanData_tryFrom_last_values tpmSanNameRepeated).1.trans rfl,
    (tpmSanData_tryFrom_last_values tpmSanNameRepeated).2 _ (.inr (.inl rfl)) rfl⟩

end Webauthn
