import Ebms.Proofs.Conformance.Rules.Subject
import Ebms.Profile.Builtin
import Ebms.Proofs.Conformance.Message
import Ebms.Proofs.Conformance.Mode

/-!
# Stricter profiles

One profile is at least as strict as another when each of its rules asks for at least as much: it
allows no more, requires whatever the other one requires, and mandates what the other one mandates.
A list that is empty allows anything, so it is the most generous list and not the smallest one.

What conforms to a profile conforms to every profile that it is at least as strict as. This is
shown block by block, along the conditions that the checks come down to.
-/

namespace Ebms

/-- A requirement asks for at least as much as another: nothing is the least, then either value, and
then one value, which is above no other value. -/
def Requirement.AtLeast (strict : Requirement) : Requirement → Prop
  | .unchecked => True
  | .defined => strict ≠ .unchecked
  | .equals value => strict = .equals value

instance (strict lax : Requirement) : Decidable (strict.AtLeast lax) :=
  match lax with
  | .unchecked => .isTrue trivial
  | .defined => inferInstanceAs (Decidable (strict ≠ .unchecked))
  | .equals value => inferInstanceAs (Decidable (strict = .equals value))

/-- A requirement asks for at least as much as another exactly when every flag that meets it meets
the other one. -/
theorem Requirement.atLeast_iff (strict lax : Requirement) :
    strict.AtLeast lax ↔ ∀ flag, strict.MetBy flag → lax.MetBy flag := by
  constructor
  · intro h flag hmet
    cases lax with
    | unchecked => exact trivial
    | defined =>
      cases strict with
      | unchecked => exact absurd rfl h
      | defined => exact hmet
      | equals value =>
        rw [show flag = .set value from hmet]
        exact Flag.noConfusion
    | equals value =>
      rw [show strict = .equals value from h] at hmet
      exact hmet
  · intro h
    cases lax with
    | unchecked => exact trivial
    | defined =>
      intro hunchecked
      subst hunchecked
      exact h .undefined trivial rfl
    | equals value =>
      cases strict with
      | unchecked => exact nomatch h .undefined trivial
      | defined =>
        have hother : Flag.set (!value) = .set value := h (.set (!value)) Flag.noConfusion
        cases value <;> cases hother
      | equals other =>
        have hsame : Flag.set other = .set value := h (.set other) rfl
        cases hsame
        rfl

/-- Every requirement asks for at least as much as itself. -/
theorem Requirement.AtLeast.refl (requirement : Requirement) : requirement.AtLeast requirement :=
  (requirement.atLeast_iff requirement).mpr fun _ hmet => hmet

/-- Asking for at least as much is transitive. -/
theorem Requirement.AtLeast.trans {strict middle lax : Requirement} (h : strict.AtLeast middle)
    (h' : middle.AtLeast lax) : strict.AtLeast lax := by
  rw [Requirement.atLeast_iff] at h h' ⊢
  intro flag hmet
  exact h' flag (h flag hmet)

/-- A flag that meets a requirement meets every requirement that asks for no more. -/
theorem Requirement.AtLeast.metBy {strict lax : Requirement} (h : strict.AtLeast lax) {flag : Flag}
    (hmet : strict.MetBy flag) : lax.MetBy flag :=
  (strict.atLeast_iff lax).mp h flag hmet

/-- A list allows no more than another, where an empty list allows anything. -/
def Narrows {α : Type} (strict lax : List α) : Prop :=
  lax = [] ∨ strict ≠ [] ∧ strict ⊆ lax

instance {α : Type} [DecidableEq α] (strict lax : List α) : Decidable (Narrows strict lax) :=
  inferInstanceAs (Decidable (lax = [] ∨ strict ≠ [] ∧ strict ⊆ lax))

/-- What is allowed by a list is allowed by every list that it narrows. -/
theorem Narrows.allowed {α : Type} {strict lax : List α} (h : Narrows strict lax) {P : α → Prop}
    (hallowed : strict = [] ∨ ∃ value ∈ strict, P value) : lax = [] ∨ ∃ value ∈ lax, P value := by
  obtain hany | ⟨hsome, hsubset⟩ := h
  · exact .inl hany
  · obtain ⟨value, hvalue, hp⟩ := hallowed.resolve_left hsome
    exact .inr ⟨value, hsubset hvalue, hp⟩

/-- Every list narrows itself. -/
theorem Narrows.refl {α : Type} (list : List α) : Narrows list list := by
  by_cases hany : list = []
  · exact .inl hany
  · exact .inr ⟨hany, List.Subset.refl list⟩

/-- What narrows a list narrows whatever that list narrows. -/
theorem Narrows.trans {α : Type} {strict middle lax : List α} (h : Narrows strict middle)
    (h' : Narrows middle lax) : Narrows strict lax := by
  obtain hany | ⟨hsome, hsubset⟩ := h'
  · exact .inl hany
  · obtain ⟨hsome', hsubset'⟩ := h.resolve_left hsome
    exact .inr ⟨hsome', List.Subset.trans hsubset' hsubset⟩

/-- A switch that is off in a profile is off in every profile that switches on no more. -/
theorem off_of_off {strict lax : Bool} (h : lax = true → strict = true) (hoff : strict = false) :
    lax = false := by
  cases lax with
  | false => rfl
  | true => exact absurd (h rfl) (by simp [hoff])

/-- The rules for error handling ask for at least as much as others. -/
structure ErrorHandlingRules.AtLeast (strict lax : ErrorHandlingRules) : Prop where
  required : lax.required = true → strict.required = true
  reportAsResponse : strict.reportAsResponse.AtLeast lax.reportAsResponse
  notifyConsumer : strict.notifyConsumer.AtLeast lax.notifyConsumer
  notifyProducer : strict.notifyProducer.AtLeast lax.notifyProducer
  notifyDeliveryFailures : strict.notifyDeliveryFailures.AtLeast lax.notifyDeliveryFailures

instance (strict lax : ErrorHandlingRules) : Decidable (strict.AtLeast lax) :=
  decidable_of_iff
    ((lax.required = true → strict.required = true) ∧
      strict.reportAsResponse.AtLeast lax.reportAsResponse ∧
      strict.notifyConsumer.AtLeast lax.notifyConsumer ∧
      strict.notifyProducer.AtLeast lax.notifyProducer ∧
      strict.notifyDeliveryFailures.AtLeast lax.notifyDeliveryFailures)
    ⟨fun ⟨required, response, consumer, producer, delivery⟩ =>
      ⟨required, response, consumer, producer, delivery⟩,
    fun ⟨required, response, consumer, producer, delivery⟩ =>
      ⟨required, response, consumer, producer, delivery⟩⟩

/-- Rules for error handling that ask for at least as much are transitive. -/
theorem ErrorHandlingRules.AtLeast.trans {strict middle lax : ErrorHandlingRules}
    (h : strict.AtLeast middle) (h' : middle.AtLeast lax) : strict.AtLeast lax where
  required hon := h.required (h'.required hon)
  reportAsResponse := h.reportAsResponse.trans h'.reportAsResponse
  notifyConsumer := h.notifyConsumer.trans h'.notifyConsumer
  notifyProducer := h.notifyProducer.trans h'.notifyProducer
  notifyDeliveryFailures := h.notifyDeliveryFailures.trans h'.notifyDeliveryFailures

/-- Error handling that meets some rules meets those that ask for no more. -/
theorem ErrorHandlingRules.AtLeast.metBy {strict lax : ErrorHandlingRules}
    (h : strict.AtLeast lax) {handling : ErrorHandling} (hmet : strict.MetBy handling) :
    lax.MetBy handling where
  reportAsResponse := h.reportAsResponse.metBy hmet.reportAsResponse
  notifyConsumer := h.notifyConsumer.metBy hmet.notifyConsumer
  notifyProducer := h.notifyProducer.metBy hmet.notifyProducer
  notifyDeliveryFailures := h.notifyDeliveryFailures.metBy hmet.notifyDeliveryFailures

/-- The rules for reception awareness ask for at least as much as others. -/
structure ReceptionRules.AtLeast (strict lax : ReceptionRules) : Prop where
  required : lax.required = true → strict.required = true
  enabled : strict.enabled.AtLeast lax.enabled
  retry : strict.retry.AtLeast lax.retry
  duplicateDetection : strict.duplicateDetection.AtLeast lax.duplicateDetection

instance (strict lax : ReceptionRules) : Decidable (strict.AtLeast lax) :=
  decidable_of_iff
    ((lax.required = true → strict.required = true) ∧ strict.enabled.AtLeast lax.enabled ∧
      strict.retry.AtLeast lax.retry ∧ strict.duplicateDetection.AtLeast lax.duplicateDetection)
    ⟨fun ⟨required, enabled, retry, duplicates⟩ => ⟨required, enabled, retry, duplicates⟩,
    fun ⟨required, enabled, retry, duplicates⟩ => ⟨required, enabled, retry, duplicates⟩⟩

/-- Rules for reception awareness that ask for at least as much are transitive. -/
theorem ReceptionRules.AtLeast.trans {strict middle lax : ReceptionRules}
    (h : strict.AtLeast middle) (h' : middle.AtLeast lax) : strict.AtLeast lax where
  required hon := h.required (h'.required hon)
  enabled := h.enabled.trans h'.enabled
  retry := h.retry.trans h'.retry
  duplicateDetection := h.duplicateDetection.trans h'.duplicateDetection

/-- Reception awareness that meets some rules meets those that ask for no more. -/
theorem ReceptionRules.AtLeast.metBy {strict lax : ReceptionRules} (h : strict.AtLeast lax)
    {awareness : ReceptionAwareness} (hmet : strict.MetBy awareness) : lax.MetBy awareness where
  enabled := h.enabled.metBy hmet.enabled
  retry := h.retry.metBy hmet.retry
  duplicateDetection := h.duplicateDetection.metBy hmet.duplicateDetection

namespace Profile

/-- Every rule of a profile asks for at least as much as the same rule of another. -/
structure AtLeastAsStrict (strict lax : Profile) : Prop where
  allowedPatterns : strict.allowedPatterns ⊆ lax.allowedPatterns
  allowedBindings : strict.allowedBindings ⊆ lax.allowedBindings
  allowedSchemes : Narrows strict.allowedSchemes lax.allowedSchemes
  schemeIsFatal : lax.schemeIsFatal = true → strict.schemeIsFatal = true
  requireAddress : lax.requireAddress = true → strict.requireAddress = true
  soapVersion : ∀ version ∈ lax.soapVersion, version ∈ strict.soapVersion
  requireSecurity : lax.requireSecurity = true → strict.requireSecurity = true
  requireSignatureCertificate : lax.requireSignatureCertificate = true →
    strict.requireSignatureCertificate = true
  signatureAlgorithm : ∀ algorithm ∈ lax.signatureAlgorithm, algorithm ∈ strict.signatureAlgorithm
  signatureDigest : ∀ algorithm ∈ lax.signatureDigest, algorithm ∈ strict.signatureDigest
  encryptionAlgorithm : ∀ algorithm ∈ lax.encryptionAlgorithm,
    algorithm ∈ strict.encryptionAlgorithm
  wssVersion : ∀ version ∈ lax.wssVersion, version ∈ strict.wssVersion
  authorize : strict.authorize.AtLeast lax.authorize
  replyPattern : ∀ pattern ∈ lax.replyPattern, pattern ∈ strict.replyPattern
  nonRepudiation : strict.nonRepudiation.AtLeast lax.nonRepudiation
  errorHandling : strict.errorHandling.AtLeast lax.errorHandling
  allowedServices : Narrows strict.allowedServices lax.allowedServices
  requiredProperties : lax.requiredProperties ⊆ strict.requiredProperties
  allowedPartyIdTypes : Narrows strict.allowedPartyIdTypes lax.allowedPartyIdTypes
  singlePartyId : lax.singlePartyId = true → strict.singlePartyId = true
  reception : strict.reception.AtLeast lax.reception

namespace AtLeastAsStrict

/-- Every profile is at least as strict as itself. -/
theorem refl (profile : Profile) : profile.AtLeastAsStrict profile := by
  constructor
  case allowedSchemes => exact .refl _
  case allowedServices => exact .refl _
  case allowedPartyIdTypes => exact .refl _
  case authorize => exact .refl _
  case nonRepudiation => exact .refl _
  case errorHandling => exact ⟨fun h => h, .refl _, .refl _, .refl _, .refl _⟩
  case reception => exact ⟨fun h => h, .refl _, .refl _, .refl _⟩
  all_goals simp

/-- Being at least as strict is transitive. -/
theorem trans {strict middle lax : Profile} (h : strict.AtLeastAsStrict middle)
    (h' : middle.AtLeastAsStrict lax) : strict.AtLeastAsStrict lax where
  allowedPatterns := List.Subset.trans h.allowedPatterns h'.allowedPatterns
  allowedBindings := List.Subset.trans h.allowedBindings h'.allowedBindings
  allowedSchemes := h.allowedSchemes.trans h'.allowedSchemes
  schemeIsFatal hon := h.schemeIsFatal (h'.schemeIsFatal hon)
  requireAddress hon := h.requireAddress (h'.requireAddress hon)
  soapVersion version hversion := h.soapVersion version (h'.soapVersion version hversion)
  requireSecurity hon := h.requireSecurity (h'.requireSecurity hon)
  requireSignatureCertificate hon :=
    h.requireSignatureCertificate (h'.requireSignatureCertificate hon)
  signatureAlgorithm algorithm halgorithm :=
    h.signatureAlgorithm algorithm (h'.signatureAlgorithm algorithm halgorithm)
  signatureDigest algorithm halgorithm :=
    h.signatureDigest algorithm (h'.signatureDigest algorithm halgorithm)
  encryptionAlgorithm algorithm halgorithm :=
    h.encryptionAlgorithm algorithm (h'.encryptionAlgorithm algorithm halgorithm)
  wssVersion version hversion := h.wssVersion version (h'.wssVersion version hversion)
  authorize := h.authorize.trans h'.authorize
  replyPattern pattern hpattern := h.replyPattern pattern (h'.replyPattern pattern hpattern)
  nonRepudiation := h.nonRepudiation.trans h'.nonRepudiation
  errorHandling := h.errorHandling.trans h'.errorHandling
  allowedServices := h.allowedServices.trans h'.allowedServices
  requiredProperties := List.Subset.trans h'.requiredProperties h.requiredProperties
  allowedPartyIdTypes := h.allowedPartyIdTypes.trans h'.allowedPartyIdTypes
  singlePartyId hon := h.singlePartyId (h'.singlePartyId hon)
  reception := h.reception.trans h'.reception

variable {strict lax : Profile}

/-- A protocol block that conforms to a profile conforms to every less strict one. -/
theorem protocolConforms (h : strict.AtLeastAsStrict lax) {protocol : Protocol}
    (hconforms : strict.ProtocolConforms protocol) : lax.ProtocolConforms protocol where
  addressGiven hnone := off_of_off h.requireAddress (hconforms.addressGiven hnone)
  addressStandard address haddress := by
    obtain hadvisory | ⟨scheme, hscheme, hallowed⟩ := hconforms.addressStandard address haddress
    · exact .inl (off_of_off h.schemeIsFatal hadvisory)
    · exact .inr ⟨scheme, hscheme, h.allowedSchemes.allowed hallowed⟩
  soapVersion version hversion := hconforms.soapVersion version (h.soapVersion version hversion)

/-- A service that is offered by a profile is offered by every less strict one. -/
theorem offersService (h : strict.AtLeastAsStrict lax) {service : String}
    (hoffers : strict.OffersService service) : lax.OffersService service := by
  have hallowed : strict.allowedServices = [] ∨ ∃ offered ∈ strict.allowedServices,
      service = offered := by
    simpa [OffersService] using hoffers
  simpa [OffersService] using h.allowedServices.allowed hallowed

/-- A security block that conforms to a profile conforms to every less strict one. -/
theorem securityConforms (h : strict.AtLeastAsStrict lax) {security : Security}
    (hconforms : strict.SecurityConforms security) : lax.SecurityConforms security where
  certificate hrequired := hconforms.certificate (h.requireSignatureCertificate hrequired)
  signatureAlgorithm algorithm hmandated :=
    hconforms.signatureAlgorithm algorithm (h.signatureAlgorithm algorithm hmandated)
  signatureDigest algorithm hmandated :=
    hconforms.signatureDigest algorithm (h.signatureDigest algorithm hmandated)
  encryptionAlgorithm algorithm hmandated :=
    hconforms.encryptionAlgorithm algorithm (h.encryptionAlgorithm algorithm hmandated)
  strength := hconforms.strength
  wssVersion version hmandated := hconforms.wssVersion version (h.wssVersion version hmandated)
  authorize := h.authorize.metBy hconforms.authorize
  nonRepudiation := h.nonRepudiation.metBy hconforms.nonRepudiation
  replyPattern pattern hmandated :=
    hconforms.replyPattern pattern (h.replyPattern pattern hmandated)

/-- A leg that conforms to a profile conforms to every less strict one. -/
theorem legConforms (h : strict.AtLeastAsStrict lax) {leg : Leg}
    (hconforms : strict.LegConforms leg) : lax.LegConforms leg where
  protocol := by
    obtain ⟨protocol, hprotocol, hblock⟩ := hconforms.protocol
    exact ⟨protocol, hprotocol, h.protocolConforms hblock⟩
  service business hbusiness service hservice :=
    h.offersService (hconforms.service business hbusiness service hservice)
  securityGiven hnone := off_of_off h.requireSecurity (hconforms.securityGiven hnone)
  security block hblock := h.securityConforms (hconforms.security block hblock)
  errorHandlingGiven hnone :=
    off_of_off h.errorHandling.required (hconforms.errorHandlingGiven hnone)
  errorHandling block hblock := h.errorHandling.metBy (hconforms.errorHandling block hblock)

/-- A mode that conforms to a profile conforms to every less strict one. -/
theorem conforms (h : strict.AtLeastAsStrict lax) {mode : ProcessingMode}
    (hconforms : strict.Conforms mode) : lax.Conforms mode where
  pattern := h.allowedPatterns hconforms.pattern
  binding := h.allowedBindings hconforms.binding
  bindingFits := hconforms.bindingFits
  leg1 := hconforms.leg1
  leg2 := hconforms.leg2
  legs leg hleg := h.legConforms (hconforms.legs leg hleg)
  receptionGiven hnone := off_of_off h.reception.required (hconforms.receptionGiven hnone)
  reception awareness hawareness := h.reception.metBy (hconforms.reception awareness hawareness)

/-- One side of a message that conforms to a profile conforms to every less strict one. -/
theorem sideConforms (h : strict.AtLeastAsStrict lax) {block : PartyBlock}
    (hconforms : strict.SideConforms block) : lax.SideConforms block where
  single hsingle := hconforms.single (h.singlePartyId hsingle)
  typed := by
    obtain hany | ⟨hsome, hsubset⟩ := h.allowedPartyIdTypes
    · exact .inl hany
    · refine .inr fun partyId hpartyId => ?_
      obtain ⟨idType, htype, hlisted⟩ := hconforms.typed.resolve_left hsome partyId hpartyId
      exact ⟨idType, htype, hsubset hlisted⟩

/-- A user message that conforms to a profile conforms to every less strict one. -/
theorem userMessageConforms (h : strict.AtLeastAsStrict lax) {message : UserMessage}
    (hconforms : strict.UserMessageConforms message) : lax.UserMessageConforms message where
  identified := hconforms.identified
  parties := by
    obtain ⟨info, hinfo, ⟨sender, hsender, hsends⟩, receiver, hreceiver, hreceives⟩ :=
      hconforms.parties
    exact ⟨info, hinfo, ⟨sender, hsender, h.sideConforms hsends⟩, receiver, hreceiver,
      h.sideConforms hreceives⟩
  properties name hname := hconforms.properties name (h.requiredProperties hname)
  service collaboration hcollaboration service hservice :=
    h.offersService (hconforms.service collaboration hcollaboration service hservice)

/-- A signal that conforms to a profile conforms to every less strict one. -/
theorem signalConforms (h : strict.AtLeastAsStrict lax) {signal : Signal}
    (hconforms : strict.SignalConforms signal) : lax.SignalConforms signal := by
  cases signal with
  | receipt nonRepudiation =>
    intro hrequired
    have hnonRepudiation := h.nonRepudiation
    rw [hrequired] at hnonRepudiation
    exact hconforms hnonRepudiation
  | error code => exact hconforms
  | pullRequest channel =>
    obtain ⟨binding, hbinding, hpull⟩ := hconforms
    exact ⟨binding, h.allowedBindings hbinding, hpull⟩

/-- A signal message that conforms to a profile conforms to every less strict one. -/
theorem signalMessageConforms (h : strict.AtLeastAsStrict lax) {message : SignalMessage}
    (hconforms : strict.SignalMessageConforms message) : lax.SignalMessageConforms message where
  identified := hconforms.identified
  signal := by
    obtain ⟨signal, hsignal, hkind⟩ := hconforms.signal
    exact ⟨signal, hsignal, h.signalConforms hkind⟩

end AtLeastAsStrict

/-- The profile of the Peppol network is at least as strict as that of eDelivery. -/
theorem peppol_atLeastAsStrict_cef : peppol.AtLeastAsStrict cef := by
  constructor <;> decide

/-- Every built-in profile is at least as strict as the generic one. -/
theorem builtin_atLeastAsStrict_generic {id : ProfileId} {profile : Profile}
    (h : builtin? id = some profile) : profile.AtLeastAsStrict generic := by
  have hcef : cef.AtLeastAsStrict generic := by constructor <;> decide
  have hbdew : bdew.AtLeastAsStrict generic := by constructor <;> decide
  have hall : ∀ profile ∈ builtins, profile.AtLeastAsStrict generic := by
    simp only [builtins, List.forall_mem_cons]
    exact ⟨peppol_atLeastAsStrict_cef.trans hcef, hbdew, hcef, .refl generic,
      List.forall_mem_nil _⟩
  exact hall profile (mem_builtins_of_builtin? h)

/-- A profile lets a mode pass when it finds no error on it, and a message when it finds nothing. -/
def Passes (profile : Profile) : Subject → Prop
  | .mode mode => profile.Accepts mode
  | .userMessage message => profile.checkUserMessage message = []
  | .signalMessage message => profile.checkSignalMessage message = []

/-- What passes a profile passes every profile that it is at least as strict as. -/
theorem AtLeastAsStrict.passes {strict lax : Profile} (h : strict.AtLeastAsStrict lax)
    {subject : Subject} (hpasses : strict.Passes subject) : lax.Passes subject := by
  cases subject with
  | mode mode =>
    rw [Passes, accepts_iff_conforms] at hpasses ⊢
    exact h.conforms hpasses
  | userMessage message =>
    rw [Passes, checkUserMessage_eq_nil_iff] at hpasses ⊢
    exact h.userMessageConforms hpasses
  | signalMessage message =>
    rw [Passes, checkSignalMessage_eq_nil_iff] at hpasses ⊢
    exact h.signalMessageConforms hpasses

/-- Conformance is monotone in strictness: modes, user messages and signal messages that pass a
profile pass every profile that it is at least as strict as. So whatever passes the profile of the
Peppol network passes that of eDelivery, and whatever passes any built-in profile passes the generic
one. -/
theorem passes_of_stricter :
    (∀ strict lax : Profile, strict.AtLeastAsStrict lax →
      ∀ subject, strict.Passes subject → lax.Passes subject) ∧
      (∀ subject, peppol.Passes subject → cef.Passes subject) ∧
      ∀ id profile, builtin? id = some profile →
        ∀ subject, profile.Passes subject → generic.Passes subject := by
  refine ⟨?general, ?peppol, ?builtin⟩
  case general =>
    intro strict lax h subject hpasses
    exact h.passes hpasses
  case peppol =>
    intro subject hpasses
    exact peppol_atLeastAsStrict_cef.passes hpasses
  case builtin =>
    intro id profile hbuiltin subject hpasses
    exact (builtin_atLeastAsStrict_generic hbuiltin).passes hpasses

end Profile

end Ebms
