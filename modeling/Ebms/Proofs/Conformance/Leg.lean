import Ebms.Proofs.Conformance.Rules.Leg
import Ebms.Proofs.Findings
import Ebms.Proofs.Scheme

/-!
# When a leg meets a profile

What a profile asks of a leg, said without the checks: conditions on the blocks that are there and
on the blocks that may be missing. Each check is then a rule, or a row of rules, about these
conditions, so a leg is not refused exactly when it conforms.

Only the rule about the scheme of an address may advise instead of refusing, so a leg can conform
and still have something found on it; every other rule refuses.
-/

namespace Ebms

open Findings (OfRule hasErrors hasErrors_append marks)

/-- A flag meets a requirement when it is decided as far as the requirement decides it. -/
def Requirement.MetBy : Requirement → Flag → Prop
  | .unchecked, _ => True
  | .defined, flag => flag ≠ .undefined
  | .equals value, flag => flag = .set value

/-- Every flag of an error handling block meets its own requirement. -/
structure ErrorHandlingRules.MetBy (rules : ErrorHandlingRules) (handling : ErrorHandling) :
    Prop where
  reportAsResponse : rules.reportAsResponse.MetBy handling.reportAsResponse
  notifyConsumer : rules.notifyConsumer.MetBy handling.notifyConsumer
  notifyProducer : rules.notifyProducer.MetBy handling.notifyProducer
  notifyDeliveryFailures : rules.notifyDeliveryFailures.MetBy handling.notifyDeliveryFailures

namespace Profile

/-- An address has a scheme, and where the profile lists schemes it is one of them, whatever the
case of its letters. -/
def StandardAddress (profile : Profile) (address : String) : Prop :=
  ∃ scheme, HasScheme address scheme ∧
    (profile.allowedSchemes = [] ∨
      ∃ allowed ∈ profile.allowedSchemes, Text.lower allowed = Text.lower scheme)

/-- Where the profile lists services, a service is one of them. -/
def OffersService (profile : Profile) (service : String) : Prop :=
  profile.allowedServices = [] ∨ service ∈ profile.allowedServices

/-- What a profile asks of a protocol block. -/
structure ProtocolConforms (profile : Profile) (protocol : Protocol) : Prop where
  /-- An address is left out only where none is required. -/
  addressGiven : protocol.address = none → profile.requireAddress = false
  /-- An address that is given has a standard scheme, or schemes are not fatal. -/
  addressStandard : ∀ address ∈ protocol.address,
    profile.schemeIsFatal = false ∨ profile.StandardAddress address
  soapVersion : ∀ version ∈ profile.soapVersion, protocol.soapVersion = version

/-- What a profile asks of a security block. -/
structure SecurityConforms (profile : Profile) (security : Security) : Prop where
  certificate : profile.requireSignatureCertificate = true →
    ∃ text ∈ security.signatureCertificate, Text.isBlank text = false
  signatureAlgorithm : ∀ algorithm ∈ profile.signatureAlgorithm,
    security.signatureAlgorithm = some algorithm
  signatureDigest : ∀ algorithm ∈ profile.signatureDigest, security.signatureDigest = some algorithm
  encryptionAlgorithm : ∀ algorithm ∈ profile.encryptionAlgorithm,
    security.encryptionAlgorithm = some algorithm
  /-- The keys of the block's own algorithm are as long as the block itself asks for. -/
  strength : ∀ algorithm ∈ security.encryptionAlgorithm, ∀ minimum ∈ security.minimumStrength,
    minimum ≤ algorithm.keyBits
  /-- A version that is given is the mandated one; it may be left out. -/
  wssVersion : ∀ version ∈ profile.wssVersion, ∀ given ∈ security.wssVersion, given = version
  authorize : profile.authorize.MetBy security.authorize
  nonRepudiation : profile.nonRepudiation.MetBy security.nonRepudiation
  /-- The way back is the mandated one wherever receipts are sent. -/
  replyPattern : ∀ pattern ∈ profile.replyPattern, security.sendReceipt = .set true →
    security.replyPattern = some pattern

/-- What a profile asks of a leg. -/
structure LegConforms (profile : Profile) (leg : Leg) : Prop where
  protocol : ∃ protocol ∈ leg.protocol, profile.ProtocolConforms protocol
  service : ∀ business ∈ leg.business, ∀ service ∈ business.service, profile.OffersService service
  securityGiven : leg.security = none → profile.requireSecurity = false
  security : ∀ security ∈ leg.security, profile.SecurityConforms security
  errorHandlingGiven : leg.errorHandling = none → profile.errorHandling.required = false
  errorHandling : ∀ handling ∈ leg.errorHandling, profile.errorHandling.MetBy handling

end Profile

/-- The check of a flag is the rule that the flag meets the requirement. -/
theorem Requirement.check_ofRule (requirement : Requirement) (field lead name : String)
    (flag : Flag) :
    OfRule .error field (requirement.MetBy flag) (requirement.check field lead name flag) := by
  cases requirement with
  | unchecked => exact .kept trivial
  | defined =>
    cases flag with
    | undefined => exact .broken (fun h => h rfl) _ _
    | set value => exact .kept Flag.noConfusion
  | equals value =>
    cases flag with
    | undefined => exact .broken Flag.noConfusion _ _
    | set actual =>
      refine (OfRule.ofUnless _ _).congr ?_
      exact ⟨fun h => h ▸ rfl, fun h => (Flag.set.inj h).symm⟩

/-- The check of an algorithm is the rule that a mandated one is given. -/
theorem checkAlgorithm_ofRule {α : Type} [DecidableEq α] [Spelled α] (field subject : String)
    (mandated actual : Option α) :
    OfRule .error field (∀ algorithm ∈ mandated, actual = some algorithm)
      (checkAlgorithm field subject mandated actual) := by
  cases mandated with
  | none => exact .kept nofun
  | some wanted =>
    cases actual with
    | none => exact .broken (fun h => nomatch h wanted rfl) _ _
    | some found =>
      refine (OfRule.ofUnless _ _).congr ?_
      simp

namespace Profile

/-- The schemes that are allowed are the standard ones. -/
theorem allowsScheme_iff (profile : Profile) (scheme : String) :
    profile.allowsScheme scheme = true ↔ profile.allowedSchemes = [] ∨
      ∃ allowed ∈ profile.allowedSchemes, Text.lower allowed = Text.lower scheme := by
  simp [allowsScheme, Text.equalsIgnoringCase]

/-- The services that are allowed are those that the profile offers. -/
theorem allowsService_iff (profile : Profile) (service : String) :
    profile.allowsService service = true ↔ profile.OffersService service := by
  simp [allowsService, OffersService]

/-- An address is standard exactly when the scheme that is found in it is allowed. -/
theorem standardAddress_iff (profile : Profile) (protocol : Protocol) {address : String}
    (haddress : protocol.address = some address) :
    profile.StandardAddress address ↔
      ∃ scheme, protocol.scheme? = some scheme ∧ profile.allowsScheme scheme = true := by
  simp only [StandardAddress, allowsScheme_iff, Protocol.scheme?_eq_some_iff, haddress,
    Option.some.injEq, exists_eq_left']

/-- Whether an address is standard can be decided by looking for its scheme. -/
instance (profile : Profile) (address : String) : Decidable (profile.StandardAddress address) :=
  decidable_of_iff ((Protocol.mk address default).scheme?.any profile.allowsScheme = true) <| by
    rw [profile.standardAddress_iff ⟨address, default⟩ rfl, Option.any_eq_true]

/-- A missing address refuses, and so does a scheme where schemes are fatal. -/
def addressSeverity (profile : Profile) (protocol : Protocol) : Severity :=
  if protocol.address = none ∨ profile.schemeIsFatal = true then .error else .warning

/-- A finding on the scheme of a given address is as severe as the profile has it. -/
theorem schemeFinding_eq (profile : Profile) (field message : String) {protocol : Protocol}
    {address : String} (haddress : protocol.address = some address) :
    ∃ category, profile.schemeFinding field message =
      ⟨profile.addressSeverity protocol, category, field, message⟩ := by
  cases hfatal : profile.schemeIsFatal with
  | true => exact ⟨.valueMismatch, by simp [schemeFinding, addressSeverity, hfatal, Finding.error]⟩
  | false =>
    exact ⟨.advisory, by simp [schemeFinding, addressSeverity, hfatal, haddress, Finding.warning]⟩

/-- The check of an address is the rule that it is given where it has to be and standard where it
is given. -/
theorem checkAddress_ofRule (profile : Profile) (number : Nat) (protocol : Protocol) :
    OfRule (profile.addressSeverity protocol) (legField number "protocol.address")
      ((protocol.address = none → profile.requireAddress = false) ∧
        ∀ address ∈ protocol.address, profile.StandardAddress address)
      (profile.checkAddress number protocol) := by
  unfold checkAddress
  cases haddress : protocol.address with
  | none =>
    have hseverity : profile.addressSeverity protocol = .error := if_pos (.inl haddress)
    rw [hseverity]
    refine (OfRule.ofWhen _ _).congr ?_
    simp
  | some address =>
    have hstandard := profile.standardAddress_iff protocol haddress
    have hfinding (message : String) :=
      profile.schemeFinding_eq (legField number "protocol.address") message haddress
    cases hscheme : protocol.scheme? with
    | none =>
      obtain ⟨category, hcategory⟩ :=
        hfinding (legLabel number ++ " address has no recognisable AddressProtocol: " ++ address)
      simp only [hcategory]
      refine .broken (fun h => ?_) _ _
      obtain ⟨scheme, hsome, -⟩ := hstandard.mp (h.2 address rfl)
      rw [hscheme] at hsome
      cases hsome
    | some scheme =>
      obtain ⟨category, hcategory⟩ :=
        hfinding (legLabel number ++ " uses non-standard AddressProtocol: " ++ scheme)
      simp only [hcategory]
      refine (OfRule.ofUnless _ _).congr ?_
      simp [hstandard, hscheme]

/-- An address that is given leaves a mark exactly if it is not standard. -/
theorem marks_checkAddress (profile : Profile) (number : Nat) {protocol : Protocol}
    {address : String} (haddress : protocol.address = some address) :
    marks (profile.checkAddress number protocol) =
      if profile.StandardAddress address then []
      else [(if profile.schemeIsFatal then .error else .warning,
        legField number "protocol.address")] := by
  have hrule := profile.checkAddress_ofRule number protocol
  have hseverity : profile.addressSeverity protocol =
      if profile.schemeIsFatal then .error else .warning := by
    simp [addressSeverity, haddress]
  rw [hseverity] at hrule
  refine (hrule.congr ?_).marks_eq
  simp [haddress]

/-- The check of a SOAP version is the rule that it is the mandated one. -/
theorem checkSoapVersion_ofRule (profile : Profile) (number : Nat) (protocol : Protocol) :
    OfRule .error (legField number "protocol.soap_version")
      (∀ version ∈ profile.soapVersion, protocol.soapVersion = version)
      (profile.checkSoapVersion number protocol) := by
  unfold checkSoapVersion
  cases profile.soapVersion with
  | none => exact .kept nofun
  | some wanted =>
    refine (OfRule.ofUnless _ _).congr ?_
    simp [eq_comm]

/-- The check of a business block is the rule that its service is offered. -/
theorem checkBusiness_ofRule (profile : Profile) (number : Nat) (leg : Leg) :
    OfRule .error (legField number "business_information.service")
      (∀ business ∈ leg.business, ∀ service ∈ business.service, profile.OffersService service)
      (profile.checkBusiness number leg) := by
  unfold checkBusiness
  split
  · rename_i hnone
    refine .kept fun business hbusiness service hservice => ?_
    rw [Option.mem_def] at hbusiness hservice
    simp [hbusiness, hservice] at hnone
  · rename_i service hsome
    refine (OfRule.ofUnless _ _).congr ?_
    obtain ⟨business, hbusiness, hservice⟩ := Option.bind_eq_some_iff.mp hsome
    simp [hbusiness, hservice, allowsService_iff]

/-- The check of a certificate is the rule that it is not blank where one is required. -/
theorem checkCertificate_ofRule (profile : Profile) (number : Nat) (security : Security) :
    OfRule .error (legField number "security.x509_signature_certificate")
      (profile.requireSignatureCertificate = true →
        ∃ text ∈ security.signatureCertificate, Text.isBlank text = false)
      (profile.checkCertificate number security) := by
  refine (OfRule.ofWhen _ _).congr ?_
  cases security.signatureCertificate with
  | none => simp
  | some text => simp

/-- The check of the minimum strength is the rule that the block's own algorithm reaches it. -/
theorem checkStrength_ofRule (number : Nat) (security : Security) :
    OfRule .error (legField number "security.x509_encryption_minimum_strength")
      (∀ algorithm ∈ security.encryptionAlgorithm, ∀ minimum ∈ security.minimumStrength,
        minimum ≤ algorithm.keyBits)
      (checkStrength number security) := by
  unfold checkStrength
  split
  · rename_i algorithm minimum halgorithm hminimum
    refine (OfRule.ofWhen _ _).congr ?_
    simp [halgorithm, hminimum]
  · rename_i hnone
    refine .kept fun algorithm halgorithm minimum hminimum => ?_
    exact absurd hminimum (hnone algorithm minimum halgorithm)

/-- The check of a WS-Security version is the rule that a given one is the mandated one. -/
theorem checkWssVersion_ofRule (profile : Profile) (number : Nat) (security : Security) :
    OfRule .error (legField number "security.wss_version")
      (∀ version ∈ profile.wssVersion, ∀ given ∈ security.wssVersion, given = version)
      (profile.checkWssVersion number security) := by
  unfold checkWssVersion
  split
  · rename_i wanted actual hwanted hactual
    refine (OfRule.ofUnless _ _).congr ?_
    simp [hwanted, hactual]
  · rename_i hnone
    exact .kept fun version hversion given hgiven => absurd hgiven (hnone version given hversion)

/-- The check of the way back is the rule that receipts come back as mandated where they are
sent. -/
theorem checkReplyPattern_ofRule (profile : Profile) (number : Nat) (security : Security) :
    OfRule .error (legField number "security.send_receipt_reply_pattern")
      (∀ pattern ∈ profile.replyPattern, security.sendReceipt = .set true →
        security.replyPattern = some pattern)
      (profile.checkReplyPattern number security) := by
  unfold checkReplyPattern
  cases profile.replyPattern with
  | none => exact .kept nofun
  | some wanted =>
    refine (OfRule.ofWhen _ _).congr ?_
    simp

/-- The protocol block of a leg is not refused exactly when it is there and conforms. -/
theorem hasErrors_checkProtocol (profile : Profile) (number : Nat) (leg : Leg) :
    hasErrors (profile.checkProtocol number leg) = false ↔
      ∃ protocol ∈ leg.protocol, profile.ProtocolConforms protocol := by
  unfold checkProtocol
  cases leg.protocol with
  | none => simp
  | some protocol =>
    have hseverity : profile.addressSeverity protocol = .warning ↔
        protocol.address ≠ none ∧ profile.schemeIsFatal = false := by
      simp [addressSeverity]
    simp only [hasErrors_append, Bool.or_eq_false_iff, Option.mem_some_iff, exists_eq_left',
      (profile.checkAddress_ofRule number protocol).hasErrors_iff,
      (profile.checkSoapVersion_ofRule number protocol).hasErrors_error_iff, hseverity]
    constructor
    · intro h
      obtain ⟨hkept | hadvisory, hsoap⟩ := h
      · exact ⟨hkept.1, fun address haddress => .inr (hkept.2 address haddress), hsoap⟩
      · exact ⟨fun hnone => absurd hnone hadvisory.1, fun _ _ => .inl hadvisory.2, hsoap⟩
    · intro h
      refine ⟨?_, h.soapVersion⟩
      cases haddress : protocol.address with
      | none => exact .inl ⟨fun _ => h.addressGiven haddress, nofun⟩
      | some address =>
        obtain hadvisory | hstandard := h.addressStandard address haddress
        · exact .inr ⟨nofun, hadvisory⟩
        · refine .inl ⟨nofun, ?_⟩
          intro given hgiven
          cases hgiven
          exact hstandard

/-- A security block is not refused exactly when it conforms. -/
theorem hasErrors_checkSecurityBlock (profile : Profile) (number : Nat) (security : Security) :
    hasErrors (profile.checkSecurityBlock number security) = false ↔
      profile.SecurityConforms security := by
  rw [checkSecurityBlock]
  simp only [hasErrors_append, Bool.or_eq_false_iff,
    (profile.checkCertificate_ofRule number security).hasErrors_error_iff,
    (checkAlgorithm_ofRule _ _ _ _).hasErrors_error_iff,
    (checkStrength_ofRule number security).hasErrors_error_iff,
    (profile.checkWssVersion_ofRule number security).hasErrors_error_iff,
    (Requirement.check_ofRule _ _ _ _ _).hasErrors_error_iff,
    (profile.checkReplyPattern_ofRule number security).hasErrors_error_iff, and_assoc]
  constructor
  · intro h
    obtain ⟨hcertificate, hsignature, hdigest, hencryption, hstrength, hwss, hauthorize, hreceipts,
      hreply⟩ := h
    exact ⟨hcertificate, hsignature, hdigest, hencryption, hstrength, hwss, hauthorize, hreceipts,
      hreply⟩
  · intro h
    exact ⟨h.certificate, h.signatureAlgorithm, h.signatureDigest, h.encryptionAlgorithm,
      h.strength, h.wssVersion, h.authorize, h.nonRepudiation, h.replyPattern⟩

/-- The flags of an error handling block are not refused exactly when they meet their
requirements. -/
theorem hasErrors_checkErrorFlags (rules : ErrorHandlingRules) (number : Nat)
    (handling : ErrorHandling) :
    hasErrors (checkErrorFlags rules number handling) = false ↔ rules.MetBy handling := by
  rw [checkErrorFlags]
  simp only [hasErrors_append, Bool.or_eq_false_iff,
    (Requirement.check_ofRule _ _ _ _ _).hasErrors_error_iff, and_assoc]
  constructor
  · intro h
    obtain ⟨hresponse, hconsumer, hproducer, hdelivery⟩ := h
    exact ⟨hresponse, hconsumer, hproducer, hdelivery⟩
  · intro h
    exact ⟨h.reportAsResponse, h.notifyConsumer, h.notifyProducer, h.notifyDeliveryFailures⟩

/-- The security block of a leg is not refused exactly when it is there if it has to be and
conforms if it is there. -/
theorem hasErrors_checkSecurity (profile : Profile) (number : Nat) (leg : Leg) :
    hasErrors (profile.checkSecurity number leg) = false ↔
      (leg.security = none → profile.requireSecurity = false) ∧
        ∀ security ∈ leg.security, profile.SecurityConforms security := by
  unfold checkSecurity
  cases leg.security with
  | none => cases profile.requireSecurity <;> simp
  | some security => simpa using profile.hasErrors_checkSecurityBlock number security

/-- The error handling block of a leg is not refused exactly when it is there if it has to be and
its flags meet their requirements if it is there. -/
theorem hasErrors_checkErrorHandling (profile : Profile) (number : Nat) (leg : Leg) :
    hasErrors (profile.checkErrorHandling number leg) = false ↔
      (leg.errorHandling = none → profile.errorHandling.required = false) ∧
        ∀ handling ∈ leg.errorHandling, profile.errorHandling.MetBy handling := by
  unfold checkErrorHandling
  cases leg.errorHandling with
  | none => cases profile.errorHandling.required <;> simp
  | some handling => simpa using hasErrors_checkErrorFlags profile.errorHandling number handling

/-- A leg is not refused exactly when it conforms. -/
theorem hasErrors_checkLeg (profile : Profile) (number : Nat) (leg : Leg) :
    hasErrors (profile.checkLeg number leg) = false ↔ profile.LegConforms leg := by
  rw [checkLeg_eq]
  simp only [hasErrors_append, Bool.or_eq_false_iff, hasErrors_checkProtocol,
    hasErrors_checkSecurity, hasErrors_checkErrorHandling,
    (profile.checkBusiness_ofRule number leg).hasErrors_error_iff, and_assoc]
  constructor
  · intro h
    obtain ⟨hprotocol, hservice, hsecurityGiven, hsecurity, hhandlingGiven, hhandling⟩ := h
    exact ⟨hprotocol, hservice, hsecurityGiven, hsecurity, hhandlingGiven, hhandling⟩
  · intro h
    exact ⟨h.protocol, h.service, h.securityGiven, h.security, h.errorHandlingGiven,
      h.errorHandling⟩

end Profile

end Ebms
