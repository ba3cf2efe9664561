import Ebms.Profile.Basic
import Ebms.Proofs.Json.Omission

/-!
# Documents of profiles overlay the generic profile

The document of a profile may leave out any of its members, and any of those of its two tables. What
is read is the profile with those parts taken from the profile that mandates nothing, and within a
table from the table that asks for nothing. The value that a requirement asks for is part of the
requirement and cannot be left out.
-/

namespace Ebms

open Json (LeftOf Omission)

/-- The members that the document of a profile cannot leave out. -/
def Profile.needed : List String :=
  ["equals"]

/-- Profile identifiers are restored. -/
theorem ProfileId.codec_restores : ProfileId.codec.Restores id where
  decode_encode id := by
    refine Json.bind_eq_ok.mpr ⟨id.text, rfl, ?_⟩
    rw [id.ofText_text]
    rfl
  settled _ _ _ := rfl
  encode_ne_null _ := Json.noConfusion

namespace Requirement

/-- Requirements are restored. -/
theorem codec_restores : codec.Restores id where
  decode_encode
    | .unchecked | .defined | .equals _ => rfl
  settled _ _ _ := rfl
  encode_ne_null
    | .unchecked | .defined | .equals _ => Json.noConfusion

/-- Requirements tolerate omission, because the value asked for is never left out. -/
theorem codec_tolerates : codec.Tolerates fun (_ : Omission Profile.needed) => id := by
  refine .ofRestores codec_restores fun omission requirement left hleft => ?_
  cases requirement with
  | unchecked | defined => exact hleft.eq_of_plain fun _ => Json.noConfusion
  | equals value => exact hleft.eq_of_single List.mem_cons_self fun _ => Json.noConfusion

end Requirement

/-- The table with what is left out reset to a table that asks for nothing. -/
def ErrorHandlingRules.omitting (omission : Omission Profile.needed) (rules : ErrorHandlingRules) :
    ErrorHandlingRules where
  required := omission.held "required" false rules.required
  reportAsResponse := omission.held "report_as_response" .unchecked rules.reportAsResponse
  notifyConsumer :=
    omission.held "report_process_error_notify_consumer" .unchecked rules.notifyConsumer
  notifyProducer :=
    omission.held "report_process_error_notify_producer" .unchecked rules.notifyProducer
  notifyDeliveryFailures :=
    omission.held "report_delivery_failures_notify_producer" .unchecked
      rules.notifyDeliveryFailures

/-- Tables for error handling tolerate omission. -/
theorem ErrorHandlingRules.codec_tolerates :
    ErrorHandlingRules.codec.Tolerates ErrorHandlingRules.omitting :=
  Json.Record.Tolerates.codec
    (.member (.defaulted .bool) <|
      .member (.defaulted Requirement.codec_tolerates) <|
      .member (.defaulted Requirement.codec_tolerates) <|
      .member (.defaulted Requirement.codec_tolerates) <|
      .member (.defaulted Requirement.codec_tolerates)
      .done)
    (by decide) fun _ _ => rfl

/-- The table with what is left out reset to a table that asks for nothing. -/
def ReceptionRules.omitting (omission : Omission Profile.needed) (rules : ReceptionRules) :
    ReceptionRules where
  required := omission.held "required" false rules.required
  enabled := omission.held "enabled" .unchecked rules.enabled
  retry := omission.held "retry" .unchecked rules.retry
  duplicateDetection := omission.held "duplicate_detection" .unchecked rules.duplicateDetection

/-- Tables for reception awareness tolerate omission. -/
theorem ReceptionRules.codec_tolerates : ReceptionRules.codec.Tolerates ReceptionRules.omitting :=
  Json.Record.Tolerates.codec
    (.member (.defaulted .bool) <|
      .member (.defaulted Requirement.codec_tolerates) <|
      .member (.defaulted Requirement.codec_tolerates) <|
      .member (.defaulted Requirement.codec_tolerates)
      .done)
    (by decide) fun _ _ => rfl

namespace Profile

/-- The profile with what is left out taken from the generic profile, and what is left out of its
tables from tables that ask for nothing. -/
def omitting (omission : Omission needed) (profile : Profile) : Profile where
  id := omission.held "id" generic.id profile.id
  displayName := omission.held "display_name" generic.displayName profile.displayName
  allowedPatterns := omission.held "allowed_meps" generic.allowedPatterns profile.allowedPatterns
  allowedBindings :=
    omission.held "allowed_bindings" generic.allowedBindings profile.allowedBindings
  allowedSchemes :=
    omission.held "allowed_address_schemes" generic.allowedSchemes profile.allowedSchemes
  schemeIsFatal :=
    omission.held "address_scheme_is_fatal" generic.schemeIsFatal profile.schemeIsFatal
  requireAddress := omission.held "require_address" generic.requireAddress profile.requireAddress
  soapVersion := omission.held "soap_version" generic.soapVersion profile.soapVersion
  requireSecurity :=
    omission.held "require_security" generic.requireSecurity profile.requireSecurity
  requireSignatureCertificate :=
    omission.held "require_signature_certificate" generic.requireSignatureCertificate
      profile.requireSignatureCertificate
  signatureAlgorithm :=
    omission.held "signature_algorithm" generic.signatureAlgorithm profile.signatureAlgorithm
  signatureDigest :=
    omission.held "signature_digest_algorithm" generic.signatureDigest profile.signatureDigest
  encryptionAlgorithm :=
    omission.held "encryption_algorithm" generic.encryptionAlgorithm profile.encryptionAlgorithm
  wssVersion := omission.held "wss_version" generic.wssVersion profile.wssVersion
  authorize := omission.held "pmode_authorize" generic.authorize profile.authorize
  replyPattern := omission.held "receipt_reply_pattern" generic.replyPattern profile.replyPattern
  nonRepudiation :=
    omission.held "send_receipt_non_repudiation" generic.nonRepudiation profile.nonRepudiation
  errorHandling :=
    omission.held "error_handling" generic.errorHandling
      (profile.errorHandling.omitting (omission.below "error_handling"))
  allowedServices :=
    omission.held "allowed_services" generic.allowedServices profile.allowedServices
  requiredProperties :=
    omission.held "required_message_properties" generic.requiredProperties
      profile.requiredProperties
  allowedPartyIdTypes :=
    omission.held "allowed_party_id_types" generic.allowedPartyIdTypes profile.allowedPartyIdTypes
  singlePartyId := omission.held "single_party_id" generic.singlePartyId profile.singlePartyId
  reception :=
    omission.held "reception_awareness" generic.reception
      (profile.reception.omitting (omission.below "reception_awareness"))

/-- Profiles tolerate omission. -/
theorem codec_tolerates : codec.Tolerates omitting :=
  Json.Record.Tolerates.codec
    (.member (.defaulted (.plain ProfileId.codec_restores nofun)) <|
      .member (.defaulted .text) <|
      .member (.defaulted (.items (.named fun p => by cases p <;> rfl))) <|
      .member (.defaulted (.items (.named fun b => by cases b <;> rfl))) <|
      .member (.defaulted (.items .text)) <|
      .member (.defaulted .bool) <|
      .member (.defaulted .bool) <|
      .member (.nullable (.named fun v => by cases v <;> rfl)) <|
      .member (.defaulted .bool) <|
      .member (.defaulted .bool) <|
      .member (.nullable (.named fun a => by cases a <;> rfl)) <|
      .member (.nullable (.named fun a => by cases a <;> rfl)) <|
      .member (.nullable (.named fun a => by cases a <;> rfl)) <|
      .member (.nullable (.named fun v => by cases v <;> rfl)) <|
      .member (.defaulted Requirement.codec_tolerates) <|
      .member (.nullable (.named fun p => by cases p <;> rfl)) <|
      .member (.defaulted Requirement.codec_tolerates) <|
      .member (.defaulted ErrorHandlingRules.codec_tolerates) <|
      .member (.defaulted (.items .text)) <|
      .member (.defaulted (.items .text)) <|
      .member (.defaulted (.items .text)) <|
      .member (.defaulted .bool) <|
      .member (.defaulted ReceptionRules.codec_tolerates)
      .done)
    (by decide) fun _ _ => rfl

/-- Both texts of a profile, on one line and with one item a line, are read as the profile. If its
document leaves out some members, of the profile or of its tables, both texts of what is left are
read as the profile with the left out members taken from the generic profile, and from tables that
ask for nothing. -/
theorem overlays_generic (profile : Profile) :
    (codec.ofText (codec.toText profile) = .ok profile ∧
      codec.ofText (codec.encode profile).indented = .ok profile) ∧
    ∀ (omission : Omission needed) (document : Json),
      LeftOf omission (codec.encode profile) document →
        codec.ofText document.compact = .ok (profile.omitting omission) ∧
          codec.ofText document.indented = .ok (profile.omitting omission) := by
  refine ⟨?whole, ?partly⟩
  case whole =>
    -- the whole document is what is left of it where nothing is left out
    exact codec_tolerates.ofText_left (Json.leftOf_nothing (codec.encode profile))
  case partly =>
    intro omission document hleft
    exact codec_tolerates.ofText_left hleft

/-- A document that leaves out the allowed schemes of a strict profile, and in its table for error
handling what is asked of responses, is read as the profile with the generic schemes and with
nothing asked of responses. -/
theorem overlays_generic_strict :
    ∃ (profile : Profile) (omission : Omission needed) (document : Json),
      LeftOf omission (codec.encode profile) document ∧
      profile.allowedSchemes = ["ftp"] ∧
      profile.errorHandling = .uniform (.equals true) ∧
      codec.ofText document.compact =
        .ok { profile with
              allowedSchemes := ["http", "https"]
              errorHandling :=
                { profile.errorHandling with reportAsResponse := .unchecked } } := by
  let profile : Profile :=
    { schemeIsFatal := true
      allowedSchemes := ["ftp"]
      requireSecurity := true
      errorHandling := .uniform (.equals true) }
  let omission : Omission needed :=
    .ofPaths [["allowed_address_schemes"], ["error_handling", "report_as_response"]] (by decide)
  have hleft := Json.leftOf_left omission (codec.encode profile)
  exact ⟨profile, omission, _, hleft, rfl, rfl, ((overlays_generic profile).2 omission _ hleft).1⟩

end Profile

end Ebms
