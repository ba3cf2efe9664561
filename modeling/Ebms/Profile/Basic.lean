import Ebms.Exchange
import Ebms.Flag
import Ebms.Identifier
import Ebms.Json.Record
import Ebms.Leg

/-!
# Profiles

A profile is a table of what an interoperability agreement mandates beyond the structure of a
processing mode. A mandate that is absent is not checked. An empty list of schemes, services,
properties or identifier types allows anything; an empty list of patterns or bindings allows none.
What a table in a document leaves out is taken from the profile that mandates nothing.
-/

namespace Ebms

open Json (Codec Record Mistake)

/-- What a profile asks of a flag. -/
inductive Requirement where
  /-- Nothing. -/
  | unchecked
  /-- Either value. -/
  | defined
  /-- One value. -/
  | equals (value : Bool)
  deriving DecidableEq, Repr, Inhabited

namespace Requirement

/-- The flag that meets a requirement, with a value for where either would do. -/
def flagOr (requirement : Requirement) (fallback : Bool) : Flag :=
  match requirement with
  | .equals value => .set value
  | .unchecked | .defined => .set fallback

/-- The names of the three requirements. -/
def names : List String :=
  ["unchecked", "defined", "equals"]

/-- A requirement read from its bare name; the value that is asked for cannot be left out. -/
def ofName : String → Except Mistake Requirement
  | "unchecked" => .ok .unchecked
  | "defined" => .ok .defined
  | "equals" => .error .wrongType
  | name => .error (.unknownName name names)

/-- A requirement is its name, or an object that names the value asked for. -/
def codec : Codec Requirement where
  encode
    | .unchecked => .str "unchecked"
    | .defined => .str "defined"
    | .equals value => .obj [("equals", .bool value)]
  decode :=
    Json.decodeAlternative names ofName fun name value =>
      if name = "equals" then (Codec.bool.decode value).map .equals
      else
        match value with
        | .scalar .null => ofName name
        | value => .error value.misfit

end Requirement

/-- What a profile asks of the error handling of every leg. -/
structure ErrorHandlingRules where
  required : Bool := false
  reportAsResponse : Requirement := .unchecked
  notifyConsumer : Requirement := .unchecked
  notifyProducer : Requirement := .unchecked
  notifyDeliveryFailures : Requirement := .unchecked
  deriving DecidableEq, Repr, Inhabited

namespace ErrorHandlingRules

/-- The block is required, with one requirement on every flag. -/
def uniform (requirement : Requirement) : ErrorHandlingRules :=
  ⟨true, requirement, requirement, requirement, requirement⟩

/-- The members of a table for error handling. -/
def record : Record (Bool × Requirement × Requirement × Requirement × Requirement × Unit) :=
  .member (.defaulted "required" .bool false) <|
  .member (.defaulted "report_as_response" Requirement.codec .unchecked) <|
  .member (.defaulted "report_process_error_notify_consumer" Requirement.codec .unchecked) <|
  .member (.defaulted "report_process_error_notify_producer" Requirement.codec .unchecked) <|
  .member (.defaulted "report_delivery_failures_notify_producer" Requirement.codec .unchecked)
  .done

/-- Tables for error handling are records. -/
def codec : Codec ErrorHandlingRules :=
  record.codec
    (fun r => (r.required, r.reportAsResponse, r.notifyConsumer, r.notifyProducer,
      r.notifyDeliveryFailures, ()))
    fun (required, reportAsResponse, notifyConsumer, notifyProducer, notifyDeliveryFailures, ()) =>
      ⟨required, reportAsResponse, notifyConsumer, notifyProducer, notifyDeliveryFailures⟩

end ErrorHandlingRules

/-- What a profile asks of reception awareness. Only the switches are constrained. -/
structure ReceptionRules where
  required : Bool := false
  enabled : Requirement := .unchecked
  retry : Requirement := .unchecked
  duplicateDetection : Requirement := .unchecked
  deriving DecidableEq, Repr, Inhabited

namespace ReceptionRules

/-- The members of a table for reception awareness. -/
def record : Record (Bool × Requirement × Requirement × Requirement × Unit) :=
  .member (.defaulted "required" .bool false) <|
  .member (.defaulted "enabled" Requirement.codec .unchecked) <|
  .member (.defaulted "retry" Requirement.codec .unchecked) <|
  .member (.defaulted "duplicate_detection" Requirement.codec .unchecked)
  .done

/-- Tables for reception awareness are records. -/
def codec : Codec ReceptionRules :=
  record.codec (fun r => (r.required, r.enabled, r.retry, r.duplicateDetection, ()))
    fun (required, enabled, retry, duplicateDetection, ()) =>
      ⟨required, enabled, retry, duplicateDetection⟩

end ReceptionRules

/-- Everything that one interoperability agreement mandates. -/
structure Profile where
  id : ProfileId := .generic
  /-- The name that stands in messages. -/
  displayName : String := "generic"
  allowedPatterns : List Pattern := [.oneWay, .twoWay]
  allowedBindings : List Binding := [.push, .pull, .sync, .pushPush, .pushPull, .pullPush]
  /-- The schemes that are standard, whatever their case. -/
  allowedSchemes : List String := ["http", "https"]
  /-- Another scheme, or none, refuses; otherwise it is only discouraged. -/
  schemeIsFatal : Bool := false
  requireAddress : Bool := false
  soapVersion : Option SoapVersion := none
  requireSecurity : Bool := false
  requireSignatureCertificate : Bool := false
  signatureAlgorithm : Option SignatureAlgorithm := none
  signatureDigest : Option DigestAlgorithm := none
  encryptionAlgorithm : Option EncryptionAlgorithm := none
  wssVersion : Option WssVersion := none
  authorize : Requirement := .unchecked
  /-- The only way back for receipts, where receipts are sent. -/
  replyPattern : Option ReplyPattern := none
  nonRepudiation : Requirement := .unchecked
  errorHandling : ErrorHandlingRules := {}
  allowedServices : List String := []
  requiredProperties : List String := []
  allowedPartyIdTypes : List String := []
  /-- Sender and receiver have exactly one identifier each. -/
  singlePartyId : Bool := false
  reception : ReceptionRules := {}
  deriving DecidableEq, Repr

namespace Profile

/-- The profile that mandates nothing. -/
def generic : Profile := {}

/-- The name of the profile at the end of a message. -/
def notAllowed (profile : Profile) : String :=
  " is not allowed by the " ++ profile.displayName ++ " profile"

/-- Whether a scheme is standard. -/
def allowsScheme (profile : Profile) (scheme : String) : Bool :=
  profile.allowedSchemes.isEmpty ||
    profile.allowedSchemes.any fun allowed => Text.equalsIgnoringCase allowed scheme

/-- Whether a service is among those of the profile. -/
def allowsService (profile : Profile) (service : String) : Bool :=
  profile.allowedServices.isEmpty || profile.allowedServices.contains service

/-- The members of a profile; one that is left out is that of the generic profile. -/
def record : Record (ProfileId × String × List Pattern × List Binding × List String × Bool × Bool ×
    Option SoapVersion × Bool × Bool × Option SignatureAlgorithm × Option DigestAlgorithm ×
    Option EncryptionAlgorithm × Option WssVersion × Requirement × Option ReplyPattern ×
    Requirement × ErrorHandlingRules × List String × List String × List String × Bool ×
    ReceptionRules × Unit) :=
  .member (.defaulted "id" ProfileId.codec generic.id) <|
  .member (.defaulted "display_name" .text generic.displayName) <|
  .member (.defaulted "allowed_meps" Codec.named.list generic.allowedPatterns) <|
  .member (.defaulted "allowed_bindings" Codec.named.list generic.allowedBindings) <|
  .member (.defaulted "allowed_address_schemes" Codec.text.list generic.allowedSchemes) <|
  .member (.defaulted "address_scheme_is_fatal" .bool generic.schemeIsFatal) <|
  .member (.defaulted "require_address" .bool generic.requireAddress) <|
  .member (.nullable "soap_version" .named) <|
  .member (.defaulted "require_security" .bool generic.requireSecurity) <|
  .member (.defaulted "require_signature_certificate" .bool generic.requireSignatureCertificate) <|
  .member (.nullable "signature_algorithm" .named) <|
  .member (.nullable "signature_digest_algorithm" .named) <|
  .member (.nullable "encryption_algorithm" .named) <|
  .member (.nullable "wss_version" .named) <|
  .member (.defaulted "pmode_authorize" Requirement.codec generic.authorize) <|
  .member (.nullable "receipt_reply_pattern" .named) <|
  .member (.defaulted "send_receipt_non_repudiation" Requirement.codec generic.nonRepudiation) <|
  .member (.defaulted "error_handling" ErrorHandlingRules.codec generic.errorHandling) <|
  .member (.defaulted "allowed_services" Codec.text.list generic.allowedServices) <|
  .member (.defaulted "required_message_properties" Codec.text.list generic.requiredProperties) <|
  .member (.defaulted "allowed_party_id_types" Codec.text.list generic.allowedPartyIdTypes) <|
  .member (.defaulted "single_party_id" .bool generic.singlePartyId) <|
  .member (.defaulted "reception_awareness" ReceptionRules.codec generic.reception)
  .done

/-- Profiles are records. -/
def codec : Codec Profile :=
  record.codec
    (fun p => (p.id, p.displayName, p.allowedPatterns, p.allowedBindings, p.allowedSchemes,
      p.schemeIsFatal, p.requireAddress, p.soapVersion, p.requireSecurity,
      p.requireSignatureCertificate, p.signatureAlgorithm, p.signatureDigest,
      p.encryptionAlgorithm, p.wssVersion, p.authorize, p.replyPattern, p.nonRepudiation,
      p.errorHandling, p.allowedServices, p.requiredProperties, p.allowedPartyIdTypes,
      p.singlePartyId, p.reception, ()))
    fun (id, displayName, allowedPatterns, allowedBindings, allowedSchemes, schemeIsFatal,
        requireAddress, soapVersion, requireSecurity, requireSignatureCertificate,
        signatureAlgorithm, signatureDigest, encryptionAlgorithm, wssVersion, authorize,
        replyPattern, nonRepudiation, errorHandling, allowedServices, requiredProperties,
        allowedPartyIdTypes, singlePartyId, reception, ()) =>
      ⟨id, displayName, allowedPatterns, allowedBindings, allowedSchemes, schemeIsFatal,
        requireAddress, soapVersion, requireSecurity, requireSignatureCertificate,
        signatureAlgorithm, signatureDigest, encryptionAlgorithm, wssVersion, authorize,
        replyPattern, nonRepudiation, errorHandling, allowedServices, requiredProperties,
        allowedPartyIdTypes, singlePartyId, reception⟩

end Profile

end Ebms
