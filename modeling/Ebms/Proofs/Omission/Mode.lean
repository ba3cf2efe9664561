import Ebms.Proofs.Json.Omission
import Ebms.Proofs.RoundTrip

/-!
# Documents of processing modes with members left out

The document of a processing mode may leave out everything but the identifiers, the roles, the
parties, the pattern and the binding. What is left out is read as absent, as an empty list, as
undefined, as zero or as SOAP 1.2, one member at a time: a block that is there and leaves out a
member is not taken from any block that has usual values.
-/

namespace Ebms

open Json (Omission)

/-- The members that the document of a processing mode cannot leave out. -/
def ProcessingMode.needed : List String :=
  ["id", "initiator", "responder", "mep", "mep_binding", "id_value", "role"]

section Blocks

variable (omission : Omission ProcessingMode.needed)

/-- The party without what is left out. -/
def Party.omitting (party : Party) : Party :=
  { party with idType := omission.held "id_type" none party.idType }

/-- The protocol block without what is left out. -/
def Protocol.omitting (protocol : Protocol) : Protocol where
  address := omission.held "address" none protocol.address
  soapVersion := omission.held "soap_version" .soap12 protocol.soapVersion

/-- The business block without what is left out. -/
def BusinessInformation.omitting (business : BusinessInformation) : BusinessInformation where
  service := omission.held "service" none business.service
  serviceType := omission.held "service_type" none business.serviceType
  action := omission.held "action" none business.action
  payloadLimit := omission.held "payload_profile_max_kb" none business.payloadLimit
  channel := omission.held "mpc_id" none business.channel

/-- The error handling block without what is left out. -/
def ErrorHandling.omitting (handling : ErrorHandling) : ErrorHandling where
  senderErrorsTo := omission.held "report_sender_errors_to" none handling.senderErrorsTo
  receiverErrorsTo := omission.held "report_receiver_errors_to" none handling.receiverErrorsTo
  reportAsResponse := omission.held "report_as_response" .undefined handling.reportAsResponse
  notifyConsumer :=
    omission.held "report_process_error_notify_consumer" .undefined handling.notifyConsumer
  notifyProducer :=
    omission.held "report_process_error_notify_producer" .undefined handling.notifyProducer
  notifyDeliveryFailures :=
    omission.held "report_delivery_failures_notify_producer" .undefined
      handling.notifyDeliveryFailures

/-- The reliability block without what is left out. -/
def Reliability.omitting (reliability : Reliability) : Reliability where
  atLeastOnce := omission.held "at_least_once_contract" .undefined reliability.atLeastOnce
  ackOnDelivery :=
    omission.held "at_least_once_ack_on_delivery" .undefined reliability.ackOnDelivery
  atMostOnce := omission.held "at_most_once_contract" .undefined reliability.atMostOnce
  inOrder := omission.held "in_order_contract" .undefined reliability.inOrder
  correlation := omission.held "correlation" [] reliability.correlation

/-- The security block without what is left out. -/
def Security.omitting (security : Security) : Security where
  wssVersion := omission.held "wss_version" none security.wssVersion
  signatureCertificate :=
    omission.held "x509_signature_certificate" none security.signatureCertificate
  signatureAlgorithm := omission.held "x509_signature_algorithm" none security.signatureAlgorithm
  signatureDigest := omission.held "x509_signature_hash_function" none security.signatureDigest
  encryptionCertificate :=
    omission.held "x509_encryption_certificate" none security.encryptionCertificate
  encryptionAlgorithm := omission.held "x509_encryption_algorithm" none security.encryptionAlgorithm
  minimumStrength := omission.held "x509_encryption_minimum_strength" none security.minimumStrength
  authorize := omission.held "pmode_authorize" .undefined security.authorize
  sendReceipt := omission.held "send_receipt" .undefined security.sendReceipt
  nonRepudiation := omission.held "send_receipt_non_repudiation" .undefined security.nonRepudiation
  replyPattern := omission.held "send_receipt_reply_pattern" none security.replyPattern

/-- The leg without what is left out of it and of its blocks. -/
def Leg.omitting (leg : Leg) : Leg where
  protocol :=
    omission.held "protocol" none (leg.protocol.map (Protocol.omitting (omission.below "protocol")))
  business :=
    omission.held "business_information" none
      (leg.business.map (BusinessInformation.omitting (omission.below "business_information")))
  errorHandling :=
    omission.held "error_handling" none
      (leg.errorHandling.map (ErrorHandling.omitting (omission.below "error_handling")))
  reliability :=
    omission.held "reliability" none
      (leg.reliability.map (Reliability.omitting (omission.below "reliability")))
  security :=
    omission.held "security" none (leg.security.map (Security.omitting (omission.below "security")))

/-- The payload block without what is left out. -/
def PayloadService.omitting (service : PayloadService) : PayloadService where
  compression := omission.held "compression_type" none service.compression

/-- The reception awareness block without what is left out. -/
def ReceptionAwareness.omitting (awareness : ReceptionAwareness) : ReceptionAwareness where
  enabled := omission.held "enabled" .undefined awareness.enabled
  retry := omission.held "retry" .undefined awareness.retry
  maxRetries := omission.held "max_retries" 0 awareness.maxRetries
  retryInterval := omission.held "retry_interval" (.ofMilliseconds 0) awareness.retryInterval
  duplicateDetection :=
    omission.held "duplicate_detection" .undefined awareness.duplicateDetection

/-- The processing mode without what is left out of it and of its parts. -/
def ProcessingMode.omitting (mode : ProcessingMode) : ProcessingMode :=
  { mode with
    initiator := mode.initiator.omitting (omission.below "initiator")
    responder := mode.responder.omitting (omission.below "responder")
    agreement := omission.held "agreement" none mode.agreement
    leg1 := omission.held "leg1" none (mode.leg1.map (Leg.omitting (omission.below "leg1")))
    leg2 := omission.held "leg2" none (mode.leg2.map (Leg.omitting (omission.below "leg2")))
    payloadService :=
      omission.held "payload_service" none
        (mode.payloadService.map (PayloadService.omitting (omission.below "payload_service")))
    receptionAwareness :=
      omission.held "reception_awareness" none
        (mode.receptionAwareness.map
          (ReceptionAwareness.omitting (omission.below "reception_awareness"))) }

end Blocks

/-- Flags tolerate omission. -/
theorem Flag.codec_tolerates :
    Flag.codec.Tolerates fun (_ : Omission ProcessingMode.needed) => id :=
  .plain Flag.codec_restores nofun

/-- Parties tolerate omission. -/
theorem Party.codec_tolerates : Party.codec.Tolerates Party.omitting :=
  Json.Record.Tolerates.codec
    (.member (.optional .text) <|
      .member (.required .text (by decide)) <|
      .member (.required .text (by decide))
      .done)
    (by decide) fun _ _ => rfl

/-- Protocol blocks tolerate omission. -/
theorem Protocol.codec_tolerates : Protocol.codec.Tolerates Protocol.omitting :=
  Json.Record.Tolerates.codec
    (.member (.optional .text) <|
      .member (.defaulted (.named fun version => by cases version <;> rfl))
      .done)
    (by decide) fun _ _ => rfl

/-- Business blocks tolerate omission. -/
theorem BusinessInformation.codec_tolerates :
    BusinessInformation.codec.Tolerates BusinessInformation.omitting :=
  Json.Record.Tolerates.codec
    (.member (.optional .text) <|
      .member (.optional .text) <|
      .member (.optional .text) <|
      .member (.optional .word64) <|
      .member (.optional .text)
      .done)
    (by decide) fun _ _ => rfl

/-- Address lists tolerate omission. -/
theorem AddressList.codec_tolerates :
    AddressList.codec.Tolerates fun (_ : Omission ProcessingMode.needed) => id :=
  .plain AddressList.codec_restores nofun

/-- Error handling blocks tolerate omission. -/
theorem ErrorHandling.codec_tolerates : ErrorHandling.codec.Tolerates ErrorHandling.omitting :=
  Json.Record.Tolerates.codec
    (.member (.optional AddressList.codec_tolerates) <|
      .member (.optional AddressList.codec_tolerates) <|
      .member (.defaulted Flag.codec_tolerates) <|
      .member (.defaulted Flag.codec_tolerates) <|
      .member (.defaulted Flag.codec_tolerates) <|
      .member (.defaulted Flag.codec_tolerates)
      .done)
    (by decide) fun _ _ => rfl

/-- Reliability blocks tolerate omission. -/
theorem Reliability.codec_tolerates : Reliability.codec.Tolerates Reliability.omitting :=
  Json.Record.Tolerates.codec
    (.member (.defaulted Flag.codec_tolerates) <|
      .member (.defaulted Flag.codec_tolerates) <|
      .member (.defaulted Flag.codec_tolerates) <|
      .member (.defaulted Flag.codec_tolerates) <|
      .member (.listed (.items .text))
      .done)
    (by decide) fun _ _ => rfl

/-- Security blocks tolerate omission. -/
theorem Security.codec_tolerates : Security.codec.Tolerates Security.omitting :=
  Json.Record.Tolerates.codec
    (.member (.optional (.named fun version => by cases version <;> rfl)) <|
      .member (.optional .text) <|
      .member (.optional (.named fun algorithm => by cases algorithm <;> rfl)) <|
      .member (.optional (.named fun algorithm => by cases algorithm <;> rfl)) <|
      .member (.optional .text) <|
      .member (.optional (.named fun algorithm => by cases algorithm <;> rfl)) <|
      .member (.optional .word32) <|
      .member (.defaulted Flag.codec_tolerates) <|
      .member (.defaulted Flag.codec_tolerates) <|
      .member (.defaulted Flag.codec_tolerates) <|
      .member (.optional (.named fun pattern => by cases pattern <;> rfl))
      .done)
    (by decide) fun _ _ => rfl

/-- Legs tolerate omission. -/
theorem Leg.codec_tolerates : Leg.codec.Tolerates Leg.omitting :=
  Json.Record.Tolerates.codec
    (.member (.optionalMap Protocol.codec_tolerates) <|
      .member (.optionalMap BusinessInformation.codec_tolerates) <|
      .member (.optionalMap ErrorHandling.codec_tolerates) <|
      .member (.optionalMap Reliability.codec_tolerates) <|
      .member (.optionalMap Security.codec_tolerates)
      .done)
    (by decide) fun _ _ => rfl

/-- Payload blocks tolerate omission. -/
theorem PayloadService.codec_tolerates : PayloadService.codec.Tolerates PayloadService.omitting :=
  Json.Record.Tolerates.codec
    (.member (.optional (.named fun compression => by cases compression; rfl))
      .done)
    (by decide) fun _ _ => rfl

/-- Reception awareness blocks tolerate omission, with the time between retries rounded. -/
theorem ReceptionAwareness.codec_tolerates :
    ReceptionAwareness.codec.Tolerates fun omission (awareness : ReceptionAwareness) =>
      awareness.settled.omitting omission :=
  Json.Record.Tolerates.codec
    (.member (.defaulted Flag.codec_tolerates) <|
      .member (.defaulted Flag.codec_tolerates) <|
      .member (.defaulted .word32) <|
      .member (.defaulted (.plain Interval.codec_restores nofun)) <|
      .member (.defaulted Flag.codec_tolerates)
      .done)
    (by decide) fun _ _ => rfl

namespace ProcessingMode

/-- Processing modes tolerate omission in their settled form. -/
theorem codec_tolerates :
    codec.Tolerates fun omission (mode : ProcessingMode) => mode.settled.omitting omission :=
  Json.Record.Tolerates.codec
    (.member (.required (.plain ModeId.codec_restores nofun) (by decide)) <|
      .member (.required Party.codec_tolerates (by decide)) <|
      .member (.required Party.codec_tolerates (by decide)) <|
      .member (.optional .text) <|
      .member (.required (.named fun pattern => by cases pattern <;> rfl)
        (by decide)) <|
      .member (.required (.named fun binding => by cases binding <;> rfl)
        (by decide)) <|
      .member (.nullableMap Leg.codec_tolerates) <|
      .member (.optionalMap Leg.codec_tolerates) <|
      .member (.optionalMap PayloadService.codec_tolerates) <|
      .member (.optionalMap ReceptionAwareness.codec_tolerates)
      .done)
    (by decide) fun omission mode => by
      obtain ⟨_, _, _, _, _, _, _, _, _, _ | awareness⟩ := mode <;> rfl

end ProcessingMode

end Ebms
