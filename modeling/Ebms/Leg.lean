import Ebms.Algorithm
import Ebms.Flag
import Ebms.Json.Record

/-!
# Legs of an exchange

A leg is one direction of an exchange. Its blocks say where messages go, what business they are
about, how errors are reported, how reliably messages are delivered and how they are secured. Every
block may be missing, so that a profile can say exactly what is missing; within a block, an absent
value has a meaning of its own.
-/

namespace Ebms

open Json (Codec Record)

/-- The action of a connectivity test. -/
def defaultAction : String :=
  "http://docs.oasis-open.org/ebxml-msg/ebms/v3.0/ns/core/200704/test"

/-- The service of a connectivity test. -/
def defaultService : String :=
  "http://docs.oasis-open.org/ebxml-msg/ebms/v3.0/ns/core/200704/service"

/-- The message partition channel that is used unless another is named. -/
def defaultChannel : String :=
  "http://docs.oasis-open.org/ebxml-msg/ebms/v3.0/ns/core/200704/defaultMPC"

/-- The endpoint of a leg. Without an address it is found out when a message is sent. -/
structure Protocol where
  address : Option String := none
  soapVersion : SoapVersion := default
  deriving DecidableEq, Repr

namespace Protocol

/-- Whether a character may stand in a scheme behind its first letter. -/
def isSchemeChar (c : Char) : Bool :=
  Text.isLetter c || Text.isDigit c || c == '+' || c == '-' || c == '.'

/-- The scheme at the front of an address: a letter and then letters, digits, `+`, `-` and `.`, up
to the first colon. -/
def schemeChars? (cs : List Char) : Option (List Char) :=
  let scheme := cs.takeWhile (· != ':')
  if scheme.length < cs.length ∧ scheme.head?.any Text.isLetter ∧ scheme.all isSchemeChar then
    some scheme
  else none

/-- The scheme of the address, white space around it aside. -/
def scheme? (protocol : Protocol) : Option String := do
  let address ← protocol.address
  let scheme ← schemeChars? (Text.trimChars address.toList)
  pure (String.ofList scheme)

/-- The members of a protocol block. -/
def record : Record (Option String × SoapVersion × Unit) :=
  .member (.optional "address" .text) <|
  .member (.defaulted "soap_version" .named default)
  .done

/-- Protocol blocks are records. -/
def codec : Codec Protocol :=
  record.codec (fun p => (p.address, p.soapVersion, ()))
    fun (address, soapVersion, ()) => ⟨address, soapVersion⟩

end Protocol

/-- The business that the messages of a leg are about. -/
structure BusinessInformation where
  service : Option String := none
  serviceType : Option String := none
  action : Option String := none
  /-- The largest payload in units of 1024 bytes, if there is a limit. -/
  payloadLimit : Option UInt64 := none
  /-- The message partition channel. -/
  channel : Option String := none
  deriving DecidableEq, Repr

namespace BusinessInformation

/-- The members of a business block. -/
def record : Record (Option String × Option String × Option String × Option UInt64 ×
    Option String × Unit) :=
  .member (.optional "service" .text) <|
  .member (.optional "service_type" .text) <|
  .member (.optional "action" .text) <|
  .member (.optional "payload_profile_max_kb" .word64) <|
  .member (.optional "mpc_id" .text)
  .done

/-- Business blocks are records. -/
def codec : Codec BusinessInformation :=
  record.codec (fun b => (b.service, b.serviceType, b.action, b.payloadLimit, b.channel, ()))
    fun (service, serviceType, action, payloadLimit, channel, ()) =>
      ⟨service, serviceType, action, payloadLimit, channel⟩

end BusinessInformation

/-- The addresses to which errors are reported, in order. -/
structure AddressList where
  addresses : List String := []
  deriving DecidableEq, Repr

namespace AddressList

/-- The list of some texts without white space around them; blank ones are dropped. -/
def ofTexts (texts : List String) : AddressList :=
  ⟨(texts.filter fun text => !Text.isBlank text).map Text.trim⟩

/-- Address lists are arrays of texts. -/
def codec : Codec AddressList where
  encode list := Codec.text.list.encode list.addresses
  decode reading := (Codec.text.list.decode reading).map AddressList.mk

end AddressList

/-- How the errors of a leg are reported. Without a list nothing is reported out of band. -/
structure ErrorHandling where
  senderErrorsTo : Option AddressList := none
  receiverErrorsTo : Option AddressList := none
  reportAsResponse : Flag := .undefined
  notifyConsumer : Flag := .undefined
  notifyProducer : Flag := .undefined
  notifyDeliveryFailures : Flag := .undefined
  deriving DecidableEq, Repr

namespace ErrorHandling

/-- The members of an error handling block. -/
def record : Record (Option AddressList × Option AddressList × Flag × Flag × Flag × Flag × Unit) :=
  .member (.optional "report_sender_errors_to" AddressList.codec) <|
  .member (.optional "report_receiver_errors_to" AddressList.codec) <|
  .member (.defaulted "report_as_response" Flag.codec .undefined) <|
  .member (.defaulted "report_process_error_notify_consumer" Flag.codec .undefined) <|
  .member (.defaulted "report_process_error_notify_producer" Flag.codec .undefined) <|
  .member (.defaulted "report_delivery_failures_notify_producer" Flag.codec .undefined)
  .done

/-- Error handling blocks are records. -/
def codec : Codec ErrorHandling :=
  record.codec
    (fun h => (h.senderErrorsTo, h.receiverErrorsTo, h.reportAsResponse, h.notifyConsumer,
      h.notifyProducer, h.notifyDeliveryFailures, ()))
    fun (senderErrorsTo, receiverErrorsTo, reportAsResponse, notifyConsumer, notifyProducer,
        notifyDeliveryFailures, ()) =>
      ⟨senderErrorsTo, receiverErrorsTo, reportAsResponse, notifyConsumer, notifyProducer,
        notifyDeliveryFailures⟩

end ErrorHandling

/-- How reliably the messages of a leg are delivered. -/
structure Reliability where
  atLeastOnce : Flag := .undefined
  /-- An acknowledgement waits for the delivery to the consumer. -/
  ackOnDelivery : Flag := .undefined
  atMostOnce : Flag := .undefined
  inOrder : Flag := .undefined
  /-- The header expressions by which messages are grouped. -/
  correlation : List String := []
  deriving DecidableEq, Repr

namespace Reliability

/-- The members of a reliability block. -/
def record : Record (Flag × Flag × Flag × Flag × List String × Unit) :=
  .member (.defaulted "at_least_once_contract" Flag.codec .undefined) <|
  .member (.defaulted "at_least_once_ack_on_delivery" Flag.codec .undefined) <|
  .member (.defaulted "at_most_once_contract" Flag.codec .undefined) <|
  .member (.defaulted "in_order_contract" Flag.codec .undefined) <|
  .member (.listed "correlation" .text)
  .done

/-- Reliability blocks are records. -/
def codec : Codec Reliability :=
  record.codec
    (fun r => (r.atLeastOnce, r.ackOnDelivery, r.atMostOnce, r.inOrder, r.correlation, ()))
    fun (atLeastOnce, ackOnDelivery, atMostOnce, inOrder, correlation, ()) =>
      ⟨atLeastOnce, ackOnDelivery, atMostOnce, inOrder, correlation⟩

end Reliability

/-- The way in which a receipt comes back: on the connection of the message, or on another one. -/
inductive ReplyPattern where
  | response
  | callback
  deriving DecidableEq, Repr

namespace ReplyPattern

/-- The word for a way back. -/
def word : ReplyPattern → String
  | .response => "response"
  | .callback => "callback"

/-- Words are read without regard to case. -/
instance : Spelled ReplyPattern where
  all := [.response, .callback]
  name := word
  kind := "receipt reply pattern"
  text := word
  spells pattern s := Text.lower s == pattern.word

end ReplyPattern

/-- How the messages of a leg are secured. A certificate that is absent is found out when a message
is sent. -/
structure Security where
  wssVersion : Option WssVersion := none
  signatureCertificate : Option String := none
  signatureAlgorithm : Option SignatureAlgorithm := none
  signatureDigest : Option DigestAlgorithm := none
  encryptionCertificate : Option String := none
  encryptionAlgorithm : Option EncryptionAlgorithm := none
  /-- The least number of bits in an encryption key. -/
  minimumStrength : Option UInt32 := none
  authorize : Flag := .undefined
  sendReceipt : Flag := .undefined
  nonRepudiation : Flag := .undefined
  replyPattern : Option ReplyPattern := none
  deriving DecidableEq, Repr

namespace Security

/-- The members of a security block. -/
def record : Record (Option WssVersion × Option String × Option SignatureAlgorithm ×
    Option DigestAlgorithm × Option String × Option EncryptionAlgorithm × Option UInt32 × Flag ×
    Flag × Flag × Option ReplyPattern × Unit) :=
  .member (.optional "wss_version" .named) <|
  .member (.optional "x509_signature_certificate" .text) <|
  .member (.optional "x509_signature_algorithm" .named) <|
  .member (.optional "x509_signature_hash_function" .named) <|
  .member (.optional "x509_encryption_certificate" .text) <|
  .member (.optional "x509_encryption_algorithm" .named) <|
  .member (.optional "x509_encryption_minimum_strength" .word32) <|
  .member (.defaulted "pmode_authorize" Flag.codec .undefined) <|
  .member (.defaulted "send_receipt" Flag.codec .undefined) <|
  .member (.defaulted "send_receipt_non_repudiation" Flag.codec .undefined) <|
  .member (.optional "send_receipt_reply_pattern" .named)
  .done

/-- Security blocks are records. -/
def codec : Codec Security :=
  record.codec
    (fun s => (s.wssVersion, s.signatureCertificate, s.signatureAlgorithm, s.signatureDigest,
      s.encryptionCertificate, s.encryptionAlgorithm, s.minimumStrength, s.authorize,
      s.sendReceipt, s.nonRepudiation, s.replyPattern, ()))
    fun (wssVersion, signatureCertificate, signatureAlgorithm, signatureDigest,
        encryptionCertificate, encryptionAlgorithm, minimumStrength, authorize, sendReceipt,
        nonRepudiation, replyPattern, ()) =>
      ⟨wssVersion, signatureCertificate, signatureAlgorithm, signatureDigest,
        encryptionCertificate, encryptionAlgorithm, minimumStrength, authorize, sendReceipt,
        nonRepudiation, replyPattern⟩

end Security

/-- One direction of an exchange. -/
structure Leg where
  protocol : Option Protocol := none
  business : Option BusinessInformation := none
  errorHandling : Option ErrorHandling := none
  reliability : Option Reliability := none
  security : Option Security := none
  deriving DecidableEq, Repr

namespace Leg

/-- The members of a leg. -/
def record : Record (Option Protocol × Option BusinessInformation × Option ErrorHandling ×
    Option Reliability × Option Security × Unit) :=
  .member (.optional "protocol" Protocol.codec) <|
  .member (.optional "business_information" BusinessInformation.codec) <|
  .member (.optional "error_handling" ErrorHandling.codec) <|
  .member (.optional "reliability" Reliability.codec) <|
  .member (.optional "security" Security.codec)
  .done

/-- Legs are records. -/
def codec : Codec Leg :=
  record.codec (fun l => (l.protocol, l.business, l.errorHandling, l.reliability, l.security, ()))
    fun (protocol, business, errorHandling, reliability, security, ()) =>
      ⟨protocol, business, errorHandling, reliability, security⟩

end Leg

end Ebms
