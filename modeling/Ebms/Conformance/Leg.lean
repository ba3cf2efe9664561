import Ebms.Conformance.Flag

/-!
# Whether a leg meets a profile

Each block of a leg is checked on its own. A block that is missing is at most one finding, and what
would be in it is not looked at. Every finding carries the number of its leg, at the front of the
path and at the front of the message, and says nothing else that depends on the number.
-/

namespace Ebms

open LedgerCheck (enter note)

/-- The front of a message on a leg. -/
def legLabel (number : Nat) : String :=
  "Leg " ++ toString number

/-- The path of a part of a leg. -/
def legField (number : Nat) (path : String) : String :=
  "leg" ++ toString number ++ "." ++ path

/-- Checks an algorithm where one is mandated. -/
def enterAlgorithm {α : Type} [DecidableEq α] [Spelled α] (field subject : String)
    (mandated actual : Option α) : LedgerCheck := do
  match mandated, actual with
  | none, _ => pure ()
  | some wanted, none =>
      enter (.error .missingStructure field
        (subject ++ " is missing (expected '" ++ Spelled.text wanted ++ "')"))
  | some wanted, some found =>
      unless found = wanted do
        enter (.error .valueMismatch field
          (subject ++ " must be '" ++ Spelled.text wanted ++ "' instead of '" ++
            Spelled.text found ++ "'"))

namespace Profile

/-- Refuses for a scheme or advises about it, as the profile has it; advice is noted before it is
entered. -/
def advise (profile : Profile) (field message : String) : LedgerCheck := do
  if profile.schemeIsFatal then
    enter (.error .valueMismatch field message)
  else
    note (.advice profile.id.text field message)
    enter (.warning field message)

/-- Checks the address of a leg. -/
def enterAddress (profile : Profile) (number : Nat) (protocol : Protocol) : LedgerCheck := do
  let label := legLabel number
  let field := legField number "protocol.address"
  match protocol.address, protocol.scheme? with
  | none, _ =>
      if profile.requireAddress then
        enter (.error .missingStructure field (label ++ ": Protocol address is missing"))
  | some address, none =>
      profile.advise field (label ++ " address has no recognisable AddressProtocol: " ++ address)
  | some _, some scheme =>
      unless profile.allowsScheme scheme do
        profile.advise field (label ++ " uses non-standard AddressProtocol: " ++ scheme)

/-- Checks the SOAP version of a leg. -/
def enterSoapVersion (profile : Profile) (number : Nat) (protocol : Protocol) : LedgerCheck := do
  match profile.soapVersion with
  | none => pure ()
  | some wanted =>
      unless wanted = protocol.soapVersion do
        enter (.error .valueMismatch (legField number "protocol.soap_version")
          (legLabel number ++ ": SOAP version " ++ protocol.soapVersion.identifier ++
            " is not allowed, only " ++ wanted.identifier ++ " is supported"))

/-- Checks the protocol block of a leg. -/
def enterProtocol (profile : Profile) (number : Nat) (leg : Leg) : LedgerCheck := do
  match leg.protocol with
  | none =>
      enter (.error .missingStructure (legField number "protocol")
        (legLabel number ++ ": Protocol is missing"))
  | some protocol =>
      profile.enterAddress number protocol
      profile.enterSoapVersion number protocol

/-- Checks the business block of a leg. -/
def enterBusiness (profile : Profile) (number : Nat) (leg : Leg) : LedgerCheck := do
  match leg.business.bind BusinessInformation.service with
  | none => pure ()
  | some service =>
      unless profile.allowsService service do
        enter (.error .valueMismatch (legField number "business_information.service")
          (legLabel number ++ ": Service " ++ service ++ profile.notAllowed))

/-- Checks the signing certificate of a leg. -/
def enterCertificate (profile : Profile) (number : Nat) (security : Security) : LedgerCheck := do
  if profile.requireSignatureCertificate ∧ security.signatureCertificate.all Text.isBlank then
    enter (.error .missingStructure (legField number "security.x509_signature_certificate")
      (legLabel number ++ ": signature certificate is missing"))

/-- Checks the minimum strength of a leg; it is checked against the algorithm of the leg itself,
whatever the profile mandates. -/
def enterStrength (number : Nat) (security : Security) : LedgerCheck := do
  match security.encryptionAlgorithm, security.minimumStrength with
  | some algorithm, some minimum =>
      if algorithm.keyBits < minimum then
        enter (.error .valueMismatch (legField number "security.x509_encryption_minimum_strength")
          (legLabel number ++ ": encryption algorithm '" ++ algorithm.identifier ++ "' has " ++
            toString algorithm.keyBits.toNat ++ " bit keys, below the minimum strength of " ++
            toString minimum.toNat))
  | _, _ => pure ()

/-- Checks the WS-Security version of a leg; a version that is not given is not looked at. -/
def enterWssVersion (profile : Profile) (number : Nat) (security : Security) : LedgerCheck := do
  match profile.wssVersion, security.wssVersion with
  | some wanted, some actual =>
      unless actual = wanted do
        enter (.error .valueMismatch (legField number "security.wss_version")
          (legLabel number ++ ": Wrong WSS Version " ++ actual.identifier ++ ", only " ++
            wanted.identifier ++ " is allowed"))
  | _, _ => pure ()

/-- Checks the way back of receipts, where receipts are sent. -/
def enterReplyPattern (profile : Profile) (number : Nat) (security : Security) :
    LedgerCheck := do
  match profile.replyPattern with
  | none => pure ()
  | some wanted =>
      if security.sendReceipt = .set true ∧ security.replyPattern ≠ some wanted then
        enter (.error .valueMismatch (legField number "security.send_receipt_reply_pattern")
          (legLabel number ++ ": Only " ++ wanted.word ++ " is allowed as pattern, found " ++
            (security.replyPattern.map ReplyPattern.word).getD "none"))

/-- Checks a security block. -/
def enterSecurityBlock (profile : Profile) (number : Nat) (security : Security) :
    LedgerCheck := do
  let label := legLabel number
  profile.enterCertificate number security
  enterAlgorithm (legField number "security.x509_signature_algorithm")
    (label ++ ": signature algorithm") profile.signatureAlgorithm security.signatureAlgorithm
  enterAlgorithm (legField number "security.x509_signature_hash_function")
    (label ++ ": signature hash function") profile.signatureDigest security.signatureDigest
  enterAlgorithm (legField number "security.x509_encryption_algorithm")
    (label ++ ": encryption algorithm") profile.encryptionAlgorithm security.encryptionAlgorithm
  enterStrength number security
  profile.enterWssVersion number security
  profile.authorize.enterFlag (legField number "security.pmode_authorize") (label ++ ": ")
    "PModeAuthorize" security.authorize
  profile.nonRepudiation.enterFlag (legField number "security.send_receipt_non_repudiation")
    (label ++ ": ") "SendReceiptNonRepudiation" security.nonRepudiation
  profile.enterReplyPattern number security

/-- Checks the security block of a leg. One that is missing is a finding only where a block is
required, and nothing else is looked at then. -/
def enterSecurity (profile : Profile) (number : Nat) (leg : Leg) : LedgerCheck := do
  match leg.security with
  | none =>
      if profile.requireSecurity then
        enter (.error .missingStructure (legField number "security")
          (legLabel number ++ ": Security is missing"))
  | some security => profile.enterSecurityBlock number security

/-- Checks the flags of an error handling block. -/
def enterErrorFlags (rules : ErrorHandlingRules) (number : Nat) (handling : ErrorHandling) :
    LedgerCheck := do
  let lead := legLabel number ++ ": "
  rules.reportAsResponse.enterFlag (legField number "error_handling.report_as_response") lead
    "ReportAsResponse" handling.reportAsResponse
  rules.notifyConsumer.enterFlag
    (legField number "error_handling.report_process_error_notify_consumer") lead
    "ReportProcessErrorNotifyConsumer" handling.notifyConsumer
  rules.notifyProducer.enterFlag
    (legField number "error_handling.report_process_error_notify_producer") lead
    "ReportProcessErrorNotifyProducer" handling.notifyProducer
  rules.notifyDeliveryFailures.enterFlag
    (legField number "error_handling.report_delivery_failures_notify_producer") lead
    "ReportDeliveryFailuresNotifyProducer" handling.notifyDeliveryFailures

/-- Checks the error handling block of a leg. -/
def enterErrorHandling (profile : Profile) (number : Nat) (leg : Leg) : LedgerCheck := do
  match leg.errorHandling with
  | none =>
      if profile.errorHandling.required then
        enter (.error .missingStructure (legField number "error_handling")
          (legLabel number ++ ": No ErrorHandling Parameter present but they are mandatory"))
  | some handling => enterErrorFlags profile.errorHandling number handling

/-- Checks a leg. -/
def enterLeg (profile : Profile) (number : Nat) (leg : Leg) : LedgerCheck := do
  profile.enterProtocol number leg
  profile.enterBusiness number leg
  profile.enterSecurity number leg
  profile.enterErrorHandling number leg

/-- What is found on a leg. -/
def checkLeg (profile : Profile) (number : Nat) (leg : Leg) : Findings :=
  (profile.enterLeg number leg).found

end Profile

end Ebms
