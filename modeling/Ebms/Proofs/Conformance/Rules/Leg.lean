import Ebms.Conformance.Leg
import Ebms.Proofs.Conformance.Adds
import Ebms.Proofs.Findings

/-!
# What the rules for a leg add

Each rule for a leg enters a list of findings that is said here in full and depends on nothing but
the profile, the number and the leg. Only advice on the address is noted. The findings on a leg are
those of its four blocks in order.
-/

namespace Ebms

open LedgerCheck (adds_note enters_enter enters_pure)

/-- What a flag leaves to be found at some place. -/
def Requirement.check (requirement : Requirement) (field lead name : String) (flag : Flag) :
    Findings :=
  match requirement, flag with
  | .unchecked, _ => []
  | _, .undefined =>
      [.error .mandatoryUnset field (lead ++ name ++ " is a mandatory PMode parameter")]
  | .defined, .set _ => []
  | .equals wanted, .set actual =>
      if wanted = actual then []
      else
        [.error .valueMismatch field
          (lead ++ "PMode " ++ name ++ " has to be " ++ titleWord wanted ++ " (expected " ++
            (Flag.set wanted).word ++ ", found " ++ (Flag.set actual).word ++ ")")]

/-- A flag is checked by entering what it leaves to be found. -/
theorem Requirement.enterFlag_enters (requirement : Requirement) (field lead name : String)
    (flag : Flag) :
    (requirement.enterFlag field lead name flag).Enters
      (requirement.check field lead name flag) := by
  cases requirement with
  | unchecked => exact enters_pure
  | defined =>
    cases flag with
    | undefined => exact enters_enter _
    | set actual => exact enters_pure
  | equals wanted =>
    cases flag with
    | undefined => exact enters_enter _
    | set actual => exact (enters_enter _).whenNot

/-- What an algorithm leaves to be found where one is mandated. -/
def checkAlgorithm {α : Type} [DecidableEq α] [Spelled α] (field subject : String)
    (mandated actual : Option α) : Findings :=
  match mandated, actual with
  | none, _ => []
  | some wanted, none =>
      [.error .missingStructure field
        (subject ++ " is missing (expected '" ++ Spelled.text wanted ++ "')")]
  | some wanted, some found =>
      if found = wanted then []
      else
        [.error .valueMismatch field
          (subject ++ " must be '" ++ Spelled.text wanted ++ "' instead of '" ++
            Spelled.text found ++ "'")]

/-- An algorithm is checked by entering what it leaves to be found. -/
theorem enterAlgorithm_enters {α : Type} [DecidableEq α] [Spelled α] (field subject : String)
    (mandated actual : Option α) :
    (enterAlgorithm field subject mandated actual).Enters
      (checkAlgorithm field subject mandated actual) := by
  cases mandated with
  | none => exact enters_pure
  | some wanted =>
    cases actual with
    | none => exact enters_enter _
    | some found => exact (enters_enter _).whenNot

namespace Profile

variable (profile : Profile)

/-- The events of some findings: one for each warning, in the order of the findings. -/
def adviceEvents (profile : Profile) (findings : Findings) : List Event :=
  findings.warnings.map fun warning => .advice profile.id.text warning.field warning.message

/-- A finding on a scheme: an error where schemes are fatal, and advice otherwise. -/
def schemeFinding (profile : Profile) (field message : String) : Finding :=
  if profile.schemeIsFatal then .error .valueMismatch field message else .warning field message

/-- A refusal or a piece of advice on a scheme is added, the advice with its event. -/
theorem advise_adds (field message : String) :
    (profile.advise field message).Adds [profile.schemeFinding field message]
      (profile.adviceEvents [profile.schemeFinding field message]) := by
  unfold advise schemeFinding
  split
  · exact enters_enter _
  · exact (adds_note _).seq (enters_enter _)

/-- What the address of a leg leaves to be found. -/
def checkAddress (profile : Profile) (number : Nat) (protocol : Protocol) : Findings :=
  let label := legLabel number
  let field := legField number "protocol.address"
  match protocol.address, protocol.scheme? with
  | none, _ =>
      if profile.requireAddress then
        [.error .missingStructure field (label ++ ": Protocol address is missing")]
      else []
  | some address, none =>
      [profile.schemeFinding field
        (label ++ " address has no recognisable AddressProtocol: " ++ address)]
  | some _, some scheme =>
      if profile.allowsScheme scheme then []
      else [profile.schemeFinding field (label ++ " uses non-standard AddressProtocol: " ++ scheme)]

/-- An address is checked by adding what it leaves to be found, the advice with its event. -/
theorem enterAddress_adds (number : Nat) (protocol : Protocol) :
    (profile.enterAddress number protocol).Adds (profile.checkAddress number protocol)
      (profile.adviceEvents (profile.checkAddress number protocol)) := by
  unfold enterAddress checkAddress
  cases protocol.address with
  | none =>
    cases profile.requireAddress with
    | true => exact enters_enter _
    | false => exact enters_pure
  | some address =>
    cases protocol.scheme? with
    | none => exact profile.advise_adds _ _
    | some scheme =>
      dsimp only
      split
      · exact enters_pure
      · exact profile.advise_adds _ _

/-- What the SOAP version of a leg leaves to be found. -/
def checkSoapVersion (profile : Profile) (number : Nat) (protocol : Protocol) : Findings :=
  match profile.soapVersion with
  | none => []
  | some wanted =>
      if wanted = protocol.soapVersion then []
      else
        [.error .valueMismatch (legField number "protocol.soap_version")
          (legLabel number ++ ": SOAP version " ++ protocol.soapVersion.identifier ++
            " is not allowed, only " ++ wanted.identifier ++ " is supported")]

/-- A SOAP version is checked by entering what it leaves to be found. -/
theorem enterSoapVersion_enters (number : Nat) (protocol : Protocol) :
    (profile.enterSoapVersion number protocol).Enters
      (profile.checkSoapVersion number protocol) := by
  unfold enterSoapVersion checkSoapVersion
  cases profile.soapVersion with
  | none => exact enters_pure
  | some wanted => exact (enters_enter _).whenNot

/-- What the protocol block of a leg leaves to be found. -/
def checkProtocol (profile : Profile) (number : Nat) (leg : Leg) : Findings :=
  match leg.protocol with
  | none =>
      [.error .missingStructure (legField number "protocol")
        (legLabel number ++ ": Protocol is missing")]
  | some protocol =>
      profile.checkAddress number protocol ++ profile.checkSoapVersion number protocol

/-- The events of checking a leg: those of its address. -/
def legEvents (profile : Profile) (number : Nat) (leg : Leg) : List Event :=
  leg.protocol.elim [] fun protocol =>
    profile.adviceEvents (profile.checkAddress number protocol)

/-- A protocol block is checked by adding what it leaves to be found, with the events of the
address. -/
theorem enterProtocol_adds (number : Nat) (leg : Leg) :
    (profile.enterProtocol number leg).Adds (profile.checkProtocol number leg)
      (profile.legEvents number leg) := by
  unfold enterProtocol checkProtocol legEvents
  cases leg.protocol with
  | none => exact enters_enter _
  | some protocol =>
    have h := (profile.enterAddress_adds number protocol).seq
      (profile.enterSoapVersion_enters number protocol)
    rwa [List.append_nil] at h

/-- What the business block of a leg leaves to be found. -/
def checkBusiness (profile : Profile) (number : Nat) (leg : Leg) : Findings :=
  match leg.business.bind BusinessInformation.service with
  | none => []
  | some service =>
      if profile.allowsService service then []
      else
        [.error .valueMismatch (legField number "business_information.service")
          (legLabel number ++ ": Service " ++ service ++ profile.notAllowed)]

/-- A business block is checked by entering what it leaves to be found. -/
theorem enterBusiness_enters (number : Nat) (leg : Leg) :
    (profile.enterBusiness number leg).Enters (profile.checkBusiness number leg) := by
  unfold enterBusiness checkBusiness
  cases leg.business.bind BusinessInformation.service with
  | none => exact enters_pure
  | some service => exact (enters_enter _).whenNot

/-- What the signing certificate of a leg leaves to be found. -/
def checkCertificate (profile : Profile) (number : Nat) (security : Security) : Findings :=
  if profile.requireSignatureCertificate ∧ security.signatureCertificate.all Text.isBlank then
    [.error .missingStructure (legField number "security.x509_signature_certificate")
      (legLabel number ++ ": signature certificate is missing")]
  else []

/-- A signing certificate is checked by entering what it leaves to be found. -/
theorem enterCertificate_enters (number : Nat) (security : Security) :
    (profile.enterCertificate number security).Enters
      (profile.checkCertificate number security) :=
  (enters_enter _).when

/-- What the minimum strength of a leg leaves to be found; it is checked against the algorithm of
the leg itself, whatever the profile mandates. -/
def checkStrength (number : Nat) (security : Security) : Findings :=
  match security.encryptionAlgorithm, security.minimumStrength with
  | some algorithm, some minimum =>
      if algorithm.keyBits < minimum then
        [.error .valueMismatch (legField number "security.x509_encryption_minimum_strength")
          (legLabel number ++ ": encryption algorithm '" ++ algorithm.identifier ++ "' has " ++
            toString algorithm.keyBits.toNat ++ " bit keys, below the minimum strength of " ++
            toString minimum.toNat)]
      else []
  | _, _ => []

/-- A minimum strength is checked by entering what it leaves to be found. -/
theorem enterStrength_enters (number : Nat) (security : Security) :
    (enterStrength number security).Enters (checkStrength number security) := by
  unfold enterStrength checkStrength
  cases security.encryptionAlgorithm with
  | none => exact enters_pure
  | some algorithm =>
    cases security.minimumStrength with
    | none => exact enters_pure
    | some minimum => exact (enters_enter _).when

/-- What the WS-Security version of a leg leaves to be found; a version that is not given is not
looked at. -/
def checkWssVersion (profile : Profile) (number : Nat) (security : Security) : Findings :=
  match profile.wssVersion, security.wssVersion with
  | some wanted, some actual =>
      if actual = wanted then []
      else
        [.error .valueMismatch (legField number "security.wss_version")
          (legLabel number ++ ": Wrong WSS Version " ++ actual.identifier ++ ", only " ++
            wanted.identifier ++ " is allowed")]
  | _, _ => []

/-- A WS-Security version is checked by entering what it leaves to be found. -/
theorem enterWssVersion_enters (number : Nat) (security : Security) :
    (profile.enterWssVersion number security).Enters
      (profile.checkWssVersion number security) := by
  unfold enterWssVersion checkWssVersion
  cases profile.wssVersion with
  | none => exact enters_pure
  | some wanted =>
    cases security.wssVersion with
    | none => exact enters_pure
    | some actual => exact (enters_enter _).whenNot

/-- What the way back of receipts leaves to be found, where receipts are sent. -/
def checkReplyPattern (profile : Profile) (number : Nat) (security : Security) : Findings :=
  match profile.replyPattern with
  | none => []
  | some wanted =>
      if security.sendReceipt = .set true ∧ security.replyPattern ≠ some wanted then
        [.error .valueMismatch (legField number "security.send_receipt_reply_pattern")
          (legLabel number ++ ": Only " ++ wanted.word ++ " is allowed as pattern, found " ++
            (security.replyPattern.map ReplyPattern.word).getD "none")]
      else []

/-- A way back of receipts is checked by entering what it leaves to be found. -/
theorem enterReplyPattern_enters (number : Nat) (security : Security) :
    (profile.enterReplyPattern number security).Enters
      (profile.checkReplyPattern number security) := by
  unfold enterReplyPattern checkReplyPattern
  cases profile.replyPattern with
  | none => exact enters_pure
  | some wanted => exact (enters_enter _).when

/-- What a security block leaves to be found. -/
def checkSecurityBlock (profile : Profile) (number : Nat) (security : Security) : Findings :=
  let label := legLabel number
  profile.checkCertificate number security ++
    checkAlgorithm (legField number "security.x509_signature_algorithm")
      (label ++ ": signature algorithm") profile.signatureAlgorithm security.signatureAlgorithm ++
    checkAlgorithm (legField number "security.x509_signature_hash_function")
      (label ++ ": signature hash function") profile.signatureDigest security.signatureDigest ++
    checkAlgorithm (legField number "security.x509_encryption_algorithm")
      (label ++ ": encryption algorithm") profile.encryptionAlgorithm
      security.encryptionAlgorithm ++
    checkStrength number security ++
    profile.checkWssVersion number security ++
    profile.authorize.check (legField number "security.pmode_authorize") (label ++ ": ")
      "PModeAuthorize" security.authorize ++
    profile.nonRepudiation.check (legField number "security.send_receipt_non_repudiation")
      (label ++ ": ") "SendReceiptNonRepudiation" security.nonRepudiation ++
    profile.checkReplyPattern number security

/-- A security block is checked by entering what it leaves to be found. -/
theorem enterSecurityBlock_enters (number : Nat) (security : Security) :
    (profile.enterSecurityBlock number security).Enters
      (profile.checkSecurityBlock number security) := by
  unfold enterSecurityBlock checkSecurityBlock
  simp only [List.append_assoc]
  exact (profile.enterCertificate_enters number security).seq <|
    (enterAlgorithm_enters _ _ _ _).seq <|
    (enterAlgorithm_enters _ _ _ _).seq <|
    (enterAlgorithm_enters _ _ _ _).seq <|
    (enterStrength_enters number security).seq <|
    (profile.enterWssVersion_enters number security).seq <|
    (profile.authorize.enterFlag_enters _ _ _ _).seq <|
    (profile.nonRepudiation.enterFlag_enters _ _ _ _).seq <|
    profile.enterReplyPattern_enters number security

/-- What the security block of a leg leaves to be found. -/
def checkSecurity (profile : Profile) (number : Nat) (leg : Leg) : Findings :=
  match leg.security with
  | none =>
      if profile.requireSecurity then
        [.error .missingStructure (legField number "security")
          (legLabel number ++ ": Security is missing")]
      else []
  | some security => profile.checkSecurityBlock number security

/-- The security of a leg is checked by entering what it leaves to be found. -/
theorem enterSecurity_enters (number : Nat) (leg : Leg) :
    (profile.enterSecurity number leg).Enters (profile.checkSecurity number leg) := by
  unfold enterSecurity checkSecurity
  cases leg.security with
  | none => exact (enters_enter _).when
  | some security => exact profile.enterSecurityBlock_enters number security

/-- What the flags of an error handling block leave to be found. -/
def checkErrorFlags (rules : ErrorHandlingRules) (number : Nat) (handling : ErrorHandling) :
    Findings :=
  let lead := legLabel number ++ ": "
  rules.reportAsResponse.check (legField number "error_handling.report_as_response") lead
      "ReportAsResponse" handling.reportAsResponse ++
    rules.notifyConsumer.check
      (legField number "error_handling.report_process_error_notify_consumer") lead
      "ReportProcessErrorNotifyConsumer" handling.notifyConsumer ++
    rules.notifyProducer.check
      (legField number "error_handling.report_process_error_notify_producer") lead
      "ReportProcessErrorNotifyProducer" handling.notifyProducer ++
    rules.notifyDeliveryFailures.check
      (legField number "error_handling.report_delivery_failures_notify_producer") lead
      "ReportDeliveryFailuresNotifyProducer" handling.notifyDeliveryFailures

/-- The flags of an error handling block are checked by entering what they leave to be found. -/
theorem enterErrorFlags_enters (rules : ErrorHandlingRules) (number : Nat)
    (handling : ErrorHandling) :
    (enterErrorFlags rules number handling).Enters
      (checkErrorFlags rules number handling) := by
  unfold enterErrorFlags checkErrorFlags
  simp only [List.append_assoc]
  exact (rules.reportAsResponse.enterFlag_enters _ _ _ _).seq <|
    (rules.notifyConsumer.enterFlag_enters _ _ _ _).seq <|
    (rules.notifyProducer.enterFlag_enters _ _ _ _).seq <|
    rules.notifyDeliveryFailures.enterFlag_enters _ _ _ _

/-- What the error handling block of a leg leaves to be found. -/
def checkErrorHandling (profile : Profile) (number : Nat) (leg : Leg) : Findings :=
  match leg.errorHandling with
  | none =>
      if profile.errorHandling.required then
        [.error .missingStructure (legField number "error_handling")
          (legLabel number ++ ": No ErrorHandling Parameter present but they are mandatory")]
      else []
  | some handling => checkErrorFlags profile.errorHandling number handling

/-- The error handling of a leg is checked by entering what it leaves to be found. -/
theorem enterErrorHandling_enters (number : Nat) (leg : Leg) :
    (profile.enterErrorHandling number leg).Enters
      (profile.checkErrorHandling number leg) := by
  unfold enterErrorHandling checkErrorHandling
  cases leg.errorHandling with
  | none => exact (enters_enter _).when
  | some handling => exact enterErrorFlags_enters profile.errorHandling number handling

/-- A leg is checked by adding what its blocks leave to be found, with the events of its
address. -/
theorem enterLeg_adds (number : Nat) (leg : Leg) :
    (profile.enterLeg number leg).Adds
      (profile.checkProtocol number leg ++ profile.checkBusiness number leg ++
        profile.checkSecurity number leg ++ profile.checkErrorHandling number leg)
      (profile.legEvents number leg) := by
  have h := (profile.enterProtocol_adds number leg).seq <|
    (profile.enterBusiness_enters number leg).seq <|
    (profile.enterSecurity_enters number leg).seq <|
    profile.enterErrorHandling_enters number leg
  simpa only [enterLeg, List.append_assoc, List.append_nil] using h

/-- What is found on a leg is what its blocks leave to be found. -/
theorem checkLeg_eq (number : Nat) (leg : Leg) :
    profile.checkLeg number leg =
      profile.checkProtocol number leg ++ profile.checkBusiness number leg ++
        profile.checkSecurity number leg ++ profile.checkErrorHandling number leg :=
  (profile.enterLeg_adds number leg).found_eq

end Profile

end Ebms
