import Ebms.Profile.Basic

/-!
# The built-in profiles

The profiles of the Peppol network, of the German energy market and of eDelivery, and the generic
profile that mandates nothing, each found under its identifier.
-/

namespace Ebms

/-- The identifier type of Peppol access points. -/
def peppolPartyIdType : String :=
  "urn:fdc:peppol.eu:2017:identifiers:ap"

/-- The property that names the party a document comes from, whoever passes it on. -/
def senderProperty : String :=
  "originalSender"

/-- The property that names the party a document is meant for, whoever passes it on. -/
def recipientProperty : String :=
  "finalRecipient"

/-- The identifier types of parties on the German energy market. -/
def bdewPartyIdTypes : List String :=
  ["urn:oasis:names:tc:ebcore:partyid-type:iso6523:0088",
    "urn:oasis:names:tc:ebcore:partyid-type:unregistered:BDEW",
    "urn:oasis:names:tc:ebcore:partyid-type:unregistered:DVGW"]

/-- The services of the German energy market. -/
def bdewServices : List String :=
  ["https://www.bdew.de/as4/communication/services/MP",
    "https://www.bdew.de/as4/communication/services/FP",
    "https://www.bdew.de/as4/communication/services/GP",
    "https://www.bdew.de/as4/communication/services/SO",
    "https://www.bdew.de/as4/communication/services/TP",
    "https://www.bdew.de/as4/communication/services/pathSwitch"]

namespace Profile

/-- The profile of the Peppol network. -/
def peppol : Profile where
  id := .peppol
  displayName := "Peppol"
  allowedBindings := [.push, .pushPush]
  soapVersion := some .soap12
  requireSecurity := true
  signatureAlgorithm := some .rsaSha256
  signatureDigest := some .sha256
  encryptionAlgorithm := some .aes128Gcm
  wssVersion := some .wss111
  authorize := .equals false
  replyPattern := some .response
  errorHandling := .uniform (.equals true)
  requiredProperties := [senderProperty, recipientProperty]
  allowedPartyIdTypes := [peppolPartyIdType]
  singlePartyId := true

/-- The profile of the German energy market. -/
def bdew : Profile where
  id := .bdew
  displayName := "BDEW"
  allowedPatterns := [.oneWay]
  allowedBindings := [.push]
  allowedSchemes := ["https"]
  schemeIsFatal := true
  requireAddress := true
  soapVersion := some .soap12
  requireSecurity := true
  signatureAlgorithm := some .ecdsaSha256
  signatureDigest := some .sha256
  encryptionAlgorithm := some .aes128Gcm
  wssVersion := some .wss111
  authorize := .equals false
  replyPattern := some .response
  nonRepudiation := .equals true
  errorHandling := .uniform (.equals true)
  allowedServices := bdewServices
  allowedPartyIdTypes := bdewPartyIdTypes
  singlePartyId := true
  reception := ⟨true, .equals true, .defined, .equals true⟩

/-- The profile of eDelivery. -/
def cef : Profile where
  id := .cef
  displayName := "CEF"
  allowedBindings := [.push, .pushPush]
  soapVersion := some .soap12
  requireSecurity := true
  signatureAlgorithm := some .rsaSha256
  signatureDigest := some .sha256
  encryptionAlgorithm := some .aes128Gcm
  wssVersion := some .wss111
  authorize := .equals false
  replyPattern := some .response
  errorHandling := .uniform .defined
  singlePartyId := true

/-- The built-in profile of some identifier. -/
def builtin? (id : ProfileId) : Option Profile :=
  match id.text with
  | "peppol" => some peppol
  | "bdew" => some bdew
  | "cef" => some cef
  | "generic" => some generic
  | _ => none

/-- All built-in profiles. -/
def builtins : List Profile :=
  [peppol, bdew, cef, generic]

/-- What is found under some identifier is one of the built-in profiles. -/
theorem mem_builtins_of_builtin? {id : ProfileId} {profile : Profile}
    (h : builtin? id = some profile) : profile ∈ builtins := by
  unfold builtin? at h
  split at h <;> cases h <;> simp [builtins]

end Profile

end Ebms
