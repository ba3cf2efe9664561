import Ebms.Naming
import Ebms.ProcessingMode
import Ebms.Profile.Basic

/-!
# Processing modes that a profile proposes

From two party identifiers and an address a profile makes a processing mode that meets its own
mandates, and takes what is usual where it mandates nothing. A one-way mode is pushed; a two-way
mode is pushed both ways, has two equal legs, and is only made where the profile allows it.
-/

namespace Ebms.Profile

/-- The security block of a proposed leg. -/
def proposedSecurity (profile : Profile) : Security :=
  let algorithm := profile.encryptionAlgorithm.getD .aes128Gcm
  { wssVersion := some (profile.wssVersion.getD .wss111)
    signatureAlgorithm := some (profile.signatureAlgorithm.getD .rsaSha256)
    signatureDigest := some (profile.signatureDigest.getD .sha256)
    encryptionAlgorithm := some algorithm
    minimumStrength := some algorithm.keyBits
    authorize := profile.authorize.flagOr false
    sendReceipt := .set true
    nonRepudiation := profile.nonRepudiation.flagOr true
    replyPattern := some (profile.replyPattern.getD .response) }

/-- The error handling block of a proposed leg. -/
def proposedErrorHandling (profile : Profile) : ErrorHandling :=
  let rules := profile.errorHandling
  { reportAsResponse := rules.reportAsResponse.flagOr true
    notifyConsumer := rules.notifyConsumer.flagOr true
    notifyProducer := rules.notifyProducer.flagOr true
    notifyDeliveryFailures := rules.notifyDeliveryFailures.flagOr true }

/-- A proposed leg to some address. -/
def proposedLeg (profile : Profile) (address : String) : Leg where
  protocol := some ⟨some address, profile.soapVersion.getD default⟩
  business := some
    { service := profile.allowedServices.head?
      action := some defaultAction
      channel := some defaultChannel }
  errorHandling := some profile.proposedErrorHandling
  security := some profile.proposedSecurity

/-- The reception awareness block of a proposed mode. -/
def proposedReception (profile : Profile) : ReceptionAwareness :=
  { ReceptionAwareness.usual with
    enabled := profile.reception.enabled.flagOr true
    retry := profile.reception.retry.flagOr true
    duplicateDetection := profile.reception.duplicateDetection.flagOr true }

/-- The two parties and the leg of a proposed mode. The first blank text is the defect. -/
def proposedParts (profile : Profile) (initiator responder address : String) :
    Except Defect (Party × Party × Leg) :=
  if Text.isBlank initiator then .error (.blankPartyId .initiator)
  else if Text.isBlank responder then .error (.blankPartyId .responder)
  else if Text.isBlank address then .error .blankAddress
  else
    .ok ({ idValue := Text.trim initiator, role := defaultInitiatorRole },
      { idValue := Text.trim responder, role := defaultResponderRole },
      profile.proposedLeg (Text.trim address))

/-- The one-way mode between two parties. -/
def proposeOneWay (profile : Profile) (naming : Naming) (initiator responder address : String) :
    Except Defect ProcessingMode := do
  let (initiator, responder, leg) ← profile.proposedParts initiator responder address
  .ok
    { id := naming initiator responder
      initiator
      responder
      agreement := some defaultAgreement
      pattern := .oneWay
      binding := .push
      leg1 := some leg
      receptionAwareness := some profile.proposedReception }

/-- Whether two-way modes that are pushed both ways are allowed. -/
def offersTwoWay (profile : Profile) : Bool :=
  profile.allowedPatterns.contains .twoWay && profile.allowedBindings.contains .pushPush

/-- The two-way mode between two parties, with equal legs. -/
def proposeTwoWay (profile : Profile) (naming : Naming) (initiator responder address : String) :
    Except Defect ProcessingMode := do
  if profile.offersTwoWay then
    let (initiator, responder, leg) ← profile.proposedParts initiator responder address
    .ok
      { id := naming initiator responder
        initiator
        responder
        agreement := some defaultAgreement
        pattern := .twoWay
        binding := .pushPush
        leg1 := some leg
        leg2 := some leg
        receptionAwareness := some profile.proposedReception }
  else .error (.unsupportedExchange profile.id.text (Spelled.text Pattern.twoWay))

/-- The mode of some pattern between two parties. -/
def propose (profile : Profile) (pattern : Pattern) (naming : Naming)
    (initiator responder address : String) : Except Defect ProcessingMode :=
  match pattern with
  | .oneWay => profile.proposeOneWay naming initiator responder address
  | .twoWay => profile.proposeTwoWay naming initiator responder address

end Ebms.Profile
