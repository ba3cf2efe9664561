import Ebms.Profile.Proposal
import Ebms.Proofs.Conformance.Mode

/-!
# What a profile finds on its own proposals

A proposal is made from the table of a profile, block by block, and is checked against the same
table, rule by rule. Every rule that the table itself can keep is kept: mandates are copied, flags
take the value that is asked for, and the service is the first one on offer. What is left depends on
what the table cannot know or does not offer: the pattern and the binding of the proposal, the
scheme of the address, and a certificate.
-/

namespace Ebms

open Findings (marks marks_append)

/-- A flag made for a requirement meets it, whatever would do otherwise. -/
theorem Requirement.metBy_flagOr (requirement : Requirement) (fallback : Bool) :
    requirement.MetBy (requirement.flagOr fallback) := by
  cases requirement with
  | unchecked => exact trivial
  | defined => exact Flag.noConfusion
  | equals value => rfl

/-- Nothing is found on a flag made for its requirement. -/
theorem Requirement.check_flagOr (requirement : Requirement) (field lead name : String)
    (fallback : Bool) : requirement.check field lead name (requirement.flagOr fallback) = [] :=
  (requirement.check_ofRule field lead name _).eq_nil_iff.mpr (requirement.metBy_flagOr fallback)

/-- White space around an address does not change its scheme. -/
theorem hasScheme_trim (address scheme : String) :
    HasScheme (Text.trim address) scheme ↔ HasScheme address scheme := by
  have htrim : Text.trimChars (Text.trim address).toList = Text.trimChars address.toList := by
    rw [Text.trim, String.toList_ofList, Text.trimChars_trimChars]
  rw [HasScheme, HasScheme, htrim]

namespace Profile

/-- White space around an address does not change whether it is standard. -/
theorem standardAddress_trim (profile : Profile) (address : String) :
    profile.StandardAddress (Text.trim address) ↔ profile.StandardAddress address := by
  simp only [StandardAddress, hasScheme_trim]

/-- What is found on one leg of a proposal: the scheme of its address, where that is not standard,
and the certificate that it does not have, where one is required. -/
def proposedLegMarks (profile : Profile) (number : Nat) (address : String) :
    List (Severity × String) :=
  (if profile.StandardAddress address then []
  else [(if profile.schemeIsFatal then .error else .warning,
    legField number "protocol.address")]) ++
    if profile.requireSignatureCertificate then
      [(.error, legField number "security.x509_signature_certificate")]
    else []

/-- The address of a proposed leg is given, so only its scheme is judged. -/
theorem marks_checkAddress_proposed (profile : Profile) (number : Nat) (address : String)
    (version : SoapVersion) :
    marks (profile.checkAddress number ⟨some (Text.trim address), version⟩) =
      if profile.StandardAddress address then []
      else [(if profile.schemeIsFatal then .error else .warning,
        legField number "protocol.address")] := by
  rw [profile.marks_checkAddress number rfl]
  simp only [standardAddress_trim]

/-- What is taken from a mandate, and chosen freely without one, is what is mandated. -/
theorem getD_of_mandate {α : Type} (mandated : Option α) (usual : α) :
    ∀ value ∈ mandated, some (mandated.getD usual) = some value := by
  intro value hvalue
  rw [Option.mem_def.mp hvalue, Option.getD_some]

/-- A proposed security block has no certificate and is otherwise what the profile asks for. -/
theorem checkSecurityBlock_proposed (profile : Profile) (number : Nat) :
    profile.checkSecurityBlock number profile.proposedSecurity =
      profile.checkCertificate number profile.proposedSecurity := by
  have hsignature : ∀ algorithm ∈ profile.signatureAlgorithm,
      profile.proposedSecurity.signatureAlgorithm = some algorithm :=
    getD_of_mandate profile.signatureAlgorithm .rsaSha256
  have hdigest : ∀ algorithm ∈ profile.signatureDigest,
      profile.proposedSecurity.signatureDigest = some algorithm :=
    getD_of_mandate profile.signatureDigest .sha256
  have hencryption : ∀ algorithm ∈ profile.encryptionAlgorithm,
      profile.proposedSecurity.encryptionAlgorithm = some algorithm :=
    getD_of_mandate profile.encryptionAlgorithm .aes128Gcm
  have hstrength : ∀ algorithm ∈ profile.proposedSecurity.encryptionAlgorithm,
      ∀ minimum ∈ profile.proposedSecurity.minimumStrength, minimum ≤ algorithm.keyBits := by
    intro algorithm halgorithm minimum hminimum
    cases halgorithm
    cases hminimum
    exact UInt32.le_refl _
  have hwss : ∀ version ∈ profile.wssVersion, ∀ given ∈ profile.proposedSecurity.wssVersion,
      given = version := by
    intro version hversion given hgiven
    have hmandate := getD_of_mandate profile.wssVersion .wss111 version hversion
    exact Option.some.inj (hgiven.symm.trans hmandate)
  have hauthorize : profile.authorize.MetBy profile.proposedSecurity.authorize :=
    profile.authorize.metBy_flagOr false
  have hreceipts : profile.nonRepudiation.MetBy profile.proposedSecurity.nonRepudiation :=
    profile.nonRepudiation.metBy_flagOr true
  have hreply : ∀ pattern ∈ profile.replyPattern, profile.proposedSecurity.sendReceipt = .set true →
      profile.proposedSecurity.replyPattern = some pattern := by
    intro pattern hpattern _
    exact getD_of_mandate profile.replyPattern .response pattern hpattern
  rw [checkSecurityBlock, (checkAlgorithm_ofRule _ _ _ _).eq_nil_iff.mpr hsignature,
    (checkAlgorithm_ofRule _ _ _ _).eq_nil_iff.mpr hdigest,
    (checkAlgorithm_ofRule _ _ _ _).eq_nil_iff.mpr hencryption,
    (checkStrength_ofRule number profile.proposedSecurity).eq_nil_iff.mpr hstrength,
    (profile.checkWssVersion_ofRule number profile.proposedSecurity).eq_nil_iff.mpr hwss,
    (Requirement.check_ofRule _ _ _ _ _).eq_nil_iff.mpr hauthorize,
    (Requirement.check_ofRule _ _ _ _ _).eq_nil_iff.mpr hreceipts,
    (profile.checkReplyPattern_ofRule number profile.proposedSecurity).eq_nil_iff.mpr hreply]
  simp only [List.append_nil]

/-- The flags of a proposed error handling block are what the profile asks for. -/
theorem checkErrorFlags_proposed (profile : Profile) (number : Nat) :
    checkErrorFlags profile.errorHandling number profile.proposedErrorHandling = [] := by
  simp only [checkErrorFlags, proposedErrorHandling, Requirement.check_flagOr, List.append_nil]

/-- The switches of proposed reception awareness are what the profile asks for. -/
theorem checkReception_proposed (profile : Profile) {mode : ProcessingMode}
    (hmode : mode.receptionAwareness = some profile.proposedReception) :
    profile.checkReception mode = [] := by
  simp only [checkReception, hmode, proposedReception, Requirement.check_flagOr, List.append_nil]

/-- A proposed leg keeps every rule that the table can keep. -/
theorem marks_checkLeg_proposed (profile : Profile) (number : Nat) (address : String) :
    marks (profile.checkLeg number (profile.proposedLeg (Text.trim address))) =
      profile.proposedLegMarks number address := by
  have hservice : ∀ business ∈ (profile.proposedLeg (Text.trim address)).business,
      ∀ service ∈ business.service, profile.OffersService service := by
    intro business hbusiness service hservice
    cases hbusiness
    exact .inr (List.mem_of_head? hservice)
  have hsoap : ∀ version ∈ profile.soapVersion, profile.soapVersion.getD default = version := by
    intro version hversion
    exact Option.some.inj (getD_of_mandate profile.soapVersion default version hversion)
  have hcertificate : marks (profile.checkCertificate number profile.proposedSecurity) =
      if profile.requireSignatureCertificate then
        [(.error, legField number "security.x509_signature_certificate")]
      else [] := by
    simp only [checkCertificate, proposedSecurity, Option.all_none, and_true]
    cases profile.requireSignatureCertificate <;> rfl
  have hprotocol : profile.checkProtocol number (profile.proposedLeg (Text.trim address)) =
      profile.checkAddress number ⟨some (Text.trim address), profile.soapVersion.getD default⟩ ++
        profile.checkSoapVersion number
          ⟨some (Text.trim address), profile.soapVersion.getD default⟩ := rfl
  have hsecurity : profile.checkSecurity number (profile.proposedLeg (Text.trim address)) =
      profile.checkSecurityBlock number profile.proposedSecurity := rfl
  have hhandling : profile.checkErrorHandling number (profile.proposedLeg (Text.trim address)) =
      checkErrorFlags profile.errorHandling number profile.proposedErrorHandling := rfl
  rw [checkLeg_eq, hprotocol, hsecurity, hhandling, checkSecurityBlock_proposed,
    checkErrorFlags_proposed, (profile.checkSoapVersion_ofRule number _).eq_nil_iff.mpr hsoap,
    (profile.checkBusiness_ofRule number _).eq_nil_iff.mpr hservice]
  simp only [marks_append, List.append_nil, marks_checkAddress_proposed, hcertificate,
    proposedLegMarks]

/-- The mode of two parties and a leg, with some pattern and some binding. -/
def modeOfParts (profile : Profile) (naming : Naming) (pattern : Pattern) (binding : Binding)
    (parts : Party × Party × Leg) : ProcessingMode :=
  { id := naming parts.1 parts.2.1
    initiator := parts.1
    responder := parts.2.1
    agreement := some defaultAgreement
    pattern
    binding
    leg1 := some parts.2.2
    leg2 := if pattern.isTwoWay then some parts.2.2 else none
    receptionAwareness := some profile.proposedReception }

/-- The mode that a profile proposes between two parties, with some pattern and some binding. -/
def proposedMode (profile : Profile) (naming : Naming) (pattern : Pattern) (binding : Binding)
    (initiator responder address : String) : ProcessingMode :=
  profile.modeOfParts naming pattern binding
    ({ idValue := Text.trim initiator, role := defaultInitiatorRole },
      { idValue := Text.trim responder, role := defaultResponderRole },
      profile.proposedLeg (Text.trim address))

/-- A proposal between parties that are not blank is sound in structure. -/
theorem checkStructure_proposedMode (profile : Profile) (naming : Naming) (pattern : Pattern)
    (binding : Binding) {initiator responder : String} (address : String)
    (hinitiator : Text.isBlank initiator = false) (hresponder : Text.isBlank responder = false) :
    (profile.proposedMode naming pattern binding initiator responder address).checkStructure =
      .ok () := by
  rw [ProcessingMode.checkStructure_eq_ok_iff]
  refine ⟨?_, ?_, Option.some_ne_none _, ?_⟩
  · simpa [Party.hasBlankId, proposedMode, modeOfParts] using hinitiator
  · simpa [Party.hasBlankId, proposedMode, modeOfParts] using hresponder
  · cases pattern <;> simp [proposedMode, modeOfParts, Pattern.isTwoWay]

/-- Every leg of a proposal goes to the trimmed address. -/
theorem address_of_mem_legs_proposedMode (profile : Profile) (naming : Naming) (pattern : Pattern)
    (binding : Binding) (initiator responder address : String) :
    ∀ leg ∈ (profile.proposedMode naming pattern binding initiator responder address).legs,
      leg.2.protocol.bind Protocol.address = some (Text.trim address) := by
  cases pattern <;>
    simp [ProcessingMode.legs, proposedMode, modeOfParts, Pattern.isTwoWay, proposedLeg]

/-- What is found on a proposal whose pattern and binding fit each other: that they are not allowed,
and what is found on each of its legs. -/
theorem marks_checkMode_proposedMode (profile : Profile) (naming : Naming) {pattern : Pattern}
    {binding : Binding} (hfits : binding.isTwoWay = pattern.isTwoWay)
    (initiator responder address : String) :
    marks (profile.checkMode
        (profile.proposedMode naming pattern binding initiator responder address)) =
      (if pattern ∈ profile.allowedPatterns then [] else [(.error, "mep")]) ++
        (if binding ∈ profile.allowedBindings then [] else [(.error, "mep_binding")]) ++
        profile.proposedLegMarks 1 address ++
        if pattern.isTwoWay then profile.proposedLegMarks 2 address else [] := by
  generalize hmode : profile.proposedMode naming pattern binding initiator responder address = mode
  have hpattern : mode.pattern = pattern := by rw [← hmode]; rfl
  have hbinding : mode.binding = binding := by rw [← hmode]; rfl
  have hreception : mode.receptionAwareness = some profile.proposedReception := by
    rw [← hmode]; rfl
  have hlegs : marks (profile.checkLegs mode) =
      profile.proposedLegMarks 1 address ++
        if pattern.isTwoWay then profile.proposedLegMarks 2 address else [] := by
    rw [← hmode]
    cases pattern with
    | oneWay =>
      simp [checkLegs, ProcessingMode.legs, proposedMode, modeOfParts, Pattern.isTwoWay,
        marks_checkLeg_proposed]
    | twoWay =>
      simp [checkLegs, ProcessingMode.legs, proposedMode, modeOfParts, Pattern.isTwoWay,
        marks_checkLeg_proposed]
  have hpresent : checkLegsPresent mode = [] := by
    rw [← hmode]
    cases pattern <;> rfl
  obtain ⟨allowed, fitting, hsplit, hallowed, hfitting⟩ := profile.checkBinding_ofRules mode
  have hfitting : fitting = [] := by
    refine hfitting.eq_nil_iff.mpr ?_
    rw [hpattern, hbinding, hfits, pattern.isTwoWay_eq_true_iff]
  rw [hbinding] at hallowed
  have hmep := profile.checkPattern_ofRule mode
  rw [hpattern] at hmep
  rw [checkMode_eq, hsplit, hfitting, hpresent, profile.checkReception_proposed hreception]
  simp only [marks_append, List.append_nil, hlegs, hmep.marks_eq, hallowed.marks_eq,
    List.append_assoc]

end Profile

/-- What comes of the wish for a mode: the first blank text is the defect, and where no text is
blank a mode is made. -/
inductive Proposed (initiator responder address : String) (Made : ProcessingMode → Prop) :
    Except Defect ProcessingMode → Prop where
  | blankInitiator (h : Text.isBlank initiator = true) :
      Proposed initiator responder address Made (.error (.blankPartyId .initiator))
  | blankResponder (hinitiator : Text.isBlank initiator = false)
      (h : Text.isBlank responder = true) :
      Proposed initiator responder address Made (.error (.blankPartyId .responder))
  | blankAddress (hinitiator : Text.isBlank initiator = false)
      (hresponder : Text.isBlank responder = false) (h : Text.isBlank address = true) :
      Proposed initiator responder address Made (.error .blankAddress)
  | made (hinitiator : Text.isBlank initiator = false) (hresponder : Text.isBlank responder = false)
      (haddress : Text.isBlank address = false) {mode : ProcessingMode} (h : Made mode) :
      Proposed initiator responder address Made (.ok mode)

/-- Whatever holds of every mode that is made may be said of it. -/
theorem Proposed.imp {initiator responder address : String} {Made Made' : ProcessingMode → Prop}
    {result : Except Defect ProcessingMode} (h : Proposed initiator responder address Made result)
    (himp : Text.isBlank initiator = false → Text.isBlank responder = false →
      ∀ mode, Made mode → Made' mode) :
    Proposed initiator responder address Made' result := by
  cases h with
  | blankInitiator h => exact .blankInitiator h
  | blankResponder hinitiator h => exact .blankResponder hinitiator h
  | blankAddress hinitiator hresponder h => exact .blankAddress hinitiator hresponder h
  | made hinitiator hresponder haddress h =>
    exact .made hinitiator hresponder haddress (himp hinitiator hresponder _ h)

namespace Profile

variable (profile : Profile) (naming : Naming) (initiator responder address : String)

/-- Where no text is blank the proposed mode is made of its parts, and otherwise none is made. -/
theorem proposedParts_proposed (pattern : Pattern) (binding : Binding) :
    Proposed initiator responder address
      (· = profile.proposedMode naming pattern binding initiator responder address)
      (profile.proposedParts initiator responder address >>= fun parts =>
        .ok (profile.modeOfParts naming pattern binding parts)) := by
  unfold proposedParts
  cases hinitiator : Text.isBlank initiator with
  | true => exact .blankInitiator hinitiator
  | false =>
    cases hresponder : Text.isBlank responder with
    | true => exact .blankResponder hinitiator hresponder
    | false =>
      cases haddress : Text.isBlank address with
      | true => exact .blankAddress hinitiator hresponder haddress
      | false => exact .made hinitiator hresponder haddress rfl

/-- The one-way proposal is the proposed mode of that pattern, pushed. -/
theorem proposeOneWay_proposed :
    Proposed initiator responder address
      (· = profile.proposedMode naming .oneWay .push initiator responder address)
      (profile.proposeOneWay naming initiator responder address) :=
  profile.proposedParts_proposed naming initiator responder address .oneWay .push

/-- Where two-way exchanges are on offer, the two-way proposal is the proposed mode of that
pattern, pushed both ways. -/
theorem proposeTwoWay_proposed (hoffered : profile.offersTwoWay = true) :
    Proposed initiator responder address
      (· = profile.proposedMode naming .twoWay .pushPush initiator responder address)
      (profile.proposeTwoWay naming initiator responder address) := by
  rw [proposeTwoWay, if_pos hoffered]
  exact profile.proposedParts_proposed naming initiator responder address .twoWay .pushPush

/-- Two-way exchanges are on offer exactly where the table allows the pattern and the binding. -/
theorem offersTwoWay_iff :
    profile.offersTwoWay = true ↔
      Pattern.twoWay ∈ profile.allowedPatterns ∧ Binding.pushPush ∈ profile.allowedBindings := by
  simp [offersTwoWay]

/-- A mode is between the parties that were wished for, without the white space around their texts,
and every leg of it goes to the address. It has the name, the pattern and the binding that were
wished for, is sound in structure, and has findings of these severities at these places and no
others. -/
structure MadeWith (pattern : Pattern) (binding : Binding) (found : List (Severity × String))
    (mode : ProcessingMode) : Prop where
  initiator : mode.initiator = { idValue := Text.trim initiator, role := defaultInitiatorRole }
  responder : mode.responder = { idValue := Text.trim responder, role := defaultResponderRole }
  addressed : ∀ leg ∈ mode.legs,
    leg.2.protocol.bind Protocol.address = some (Text.trim address)
  named : mode.id = naming mode.initiator mode.responder
  pattern : mode.pattern = pattern
  binding : mode.binding = binding
  sound : mode.checkStructure = .ok ()
  found : marks (profile.checkMode mode) = found

/-- Proposals and checks agree. A proposal fails for the first blank text, and the two-way one
before that where it is not on offer; what is made is between the trimmed parties, is sound in
structure, and nothing is found on it but a pattern or a binding that is not allowed, an address
that is not standard, and a certificate that is missing. -/
theorem proposals_agree_with_checks :
    Proposed initiator responder address
        (profile.MadeWith naming initiator responder address .oneWay .push
          ((if Pattern.oneWay ∈ profile.allowedPatterns then [] else [(.error, "mep")]) ++
            (if Binding.push ∈ profile.allowedBindings then [] else [(.error, "mep_binding")]) ++
            profile.proposedLegMarks 1 address))
        (profile.proposeOneWay naming initiator responder address) ∧
      (Pattern.twoWay ∈ profile.allowedPatterns ∧ Binding.pushPush ∈ profile.allowedBindings →
        Proposed initiator responder address
          (profile.MadeWith naming initiator responder address .twoWay .pushPush
            (profile.proposedLegMarks 1 address ++ profile.proposedLegMarks 2 address))
          (profile.proposeTwoWay naming initiator responder address)) ∧
      (profile.proposeTwoWay naming initiator responder address =
          .error (.unsupportedExchange profile.id.text "two-way") ↔
        ¬(Pattern.twoWay ∈ profile.allowedPatterns ∧
          Binding.pushPush ∈ profile.allowedBindings)) := by
  have hmade (pattern : Pattern) (binding : Binding)
      (hfits : binding.isTwoWay = pattern.isTwoWay)
      (hinitiator : Text.isBlank initiator = false) (hresponder : Text.isBlank responder = false)
      (mode : ProcessingMode)
      (hmode : mode = profile.proposedMode naming pattern binding initiator responder address) :
      profile.MadeWith naming initiator responder address pattern binding
        ((if pattern ∈ profile.allowedPatterns then [] else [(.error, "mep")]) ++
          (if binding ∈ profile.allowedBindings then [] else [(.error, "mep_binding")]) ++
          profile.proposedLegMarks 1 address ++
          if pattern.isTwoWay then profile.proposedLegMarks 2 address else []) mode := by
    subst hmode
    exact ⟨rfl, rfl,
      profile.address_of_mem_legs_proposedMode naming pattern binding initiator responder address,
      rfl, rfl, rfl,
      profile.checkStructure_proposedMode naming pattern binding address hinitiator hresponder,
      profile.marks_checkMode_proposedMode naming hfits initiator responder address⟩
  refine ⟨?_, fun hoffered => ?_, fun herror hoffered => ?_, fun hnot => ?_⟩
  · refine (profile.proposeOneWay_proposed naming initiator responder address).imp ?_
    intro hinitiator hresponder mode hmode
    have hmarks := hmade .oneWay .push rfl hinitiator hresponder mode hmode
    simpa [Pattern.isTwoWay] using hmarks
  · have hoffers := profile.offersTwoWay_iff.mpr hoffered
    refine (profile.proposeTwoWay_proposed naming initiator responder address hoffers).imp ?_
    intro hinitiator hresponder mode hmode
    have hmarks := hmade .twoWay .pushPush rfl hinitiator hresponder mode hmode
    simpa [Pattern.isTwoWay, hoffered.1, hoffered.2] using hmarks
  · have hmode := profile.proposeTwoWay_proposed naming initiator responder address
      (profile.offersTwoWay_iff.mpr hoffered)
    rw [herror] at hmode
    cases hmode
  · exact if_neg fun hoffers => hnot (profile.offersTwoWay_iff.mp hoffers)

end Profile

end Ebms
