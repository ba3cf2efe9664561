import Mathlib.Data.List.Flatten
import Ebms.Proofs.Conformance.Mode
import Ebms.Proofs.Proposal

/-!
# What an empty list allows

The table of a profile has six lists. Where the list of schemes, of services, of properties or of
identifier types is empty the profile asks for nothing, so emptying it never adds a finding to any
check. The lists of patterns and bindings are read as they stand: an empty one allows nothing, no
mode is accepted any more and no two-way mode is proposed.

That one profile finds no more than another is shown rule by rule, in the order of the findings.
-/

namespace Ebms

/-- The lists in the table of a profile. -/
inductive ProfileList where
  | patterns
  | bindings
  | schemes
  | services
  | properties
  | partyIdTypes
  deriving DecidableEq

namespace Profile

/-- A profile with one of its lists emptied. -/
def emptied (profile : Profile) : ProfileList → Profile
  | .patterns => { profile with allowedPatterns := [] }
  | .bindings => { profile with allowedBindings := [] }
  | .schemes => { profile with allowedSchemes := [] }
  | .services => { profile with allowedServices := [] }
  | .properties => { profile with requiredProperties := [] }
  | .partyIdTypes => { profile with allowedPartyIdTypes := [] }

/-- Rule by rule, one profile finds nothing that another one does not find. A rule that reads the
same in both profiles needs no argument. -/
structure FindsNoMore (lax strict : Profile) : Prop where
  pattern : ∀ mode, (lax.checkPattern mode).Sublist (strict.checkPattern mode) := by
    exact fun _ => .refl _
  binding : ∀ mode, (lax.checkBinding mode).Sublist (strict.checkBinding mode) := by
    exact fun _ => .refl _
  address : ∀ number protocol,
      (lax.checkAddress number protocol).Sublist (strict.checkAddress number protocol) := by
    exact fun _ _ => .refl _
  soapVersion : ∀ number protocol,
      (lax.checkSoapVersion number protocol).Sublist (strict.checkSoapVersion number protocol) := by
    exact fun _ _ => .refl _
  business : ∀ number leg,
      (lax.checkBusiness number leg).Sublist (strict.checkBusiness number leg) := by
    exact fun _ _ => .refl _
  security : ∀ number leg,
      (lax.checkSecurity number leg).Sublist (strict.checkSecurity number leg) := by
    exact fun _ _ => .refl _
  errorHandling : ∀ number leg,
      (lax.checkErrorHandling number leg).Sublist (strict.checkErrorHandling number leg) := by
    exact fun _ _ => .refl _
  reception : ∀ mode, (lax.checkReception mode).Sublist (strict.checkReception mode) := by
    exact fun _ => .refl _
  side : ∀ side block, (lax.checkSide side block).Sublist (strict.checkSide side block) := by
    exact fun _ _ => .refl _
  properties : ∀ message,
      (lax.checkProperties message).Sublist (strict.checkProperties message) := by
    exact fun _ => .refl _
  service : ∀ message,
      (lax.checkMessageService message).Sublist (strict.checkMessageService message) := by
    exact fun _ => .refl _
  signal : ∀ message, (lax.checkSignal message).Sublist (strict.checkSignal message) := by
    exact fun _ => .refl _

namespace FindsNoMore

variable {lax strict : Profile}

/-- Nothing more is found on a leg. -/
theorem checkLeg (h : lax.FindsNoMore strict) (number : Nat) (leg : Leg) :
    (lax.checkLeg number leg).Sublist (strict.checkLeg number leg) := by
  have hprotocol : (lax.checkProtocol number leg).Sublist (strict.checkProtocol number leg) := by
    unfold checkProtocol
    cases leg.protocol with
    | none => exact .refl _
    | some protocol => exact (h.address number protocol).append (h.soapVersion number protocol)
  rw [checkLeg_eq, checkLeg_eq]
  exact ((hprotocol.append (h.business number leg)).append (h.security number leg)).append
    (h.errorHandling number leg)

/-- Nothing more is found on the parties of a user message. -/
theorem checkPartyInfo (h : lax.FindsNoMore strict) (message : UserMessage) :
    (lax.checkPartyInfo message).Sublist (strict.checkPartyInfo message) := by
  unfold Profile.checkPartyInfo
  cases message.partyInfo with
  | none => exact .refl _
  | some info => exact (h.side .sender info.sender).append (h.side .receiver info.receiver)

/-- Nothing more is found on any subject. -/
theorem check (h : lax.FindsNoMore strict) (subject : Subject) :
    (lax.check subject).Sublist (strict.check subject) := by
  cases subject with
  | mode mode =>
    have hlegs : (lax.checkLegs mode).Sublist (strict.checkLegs mode) :=
      List.Sublist.flatMap_right mode.legs fun numbered _ => h.checkLeg numbered.1 numbered.2
    have hfront := ((h.pattern mode).append (h.binding mode)).append_right (checkLegsPresent mode)
    rw [check_mode, check_mode, checkMode_eq, checkMode_eq]
    exact (hfront.append hlegs).append (h.reception mode)
  | userMessage message =>
    have hparties := (h.checkPartyInfo message).append_left (checkMessageInfo message.messageInfo)
    rw [check_userMessage, check_userMessage, checkUserMessage_eq, checkUserMessage_eq]
    exact (hparties.append (h.properties message)).append (h.service message)
  | signalMessage message =>
    rw [check_signalMessage, check_signalMessage, checkSignalMessage_eq, checkSignalMessage_eq]
    exact (h.signal message).append_left (checkMessageInfo message.messageInfo)

end FindsNoMore

/-- Where no scheme is listed, an address is only judged for having none. -/
theorem findsNoMore_emptied_schemes (profile : Profile) :
    (profile.emptied .schemes).FindsNoMore profile where
  address number protocol := by
    unfold checkAddress
    cases protocol.address with
    | none => exact .refl _
    | some address =>
      cases protocol.scheme? with
      | none => exact .refl _
      | some scheme => exact List.nil_sublist _

/-- Where no service is listed, every service is on offer. -/
theorem findsNoMore_emptied_services (profile : Profile) :
    (profile.emptied .services).FindsNoMore profile where
  business number leg := by
    unfold checkBusiness
    cases leg.business.bind BusinessInformation.service with
    | none => exact .refl _
    | some service => exact List.nil_sublist _
  service message := by
    unfold checkMessageService
    cases message.collaboration.bind CollaborationInfo.service with
    | none => exact .refl _
    | some service => exact List.nil_sublist _

/-- Where no property is listed, none is missing. -/
theorem findsNoMore_emptied_properties (profile : Profile) :
    (profile.emptied .properties).FindsNoMore profile where
  properties message := List.nil_sublist _

/-- Where no identifier type is listed, identifiers are only counted. -/
theorem findsNoMore_emptied_partyIdTypes (profile : Profile) :
    (profile.emptied .partyIdTypes).FindsNoMore profile where
  side side block := by
    cases block with
    | none => exact .refl _
    | some block => exact List.Sublist.append (.refl _) (List.nil_sublist _)

/-- Where no pattern is listed, no mode is accepted. -/
theorem not_accepts_emptied_patterns (profile : Profile) (mode : ProcessingMode) :
    ¬(profile.emptied .patterns).Accepts mode := by
  rw [accepts_iff_conforms]
  intro h
  exact List.not_mem_nil h.pattern

/-- Where no binding is listed, no mode is accepted. -/
theorem not_accepts_emptied_bindings (profile : Profile) (mode : ProcessingMode) :
    ¬(profile.emptied .bindings).Accepts mode := by
  rw [accepts_iff_conforms]
  intro h
  exact List.not_mem_nil h.binding

/-- Emptying the list of patterns adds a finding to every mode whose pattern was allowed. -/
theorem length_checkMode_emptied_patterns (profile : Profile) {mode : ProcessingMode}
    (hallowed : mode.pattern ∈ profile.allowedPatterns) :
    ((profile.emptied .patterns).checkMode mode).length = (profile.checkMode mode).length + 1 := by
  have hbefore := (profile.checkPattern_ofRule mode).eq_nil_iff.mpr hallowed
  have hafter : ((profile.emptied .patterns).checkPattern mode).length = 1 := rfl
  have hbinding : (profile.emptied .patterns).checkBinding mode = profile.checkBinding mode := rfl
  have hlegs : (profile.emptied .patterns).checkLegs mode = profile.checkLegs mode := rfl
  have hreception : (profile.emptied .patterns).checkReception mode =
      profile.checkReception mode := rfl
  simp only [checkMode_eq, hbefore, hbinding, hlegs, hreception, List.length_append, hafter,
    List.length_nil]
  omega

/-- Emptying the list of bindings adds a finding to every mode whose binding was allowed. -/
theorem length_checkMode_emptied_bindings (profile : Profile) {mode : ProcessingMode}
    (hallowed : mode.binding ∈ profile.allowedBindings) :
    ((profile.emptied .bindings).checkMode mode).length = (profile.checkMode mode).length + 1 := by
  have hafter : ((profile.emptied .bindings).checkBinding mode).length =
      (profile.checkBinding mode).length + 1 := by
    simp [checkBinding, emptied, hallowed]
  have hpattern : (profile.emptied .bindings).checkPattern mode = profile.checkPattern mode := rfl
  have hlegs : (profile.emptied .bindings).checkLegs mode = profile.checkLegs mode := rfl
  have hreception : (profile.emptied .bindings).checkReception mode =
      profile.checkReception mode := rfl
  simp only [checkMode_eq, hpattern, hlegs, hreception, List.length_append, hafter]
  omega

/-- Where two-way modes are on offer, no proposal is refused as unsupported. -/
theorem proposeTwoWay_ne_unsupported {profile : Profile} (hoffered : profile.offersTwoWay = true)
    (naming : Naming) (initiator responder address name pattern : String) :
    profile.proposeTwoWay naming initiator responder address ≠
      .error (.unsupportedExchange name pattern) := by
  intro h
  have hproposed :=
    profile.proposeTwoWay_proposed naming initiator responder address hoffered
  rw [h] at hproposed
  cases hproposed

/-- Where a two-way mode is proposed, two-way modes are on offer. -/
theorem offersTwoWay_of_proposed {profile : Profile} {naming : Naming}
    {initiator responder address : String} {mode : ProcessingMode}
    (h : profile.proposeTwoWay naming initiator responder address = .ok mode) :
    profile.offersTwoWay = true := by
  cases hoffers : profile.offersTwoWay with
  | true => rfl
  | false => simp [proposeTwoWay, hoffers] at h

/-- Emptying a list of a profile asks for nothing new: nothing is found on any subject that was not
found before, and a two-way mode that was proposed is not refused as unsupported. -/
structure OpensUp (profile : Profile) (list : ProfileList) : Prop where
  check : ∀ subject, ((profile.emptied list).check subject).Sublist (profile.check subject)
  twoWay : ∀ naming initiator responder address mode,
    profile.proposeTwoWay naming initiator responder address = .ok mode →
      ∀ name pattern, (profile.emptied list).proposeTwoWay naming initiator responder address ≠
        .error (.unsupportedExchange name pattern)

namespace OpensUp

variable {profile : Profile}

/-- A list whose emptying adds no finding and keeps two-way modes on offer opens the profile up. -/
theorem of_findsNoMore {list : ProfileList} (h : (profile.emptied list).FindsNoMore profile)
    (hoffers : (profile.emptied list).offersTwoWay = profile.offersTwoWay) :
    profile.OpensUp list where
  check := h.check
  twoWay naming initiator responder address mode hproposed := by
    have hoffered := hoffers.trans (offersTwoWay_of_proposed hproposed)
    exact proposeTwoWay_ne_unsupported hoffered naming initiator responder address

/-- Emptying a list that is empty changes nothing. -/
theorem of_emptied_eq {list : ProfileList} (h : profile.emptied list = profile) :
    profile.OpensUp list :=
  of_findsNoMore (h.symm ▸ {}) (congrArg offersTwoWay h)

/-- Emptying the list of patterns opens a profile up only where that list is empty already. -/
theorem allowedPatterns_eq_nil (h : profile.OpensUp .patterns) : profile.allowedPatterns = [] := by
  refine List.eq_nil_iff_forall_not_mem.mpr fun pattern hpattern => ?_
  let mode := profile.proposedMode .derived pattern .push "" "" ""
  have hallowed : mode.pattern ∈ profile.allowedPatterns := hpattern
  have hmore := profile.length_checkMode_emptied_patterns hallowed
  have hlength : ((profile.emptied .patterns).checkMode mode).length ≤
      (profile.checkMode mode).length := (h.check (.mode mode)).length_le
  omega

/-- Emptying the list of bindings opens a profile up only where that list is empty already. -/
theorem allowedBindings_eq_nil (h : profile.OpensUp .bindings) : profile.allowedBindings = [] := by
  refine List.eq_nil_iff_forall_not_mem.mpr fun binding hbinding => ?_
  let mode := profile.proposedMode .derived .oneWay binding "" "" ""
  have hallowed : mode.binding ∈ profile.allowedBindings := hbinding
  have hmore := profile.length_checkMode_emptied_bindings hallowed
  have hlength : ((profile.emptied .bindings).checkMode mode).length ≤
      (profile.checkMode mode).length := (h.check (.mode mode)).length_le
  omega

end OpensUp

/-- An empty list means that anything goes, except for the lists of patterns and of bindings.
Emptying a list adds no finding to any check and keeps proposed two-way modes on offer, unless it
is the list of patterns or the list of bindings and was not empty before; and where one of these
two is empty no mode is accepted and no two-way mode is on offer. -/
theorem opensUp_iff (profile : Profile) (list : ProfileList) :
    (profile.OpensUp list ↔
      (list = .patterns → profile.allowedPatterns = []) ∧
        (list = .bindings → profile.allowedBindings = [])) ∧
    (∀ mode, ¬(profile.emptied .patterns).Accepts mode ∧
      ¬(profile.emptied .bindings).Accepts mode) ∧
    (profile.emptied .patterns).offersTwoWay = false ∧
    (profile.emptied .bindings).offersTwoWay = false := by
  refine ⟨⟨fun h => ?only, fun h => ?opens⟩, fun mode => ?refused, rfl, ?_⟩
  case only =>
    refine ⟨fun hlist => ?_, fun hlist => ?_⟩
    · subst hlist
      exact h.allowedPatterns_eq_nil
    · subst hlist
      exact h.allowedBindings_eq_nil
  case opens =>
    cases list with
    | patterns =>
      have hsame : profile.emptied .patterns = profile := by
        rw [emptied, ← h.1 rfl]
      exact .of_emptied_eq hsame
    | bindings =>
      have hsame : profile.emptied .bindings = profile := by
        rw [emptied, ← h.2 rfl]
      exact .of_emptied_eq hsame
    | schemes => exact .of_findsNoMore profile.findsNoMore_emptied_schemes rfl
    | services => exact .of_findsNoMore profile.findsNoMore_emptied_services rfl
    | properties => exact .of_findsNoMore profile.findsNoMore_emptied_properties rfl
    | partyIdTypes => exact .of_findsNoMore profile.findsNoMore_emptied_partyIdTypes rfl
  case refused =>
    exact ⟨profile.not_accepts_emptied_patterns mode, profile.not_accepts_emptied_bindings mode⟩
  · simp [offersTwoWay, emptied]

/-- The generic profile, which finds nothing on a pushed one-way mode and on the request for a
message, refuses both when its lists of patterns and bindings are emptied, and no longer proposes
the two-way mode that it proposed before. -/
theorem not_opensUp_generic :
    ∃ (mode proposed : ProcessingMode) (message : SignalMessage),
      generic.check (.mode mode) = [] ∧
      (generic.emptied .patterns).check (.mode mode) = [.error .valueMismatch "mep"
        "PMode MEP one-way is not allowed by the generic profile (allowed: )"] ∧
      (generic.emptied .bindings).check (.mode mode) = [.error .valueMismatch "mep_binding"
        "PMode MEP binding push is not allowed by the generic profile (allowed: )"] ∧
      generic.check (.signalMessage message) = [] ∧
      (generic.emptied .bindings).check (.signalMessage message) = [.error .valueMismatch "signal"
        "PullRequest signals are not supported by the generic profile"] ∧
      generic.proposeTwoWay .derived "A" "B" "https://b.example" = .ok proposed ∧
      (generic.emptied .patterns).proposeTwoWay .derived "A" "B" "https://b.example" =
        .error (.unsupportedExchange "generic" "two-way") := by
  let mode : ProcessingMode :=
    { id := ⟨"A-B", by decide⟩
      initiator := { idValue := "A", role := defaultInitiatorRole }
      responder := { idValue := "B", role := defaultResponderRole }
      pattern := .oneWay
      binding := .push
      leg1 := some { protocol := some ⟨some "https://b.example", default⟩ } }
  let message : SignalMessage :=
    { messageInfo := some { messageId := some "m" }, signal := some (.pullRequest none) }
  obtain ⟨proposed, hproposed⟩ : ∃ proposed,
      generic.proposeTwoWay .derived "A" "B" "https://b.example" = .ok proposed := ⟨_, rfl⟩
  refine ⟨mode, proposed, message, ?_, ?_, ?_, ?_, ?_, hproposed, rfl⟩ <;> decide +kernel

end Profile

end Ebms
