import Ebms.Proofs.Conformance.Rules.Message
import Ebms.Proofs.Conformance.Leg

/-!
# When a message meets a profile

What a profile asks of the header of a message, said without the checks. A user message is
identified, names both of its parties as the profile wants them named, carries the properties that
are required, and is about a service on offer. A signal message is identified and carries a signal
that the profile can take. Nothing is found exactly on the headers that conform.
-/

namespace Ebms

open Findings (OfRule)

/-- A header is identified when it has a message identifier that is not blank. -/
def Identified (info : Option MessageInfo) : Prop :=
  ∃ given ∈ info, given.nonblankId? ≠ none

namespace Profile

/-- An identifier has one of the types that a profile lists. -/
def TypedPartyId (profile : Profile) (partyId : PartyId) : Prop :=
  ∃ idType ∈ partyId.idType, idType ∈ profile.allowedPartyIdTypes

/-- What a profile asks of one side of a user message. -/
structure SideConforms (profile : Profile) (block : PartyBlock) : Prop where
  single : profile.singlePartyId = true → block.partyIds.length = 1
  typed : profile.allowedPartyIdTypes = [] ∨
    ∀ partyId ∈ block.partyIds, profile.TypedPartyId partyId

/-- What a profile asks of a user message. -/
structure UserMessageConforms (profile : Profile) (message : UserMessage) : Prop where
  identified : Identified message.messageInfo
  parties : ∃ info ∈ message.partyInfo, (∃ block ∈ info.sender, profile.SideConforms block) ∧
    ∃ block ∈ info.receiver, profile.SideConforms block
  properties : ∀ name ∈ profile.requiredProperties, message.property? name ≠ none
  service : ∀ collaboration ∈ message.collaboration, ∀ service ∈ collaboration.service,
    profile.OffersService service

/-- What a profile asks of a signal. -/
def SignalConforms (profile : Profile) : Signal → Prop
  | .pullRequest _ => ∃ binding ∈ profile.allowedBindings, binding.involvesPull = true
  | .receipt nonRepudiation => profile.nonRepudiation = .equals true → nonRepudiation = true
  | .error code => Text.isBlank code = false

/-- What a profile asks of a signal message. -/
structure SignalMessageConforms (profile : Profile) (message : SignalMessage) : Prop where
  identified : Identified message.messageInfo
  signal : ∃ signal ∈ message.signal, profile.SignalConforms signal

end Profile

/-- Nothing is found on the identification of a header exactly when the header is identified. -/
theorem checkMessageInfo_eq_nil_iff (info : Option MessageInfo) :
    checkMessageInfo info = [] ↔ Identified info := by
  unfold checkMessageInfo Identified
  cases info with
  | none => simp
  | some given => simp

namespace Profile

/-- The check of an identifier is the rule that it has one of the listed types. -/
theorem checkPartyId_ofRule (profile : Profile) (side : Side) (partyId : PartyId) :
    OfRule .error (side.field ++ ".party_ids.type") (profile.TypedPartyId partyId)
      (profile.checkPartyId side partyId) := by
  unfold checkPartyId TypedPartyId
  cases partyId.idType with
  | none => exact .broken (by simp) _ _
  | some idType =>
    refine (OfRule.ofUnless _ _).congr ?_
    simp

/-- The check of a side that is there is the rule about the number of its identifiers and, where
types are listed, one rule for each identifier. -/
theorem checkSide_ofRules (profile : Profile) (side : Side) (block : PartyBlock) :
    ∃ single typed, profile.checkSide side (some block) = single ++ typed ∧
      OfRule .error (side.field ++ ".party_ids")
        (profile.singlePartyId = true → block.partyIds.length = 1) single ∧
      typed = if profile.allowedPartyIdTypes = [] then []
        else block.partyIds.flatMap (profile.checkPartyId side) := by
  refine ⟨_, _, rfl, ?_, ?_⟩
  · refine (OfRule.ofWhen _ _).congr ?_
    simp
  · simp

/-- Nothing is found on a side exactly when it is there and conforms. -/
theorem checkSide_eq_nil_iff (profile : Profile) (side : Side) (block : Option PartyBlock) :
    profile.checkSide side block = [] ↔ ∃ given ∈ block, profile.SideConforms given := by
  cases block with
  | none => simp [checkSide]
  | some block =>
    obtain ⟨single, typed, hside, hsingle, htyped⟩ := profile.checkSide_ofRules side block
    have htyped_nil : typed = [] ↔ profile.allowedPartyIdTypes = [] ∨
        ∀ partyId ∈ block.partyIds, profile.TypedPartyId partyId := by
      rw [htyped]
      by_cases hany : profile.allowedPartyIdTypes = []
      · simp [hany]
      · simp [hany, List.flatMap_eq_nil_iff, (profile.checkPartyId_ofRule side _).eq_nil_iff]
    rw [hside, List.append_eq_nil_iff, hsingle.eq_nil_iff, htyped_nil]
    simp only [Option.mem_some_iff, exists_eq_left']
    exact ⟨fun h => ⟨h.1, h.2⟩, fun h => ⟨h.single, h.typed⟩⟩

/-- Nothing is found on the parties of a user message exactly when both are there and conform. -/
theorem checkPartyInfo_eq_nil_iff (profile : Profile) (message : UserMessage) :
    profile.checkPartyInfo message = [] ↔ ∃ info ∈ message.partyInfo,
      (∃ block ∈ info.sender, profile.SideConforms block) ∧
        ∃ block ∈ info.receiver, profile.SideConforms block := by
  unfold checkPartyInfo
  cases message.partyInfo with
  | none => simp
  | some info =>
    simp only [List.append_eq_nil_iff, checkSide_eq_nil_iff, Option.mem_some_iff, exists_eq_left']

/-- Nothing is found on the properties of a user message exactly when all that are required are
there. -/
theorem checkProperties_eq_nil_iff (profile : Profile) (message : UserMessage) :
    profile.checkProperties message = [] ↔
      ∀ name ∈ profile.requiredProperties, message.property? name ≠ none := by
  simp [checkProperties, List.flatMap_eq_nil_iff]

/-- The check of the service of a user message is the rule that it is offered. -/
theorem checkMessageService_ofRule (profile : Profile) (message : UserMessage) :
    OfRule .error "collaboration_info.service"
      (∀ collaboration ∈ message.collaboration, ∀ service ∈ collaboration.service,
        profile.OffersService service)
      (profile.checkMessageService message) := by
  unfold checkMessageService
  split
  · rename_i hnone
    refine .kept fun collaboration hcollaboration service hservice => ?_
    rw [Option.mem_def] at hcollaboration hservice
    simp [hcollaboration, hservice] at hnone
  · rename_i service hsome
    refine (OfRule.ofUnless _ _).congr ?_
    obtain ⟨collaboration, hcollaboration, hservice⟩ := Option.bind_eq_some_iff.mp hsome
    simp [hcollaboration, hservice, allowsService_iff]

/-- Nothing is found on a user message exactly when it conforms. -/
theorem checkUserMessage_eq_nil_iff (profile : Profile) (message : UserMessage) :
    profile.checkUserMessage message = [] ↔ profile.UserMessageConforms message := by
  simp only [checkUserMessage_eq, List.append_eq_nil_iff, checkMessageInfo_eq_nil_iff,
    checkPartyInfo_eq_nil_iff, checkProperties_eq_nil_iff,
    (profile.checkMessageService_ofRule message).eq_nil_iff, and_assoc]
  constructor
  · intro h
    obtain ⟨hidentified, hparties, hproperties, hservice⟩ := h
    exact ⟨hidentified, hparties, hproperties, hservice⟩
  · intro h
    exact ⟨h.identified, h.parties, h.properties, h.service⟩

/-- Nothing is found on a signal exactly when it is there and conforms. -/
theorem checkSignal_eq_nil_iff (profile : Profile) (message : SignalMessage) :
    profile.checkSignal message = [] ↔
      ∃ signal ∈ message.signal, profile.SignalConforms signal := by
  unfold checkSignal
  cases message.signal with
  | none => simp
  | some signal => cases signal <;> simp [SignalConforms]

/-- Nothing is found on a signal message exactly when it conforms. -/
theorem checkSignalMessage_eq_nil_iff (profile : Profile) (message : SignalMessage) :
    profile.checkSignalMessage message = [] ↔ profile.SignalMessageConforms message := by
  rw [checkSignalMessage_eq, List.append_eq_nil_iff, checkMessageInfo_eq_nil_iff,
    checkSignal_eq_nil_iff]
  exact ⟨fun h => ⟨h.1, h.2⟩, fun h => ⟨h.identified, h.signal⟩⟩

end Profile

end Ebms
