import Ebms.Proofs.Conformance.Rules.Subject
import Ebms.Proofs.Conformance.Message
import Mathlib.Data.List.Basic

/-!
# What is wrong with a user message

A user message can fall short of a profile in eight ways. Each of them is a fault, and says by
itself what is found: the kind of rule, the path and the wording. `UserMessage.HasFault` says when a
message has a fault, without the checks and without an order. `Profile.faults` lists the faults of a
message in the order of its header: the identification, the parties with the sender first, the
properties in the order of the profile, and the service.

A check leaves exactly the findings of the listed faults. A fault never hides another one, except
that nothing is asked of the inside of a block that is missing. Only the names of the properties
matter, not their order, so that a message that gains properties only loses faults.
-/

namespace Ebms

/-- What can be wrong with a user message. -/
inductive UserMessageFault where
  | noMessageInfo
  | noMessageId
  | noPartyInfo
  | noSide (side : Side)
  | partyIdCount (side : Side) (count : Nat)
  | partyIdType (side : Side) (partyId : PartyId)
  | noProperty (name : String)
  | unofferedService (service : String)
  deriving DecidableEq, Repr

namespace UserMessageFault

/-- The kind of rule that a fault breaks. -/
def category : UserMessageFault → Category
  | noMessageInfo | noMessageId | noPartyInfo | noSide _ | noProperty _ => .missingStructure
  | partyIdCount .. => .cardinality
  | partyIdType _ partyId => if partyId.idType = none then .missingStructure else .valueMismatch
  | unofferedService _ => .valueMismatch

/-- The path of a fault. -/
def field : UserMessageFault → String
  | noMessageInfo => "message_info"
  | noMessageId => "message_info.message_id"
  | noPartyInfo => "party_info"
  | noSide side => side.field
  | partyIdCount side _ => side.field ++ ".party_ids"
  | partyIdType side _ => side.field ++ ".party_ids.type"
  | noProperty name => "message_properties." ++ name
  | unofferedService _ => "collaboration_info.service"

/-- The wording of a fault under a profile. -/
def message (profile : Profile) : UserMessageFault → String
  | noMessageInfo => "MessageInfo is missing"
  | noMessageId => "MessageInfo/MessageID is missing"
  | noPartyInfo => "PartyInfo is missing"
  | noSide side => "PartyInfo/" ++ side.word ++ " is missing"
  | partyIdCount side count =>
      "PartyInfo/" ++ side.word ++ " contains " ++ toString count ++
        " PartyIDs; Only 1 PartyID is allowed"
  | partyIdType side ⟨none, value⟩ =>
      "PartyInfo/" ++ side.word ++ " PartyID " ++ value ++ " has no type; the " ++
        profile.displayName ++ " profile requires one of: " ++
        ", ".intercalate profile.allowedPartyIdTypes
  | partyIdType side ⟨some idType, _⟩ =>
      "PartyInfo/" ++ side.word ++ " PartyID type " ++ idType ++ profile.notAllowed
  | noProperty name => "MessageProperties is missing the mandatory property " ++ name
  | unofferedService service => "CollaborationInfo/Service " ++ service ++ profile.notAllowed

/-- What is found where a message has a fault; every fault refuses. -/
def finding (profile : Profile) (fault : UserMessageFault) : Finding :=
  .error fault.category fault.field (fault.message profile)

end UserMessageFault

/-- The block of one side. -/
def PartyInfo.block? (info : PartyInfo) : Side → Option PartyBlock
  | .sender => info.sender
  | .receiver => info.receiver

/-- The names of the properties of a message. -/
def UserMessage.propertyNames (message : UserMessage) : List String :=
  message.properties.map MessageProperty.name

/-- A message has a fault under a profile. -/
inductive UserMessage.HasFault (message : UserMessage) (profile : Profile) :
    UserMessageFault → Prop where
  | noMessageInfo (hinfo : message.messageInfo = none) : HasFault message profile .noMessageInfo
  | noMessageId (info : MessageInfo) (hinfo : message.messageInfo = some info)
      (hblank : ∀ id ∈ info.messageId, Text.isBlank id = true) :
      HasFault message profile .noMessageId
  | noPartyInfo (hinfo : message.partyInfo = none) : HasFault message profile .noPartyInfo
  | noSide (info : PartyInfo) (side : Side) (hinfo : message.partyInfo = some info)
      (hblock : info.block? side = none) : HasFault message profile (.noSide side)
  | partyIdCount (info : PartyInfo) (side : Side) (block : PartyBlock)
      (hinfo : message.partyInfo = some info) (hblock : info.block? side = some block)
      (hsingle : profile.singlePartyId = true) (hcount : block.partyIds.length ≠ 1) :
      HasFault message profile (.partyIdCount side block.partyIds.length)
  | partyIdType (info : PartyInfo) (side : Side) (block : PartyBlock) (partyId : PartyId)
      (hinfo : message.partyInfo = some info) (hblock : info.block? side = some block)
      (hlisted : profile.allowedPartyIdTypes ≠ []) (hpartyId : partyId ∈ block.partyIds)
      (htype : ∀ idType ∈ partyId.idType, idType ∉ profile.allowedPartyIdTypes) :
      HasFault message profile (.partyIdType side partyId)
  | noProperty (name : String) (hrequired : name ∈ profile.requiredProperties)
      (hmissing : ∀ property ∈ message.properties, property.name ≠ name) :
      HasFault message profile (.noProperty name)
  | unofferedService (collaboration : CollaborationInfo) (service : String)
      (hcollaboration : message.collaboration = some collaboration)
      (hservice : collaboration.service = some service) (hlisted : profile.allowedServices ≠ [])
      (hunoffered : service ∉ profile.allowedServices) :
      HasFault message profile (.unofferedService service)

namespace Profile

/-- The faults in the identification of a message. -/
def infoFaults : Option MessageInfo → List UserMessageFault
  | none => [.noMessageInfo]
  | some info => if info.messageId.all Text.isBlank then [.noMessageId] else []

/-- The faults of one side of a message, its identifiers in order. -/
def sideFaults (profile : Profile) (side : Side) : Option PartyBlock → List UserMessageFault
  | none => [.noSide side]
  | some block =>
      (if profile.singlePartyId = true ∧ block.partyIds.length ≠ 1 then
        [.partyIdCount side block.partyIds.length]
      else []) ++
        if profile.allowedPartyIdTypes = [] then []
        else
          (block.partyIds.filter fun partyId =>
            partyId.idType.all (· ∉ profile.allowedPartyIdTypes)).map (.partyIdType side)

/-- The faults of the parties of a message, the sender before the receiver. -/
def partyFaults (profile : Profile) : Option PartyInfo → List UserMessageFault
  | none => [.noPartyInfo]
  | some info => [Side.sender, Side.receiver].flatMap fun side =>
      profile.sideFaults side (info.block? side)

/-- A fault for every required name that no property has, in the order of the profile. -/
def propertyFaults (profile : Profile) (names : List String) : List UserMessageFault :=
  (profile.requiredProperties.filter (· ∉ names)).map .noProperty

/-- The fault of a service that is not offered. -/
def serviceFaults (profile : Profile) : Option String → List UserMessageFault
  | none => []
  | some service =>
      if profile.allowedServices = [] ∨ service ∈ profile.allowedServices then []
      else [.unofferedService service]

/-- All faults of a message, in order. -/
def faults (profile : Profile) (message : UserMessage) : List UserMessageFault :=
  infoFaults message.messageInfo ++ profile.partyFaults message.partyInfo ++
    profile.propertyFaults message.propertyNames ++
    profile.serviceFaults (message.collaboration.bind CollaborationInfo.service)

variable (profile : Profile)

/-- What is found on the identification of a message are its faults. -/
theorem checkMessageInfo_eq_faults (info : Option MessageInfo) :
    checkMessageInfo info = (infoFaults info).map (·.finding profile) := by
  cases info with
  | none => rfl
  | some info =>
    have hblank : info.nonblankId?.isNone = info.messageId.all Text.isBlank := by
      rw [MessageInfo.nonblankId?]
      cases info.messageId with
      | none => rfl
      | some id => cases h : Text.isBlank id <;> simp [h]
    rw [checkMessageInfo, infoFaults, hblank]
    split <;> rfl

/-- What is found on an identifier is its fault, if its type is not one of those listed. -/
theorem checkPartyId_eq_fault (side : Side) (partyId : PartyId) :
    profile.checkPartyId side partyId =
      if partyId.idType.all (· ∉ profile.allowedPartyIdTypes) then
        [(UserMessageFault.partyIdType side partyId).finding profile]
      else [] := by
  obtain ⟨idType, value⟩ := partyId
  cases idType with
  | none => rfl
  | some idType =>
    by_cases hlisted : idType ∈ profile.allowedPartyIdTypes
    · simp [checkPartyId, hlisted]
    · simp only [checkPartyId, Option.all_some, List.contains_eq_mem, hlisted, not_false_iff,
        decide_true, decide_false, if_true]
      rfl

/-- What is found on a side of a message are its faults. -/
theorem checkSide_eq_faults (side : Side) (block : Option PartyBlock) :
    profile.checkSide side block = (profile.sideFaults side block).map (·.finding profile) := by
  cases block with
  | none => rfl
  | some block =>
    rw [checkSide, sideFaults, List.map_append]
    -- the number of the identifiers, then the type of each
    congr 1
    · split <;> rfl
    · simp only [List.isEmpty_iff]
      split
      · rfl
      · rw [Findings.flatMap_eq_map_filter (profile.checkPartyId_eq_fault side), List.map_map]
        rfl

/-- What is found on the parties of a message are their faults. -/
theorem checkPartyInfo_eq_faults (message : UserMessage) :
    profile.checkPartyInfo message =
      (profile.partyFaults message.partyInfo).map (·.finding profile) := by
  rw [checkPartyInfo]
  cases message.partyInfo with
  | none => rfl
  | some info =>
    simp [partyFaults, checkSide_eq_faults, PartyInfo.block?]

/-- A name has no value exactly when no property has that name. -/
theorem property?_isNone (message : UserMessage) (name : String) :
    (message.property? name).isNone = decide (name ∉ message.propertyNames) := by
  rw [UserMessage.property?, Option.isNone_map, Bool.eq_iff_iff]
  simp [UserMessage.propertyNames, List.find?_eq_none]

/-- What is found on the properties of a message are the faults of its names. -/
theorem checkProperties_eq_faults (message : UserMessage) :
    profile.checkProperties message =
      (profile.propertyFaults message.propertyNames).map (·.finding profile) := by
  simp only [checkProperties, property?_isNone, propertyFaults, List.map_map]
  exact Findings.flatMap_eq_map_filter (fun _ => rfl) _

/-- What is found on the service of a message is its fault. -/
theorem checkMessageService_eq_faults (message : UserMessage) :
    profile.checkMessageService message =
      (profile.serviceFaults (message.collaboration.bind CollaborationInfo.service)).map
        (·.finding profile) := by
  rw [checkMessageService]
  cases message.collaboration.bind CollaborationInfo.service with
  | none => rfl
  | some service =>
    simp only [serviceFaults, allowsService_iff, OffersService]
    split <;> rfl

/-- What is found on a message are its faults, in order. -/
theorem checkUserMessage_eq_faults (message : UserMessage) :
    profile.checkUserMessage message = (profile.faults message).map (·.finding profile) := by
  simp only [checkUserMessage_eq, faults, List.map_append, ← checkMessageInfo_eq_faults,
    checkPartyInfo_eq_faults, checkProperties_eq_faults, checkMessageService_eq_faults]

variable {message : UserMessage} {fault : UserMessageFault}

/-- The faults listed for the identification are those that a message has. -/
theorem hasFault_of_mem_infoFaults (h : fault ∈ infoFaults message.messageInfo) :
    message.HasFault profile fault := by
  cases hinfo : message.messageInfo with
  | none =>
    rw [hinfo, infoFaults, List.mem_singleton] at h
    exact h ▸ .noMessageInfo hinfo
  | some info =>
    rw [hinfo, infoFaults, List.mem_ite_nil_right, List.mem_singleton] at h
    obtain ⟨hblank, rfl⟩ := h
    exact .noMessageId info hinfo (by simpa [Option.all_eq_true] using hblank)

/-- The faults listed for a side are those that a message has. -/
theorem hasFault_of_mem_sideFaults {info : PartyInfo} (hinfo : message.partyInfo = some info)
    {side : Side} (h : fault ∈ profile.sideFaults side (info.block? side)) :
    message.HasFault profile fault := by
  cases hblock : info.block? side with
  | none =>
    rw [hblock, sideFaults, List.mem_singleton] at h
    exact h ▸ .noSide info side hinfo hblock
  | some block =>
    rw [hblock, sideFaults, List.mem_append, List.mem_ite_nil_right, List.mem_ite_nil_left,
      List.mem_singleton, List.mem_map] at h
    obtain ⟨⟨hsingle, hcount⟩, rfl⟩ | ⟨hlisted, partyId, hpartyId, rfl⟩ := h
    · exact .partyIdCount info side block hinfo hblock hsingle hcount
    · rw [List.mem_filter] at hpartyId
      refine .partyIdType info side block partyId hinfo hblock hlisted hpartyId.1 ?_
      simpa [Option.all_eq_true] using hpartyId.2

/-- The faults listed for the parties are those that a message has. -/
theorem hasFault_of_mem_partyFaults (h : fault ∈ profile.partyFaults message.partyInfo) :
    message.HasFault profile fault := by
  cases hinfo : message.partyInfo with
  | none =>
    rw [hinfo, partyFaults, List.mem_singleton] at h
    exact h ▸ .noPartyInfo hinfo
  | some info =>
    rw [hinfo, partyFaults, List.mem_flatMap] at h
    obtain ⟨side, -, hside⟩ := h
    exact profile.hasFault_of_mem_sideFaults hinfo hside

/-- The faults listed for the properties are those that a message has. -/
theorem hasFault_of_mem_propertyFaults
    (h : fault ∈ profile.propertyFaults message.propertyNames) :
    message.HasFault profile fault := by
  rw [propertyFaults, List.mem_map] at h
  obtain ⟨name, hname, rfl⟩ := h
  obtain ⟨hrequired, hmissing⟩ := List.mem_filter.mp hname
  exact .noProperty name hrequired (by simpa [UserMessage.propertyNames] using hmissing)

/-- The fault listed for the service is one that a message has. -/
theorem hasFault_of_mem_serviceFaults
    (h : fault ∈ profile.serviceFaults (message.collaboration.bind CollaborationInfo.service)) :
    message.HasFault profile fault := by
  cases hgiven : message.collaboration.bind CollaborationInfo.service with
  | none =>
    rw [hgiven] at h
    cases h
  | some service =>
    rw [hgiven, serviceFaults, List.mem_ite_nil_left, List.mem_singleton] at h
    obtain ⟨hunoffered, rfl⟩ := h
    obtain ⟨hlisted, hnot⟩ := not_or.mp hunoffered
    obtain ⟨collaboration, hcollaboration, hservice⟩ := Option.bind_eq_some_iff.mp hgiven
    exact .unofferedService collaboration service hcollaboration hservice hlisted hnot

/-- The faults of a side that is asked about are among those of the parties. -/
theorem mem_partyFaults_of_side {info : PartyInfo} (hinfo : message.partyInfo = some info)
    (side : Side) (h : fault ∈ profile.sideFaults side (info.block? side)) :
    fault ∈ profile.partyFaults message.partyInfo := by
  rw [hinfo, partyFaults, List.mem_flatMap]
  have hside : side ∈ [Side.sender, Side.receiver] := by cases side <;> simp
  exact ⟨side, hside, h⟩

/-- The faults that are listed are exactly those that a message has. -/
theorem mem_faults_iff : fault ∈ profile.faults message ↔ message.HasFault profile fault := by
  simp only [faults, List.mem_append]
  constructor
  · rintro (((hinfo | hparties) | hproperties) | hservice)
    · exact profile.hasFault_of_mem_infoFaults hinfo
    · exact profile.hasFault_of_mem_partyFaults hparties
    · exact profile.hasFault_of_mem_propertyFaults hproperties
    · exact profile.hasFault_of_mem_serviceFaults hservice
  · intro h
    -- a fault stands in the part of the list about its own part of the header
    cases h with
    | noMessageInfo hinfo => simp [hinfo, infoFaults]
    | noMessageId info hinfo hblank =>
      have hall : info.messageId.all Text.isBlank = true := by simpa [Option.all_eq_true]
      simp [hinfo, infoFaults, hall]
    | noPartyInfo hinfo => simp [hinfo, partyFaults]
    | noSide info side hinfo hblock =>
      refine .inl (.inl (.inr (profile.mem_partyFaults_of_side hinfo side ?_)))
      simp [hblock, sideFaults]
    | partyIdCount info side block hinfo hblock hsingle hcount =>
      refine .inl (.inl (.inr (profile.mem_partyFaults_of_side hinfo side ?_)))
      simp [hblock, sideFaults, hsingle, hcount]
    | partyIdType info side block partyId hinfo hblock hlisted hpartyId htype =>
      refine .inl (.inl (.inr (profile.mem_partyFaults_of_side hinfo side ?_)))
      rw [hblock, sideFaults, if_neg hlisted, List.mem_append, List.mem_map]
      refine .inr ⟨partyId, List.mem_filter.mpr ⟨hpartyId, ?_⟩, rfl⟩
      simpa [Option.all_eq_true] using htype
    | noProperty name hrequired hmissing =>
      refine .inl (.inr ?_)
      simpa [propertyFaults, UserMessage.propertyNames, hrequired] using hmissing
    | unofferedService collaboration service hcollaboration hservice hlisted hunoffered =>
      simp [hcollaboration, hservice, serviceFaults, hlisted, hunoffered]

/-- A message conforms to a profile exactly when it has no fault. -/
theorem userMessageConforms_iff_no_fault :
    profile.UserMessageConforms message ↔ ∀ fault, ¬message.HasFault profile fault := by
  rw [← checkUserMessage_eq_nil_iff, checkUserMessage_eq_faults, List.map_eq_nil_iff,
    List.eq_nil_iff_forall_not_mem]
  simp only [mem_faults_iff]

/-- With more names among the properties, only faults go away, and the others stay in order. -/
theorem propertyFaults_sublist {names more : List String} (hmore : names ⊆ more) :
    (profile.propertyFaults more).Sublist (profile.propertyFaults names) := by
  refine (List.monotone_filter_right _ fun name hmissing => ?_).map _
  simp only [decide_eq_true_eq] at hmissing ⊢
  exact fun hname => hmissing (hmore hname)

/-- The order of the names does not matter. -/
theorem propertyFaults_perm {names names' : List String} (hperm : names.Perm names') :
    profile.propertyFaults names = profile.propertyFaults names' :=
  (profile.propertyFaults_sublist hperm.symm.subset).antisymm
    (profile.propertyFaults_sublist hperm.subset)

/-- A message that gains properties, in any order, keeps none but faults that it had, in order. -/
theorem faults_sublist {properties : List MessageProperty}
    (hmore : message.properties ⊆ properties) :
    (profile.faults { message with properties }).Sublist (profile.faults message) := by
  have hnames : message.propertyNames ⊆ properties.map MessageProperty.name :=
    List.map_subset _ hmore
  exact ((List.Sublist.refl _).append (profile.propertyFaults_sublist hnames)).append
    (List.Sublist.refl _)

/-- A message whose properties stand in another order has the same faults. -/
theorem faults_perm {properties : List MessageProperty}
    (hperm : properties.Perm message.properties) :
    profile.faults { message with properties } = profile.faults message := by
  have hnames := profile.propertyFaults_perm (hperm.map MessageProperty.name)
  simp only [faults, UserMessage.propertyNames, hnames]

/-- Checking a user message adds to what was found exactly the findings of its faults, all of them
errors, in order: those of the identification, of the sender, of the receiver, of the properties
and of the service. The faults that are listed are those that the message has, and nothing is added
exactly when it has none. Properties in another order lead to the same findings, and a message that
gains properties leads to no finding that was not there before. -/
theorem userMessage_findings (profile : Profile) (message : UserMessage) (found : Findings) :
    (Subject.userMessage message).checkAll found [profile] =
        found ++ (profile.faults message).map (·.finding profile) ∧
      (∀ fault : UserMessageFault, (fault.finding profile).severity = .error) ∧
      (∀ fault, fault ∈ profile.faults message ↔ message.HasFault profile fault) ∧
      (profile.check (.userMessage message) = [] ↔ ∀ fault, ¬message.HasFault profile fault) ∧
      (∀ properties, properties.Perm message.properties →
        profile.check (.userMessage { message with properties }) =
          profile.check (.userMessage message)) ∧
      ∀ properties, message.properties ⊆ properties →
        (profile.check (.userMessage { message with properties })).Sublist
          (profile.check (.userMessage message)) := by
  have hcheck (message : UserMessage) : profile.check (.userMessage message) =
      (profile.faults message).map (·.finding profile) :=
    profile.checkUserMessage_eq_faults message
  simp only [hcheck]
  refine ⟨?findings, fun _ => rfl, fun _ => profile.mem_faults_iff, ?none, ?order, ?more⟩
  case findings => rw [Subject.checkAll_singleton, hcheck]
  case none =>
    rw [← hcheck, ← userMessageConforms_iff_no_fault]
    exact profile.checkUserMessage_eq_nil_iff message
  case order =>
    intro properties hperm
    rw [profile.faults_perm hperm]
  case more =>
    intro properties hmore
    exact (profile.faults_sublist hmore).map _

/-- A fault of the sender hides neither its next one nor that the receiver is missing. -/
example :
    faults { singlePartyId := true, allowedPartyIdTypes := ["gln"], requiredProperties := ["a"] }
        { messageInfo := some { messageId := some " " }
          partyInfo := some
            { sender := some { partyIds := [⟨some "duns", "1"⟩, ⟨some "gln", "2"⟩, ⟨none, "3"⟩] } }
          properties := [⟨"b", "4", none⟩] } =
      [.noMessageId, .partyIdCount .sender 3, .partyIdType .sender ⟨some "duns", "1"⟩,
        .partyIdType .sender ⟨none, "3"⟩, .noSide .receiver, .noProperty "a"] := by
  decide

end Profile

end Ebms
