import Ebms.Conformance.Message
import Ebms.Proofs.Conformance.Adds

/-!
# What the rules for a message add

The findings on a user message are those on its identification, its parties, its properties and its
service, in this order; those on a signal message are on its identification and its signal. No rule
for a message notes anything, so the only event is the one at the end with the number of findings.
-/

namespace Ebms

open LedgerCheck (Enters enters_enter enters_pure)

/-- What the identification of a message leaves to be found. -/
def checkMessageInfo (info : Option MessageInfo) : Findings :=
  match info with
  | none => [.error .missingStructure "message_info" "MessageInfo is missing"]
  | some info =>
      if info.nonblankId?.isNone then
        [.error .missingStructure "message_info.message_id" "MessageInfo/MessageID is missing"]
      else []

/-- An identification is checked by entering what it leaves to be found. -/
theorem enterMessageInfo_enters (info : Option MessageInfo) :
    (enterMessageInfo info).Enters (checkMessageInfo info) := by
  cases info with
  | none => exact enters_enter _
  | some info => exact (enters_enter _).when

namespace Profile

variable (profile : Profile)

/-- What one identifier of a party leaves to be found, where identifier types are constrained. -/
def checkPartyId (profile : Profile) (side : Side) (partyId : PartyId) : Findings :=
  match partyId.idType with
  | none =>
      [.error .missingStructure (side.field ++ ".party_ids.type")
        ("PartyInfo/" ++ side.word ++ " PartyID " ++ partyId.value ++ " has no type; the " ++
          profile.displayName ++ " profile requires one of: " ++
          ", ".intercalate profile.allowedPartyIdTypes)]
  | some idType =>
      if profile.allowedPartyIdTypes.contains idType then []
      else
        [.error .valueMismatch (side.field ++ ".party_ids.type")
          ("PartyInfo/" ++ side.word ++ " PartyID type " ++ idType ++ profile.notAllowed)]

/-- An identifier of a party is checked by entering what it leaves to be found. -/
theorem enterPartyId_enters (side : Side) (partyId : PartyId) :
    (profile.enterPartyId side partyId).Enters (profile.checkPartyId side partyId) := by
  unfold enterPartyId checkPartyId
  cases partyId.idType with
  | none => exact enters_enter _
  | some idType => exact (enters_enter _).whenNot

/-- What one side of a user message leaves to be found. -/
def checkSide (profile : Profile) (side : Side) (block : Option PartyBlock) : Findings :=
  match block with
  | none =>
      [.error .missingStructure side.field ("PartyInfo/" ++ side.word ++ " is missing")]
  | some block =>
      let count := block.partyIds.length
      (if profile.singlePartyId ∧ count ≠ 1 then
        [.error .cardinality (side.field ++ ".party_ids")
          ("PartyInfo/" ++ side.word ++ " contains " ++ toString count ++
            " PartyIDs; Only 1 PartyID is allowed")]
      else []) ++
        if profile.allowedPartyIdTypes.isEmpty then []
        else block.partyIds.flatMap (profile.checkPartyId side)

/-- A side is checked by entering what it leaves to be found. -/
theorem enterSide_enters (side : Side) (block : Option PartyBlock) :
    (profile.enterSide side block).Enters (profile.checkSide side block) := by
  cases block with
  | none => exact enters_enter _
  | some block =>
    unfold enterSide checkSide
    refine Enters.seq ?count ?ids
    case count => exact (enters_enter _).when
    case ids => exact (Enters.forM block.partyIds (profile.enterPartyId_enters side)).whenNot

/-- What the parties of a user message leave to be found. -/
def checkPartyInfo (profile : Profile) (message : UserMessage) : Findings :=
  match message.partyInfo with
  | none => [.error .missingStructure "party_info" "PartyInfo is missing"]
  | some info => profile.checkSide .sender info.sender ++ profile.checkSide .receiver info.receiver

/-- The parties are checked by entering what they leave to be found. -/
theorem enterPartyInfo_enters (message : UserMessage) :
    (profile.enterPartyInfo message).Enters (profile.checkPartyInfo message) := by
  unfold enterPartyInfo checkPartyInfo
  cases message.partyInfo with
  | none => exact enters_enter _
  | some info =>
    exact (profile.enterSide_enters .sender info.sender).seq
      (profile.enterSide_enters .receiver info.receiver)

/-- What the properties of a user message leave to be found. -/
def checkProperties (profile : Profile) (message : UserMessage) : Findings :=
  profile.requiredProperties.flatMap fun name =>
    if (message.property? name).isNone then
      [.error .missingStructure ("message_properties." ++ name)
        ("MessageProperties is missing the mandatory property " ++ name)]
    else []

/-- The properties are checked by entering what they leave to be found. -/
theorem enterProperties_enters (message : UserMessage) :
    (profile.enterProperties message).Enters (profile.checkProperties message) :=
  Enters.forM profile.requiredProperties fun _ => (enters_enter _).when

/-- What the service of a user message leaves to be found. -/
def checkMessageService (profile : Profile) (message : UserMessage) : Findings :=
  match message.collaboration.bind CollaborationInfo.service with
  | none => []
  | some service =>
      if profile.allowsService service then []
      else
        [.error .valueMismatch "collaboration_info.service"
          ("CollaborationInfo/Service " ++ service ++ profile.notAllowed)]

/-- The service is checked by entering what it leaves to be found. -/
theorem enterMessageService_enters (message : UserMessage) :
    (profile.enterMessageService message).Enters (profile.checkMessageService message) := by
  unfold enterMessageService checkMessageService
  cases message.collaboration.bind CollaborationInfo.service with
  | none => exact enters_pure
  | some service => exact (enters_enter _).whenNot

/-- All rules for a user message enter what each of them leaves to be found. -/
theorem enterUserMessageRules_enters (message : UserMessage) :
    (profile.enterUserMessageRules message).Enters
      (checkMessageInfo message.messageInfo ++ profile.checkPartyInfo message ++
        profile.checkProperties message ++ profile.checkMessageService message) := by
  simp only [List.append_assoc]
  exact (enterMessageInfo_enters message.messageInfo).seq <|
    (profile.enterPartyInfo_enters message).seq <|
    (profile.enterProperties_enters message).seq <|
    profile.enterMessageService_enters message

/-- What is found on a user message is what its rules leave to be found. -/
theorem checkUserMessage_eq (message : UserMessage) :
    profile.checkUserMessage message =
      checkMessageInfo message.messageInfo ++ profile.checkPartyInfo message ++
        profile.checkProperties message ++ profile.checkMessageService message :=
  ((profile.enterUserMessageRules_enters message).counting _).found_eq

/-- A user message is checked by adding what is found on it, and the event that says so. -/
theorem enterUserMessage_adds (message : UserMessage) :
    (profile.enterUserMessage message).Adds (profile.checkUserMessage message)
      [.userMessageChecked profile.id.text (profile.checkUserMessage message).length] := by
  rw [profile.checkUserMessage_eq]
  exact (profile.enterUserMessageRules_enters message).counting _

/-- What the signal of a signal message leaves to be found. -/
def checkSignal (profile : Profile) (message : SignalMessage) : Findings :=
  match message.signal with
  | none => [.error .missingStructure "signal" "SignalMessage has no signal content"]
  | some (.pullRequest _) =>
      if profile.allowedBindings.any Binding.involvesPull then []
      else
        [.error .valueMismatch "signal"
          ("PullRequest signals are not supported by the " ++ profile.displayName ++ " profile")]
  | some (.receipt nonRepudiation) =>
      if profile.nonRepudiation = .equals true ∧ nonRepudiation = false then
        [.error .valueMismatch "signal.non_repudiation"
          "Receipt must carry non-repudiation information"]
      else []
  | some (.error code) =>
      if Text.isBlank code then
        [.error .missingStructure "signal.error_code" "Error signal has no error code"]
      else []

/-- A signal is checked by entering what it leaves to be found. -/
theorem enterSignal_enters (message : SignalMessage) :
    (profile.enterSignal message).Enters (profile.checkSignal message) := by
  unfold enterSignal checkSignal
  rcases message.signal with _ | _ | _ | _
  case none => exact enters_enter _
  case some.pullRequest => exact (enters_enter _).whenNot
  case some.receipt => exact (enters_enter _).when
  case some.error => exact (enters_enter _).when

/-- All rules for a signal message enter what each of them leaves to be found. -/
theorem enterSignalMessageRules_enters (message : SignalMessage) :
    (profile.enterSignalMessageRules message).Enters
      (checkMessageInfo message.messageInfo ++ profile.checkSignal message) :=
  (enterMessageInfo_enters message.messageInfo).seq (profile.enterSignal_enters message)

/-- What is found on a signal message is what its rules leave to be found. -/
theorem checkSignalMessage_eq (message : SignalMessage) :
    profile.checkSignalMessage message =
      checkMessageInfo message.messageInfo ++ profile.checkSignal message :=
  ((profile.enterSignalMessageRules_enters message).counting _).found_eq

/-- A signal message is checked by adding what is found on it, and the event that says so. -/
theorem enterSignalMessage_adds (message : SignalMessage) :
    (profile.enterSignalMessage message).Adds (profile.checkSignalMessage message)
      [.signalMessageChecked profile.id.text (profile.checkSignalMessage message).length] := by
  rw [profile.checkSignalMessage_eq]
  exact (profile.enterSignalMessageRules_enters message).counting _

end Profile

end Ebms
