import Ebms.Conformance.Ledger
import Ebms.Message.Signal
import Ebms.Message.User
import Ebms.Profile.Basic

/-!
# Whether a message meets a profile

A user message is checked for its identification, its parties, its properties and its service; a
signal message for its identification and its signal. Every finding refuses. The end of a check is
an event that says by how many findings the ledger has grown.
-/

namespace Ebms

open LedgerCheck (enter)

/-- Checks the identification of a message. -/
def enterMessageInfo (info : Option MessageInfo) : LedgerCheck := do
  match info with
  | none => enter (.error .missingStructure "message_info" "MessageInfo is missing")
  | some info =>
      if info.nonblankId?.isNone then
        enter (.error .missingStructure "message_info.message_id"
          "MessageInfo/MessageID is missing")

/-- The sender or the receiver of a user message. -/
inductive Side where
  | sender
  | receiver
  deriving DecidableEq, Repr

/-- The word for a side in a message. -/
def Side.word : Side → String
  | .sender => "From"
  | .receiver => "To"

/-- The path of a side. -/
def Side.field : Side → String
  | .sender => "party_info.from"
  | .receiver => "party_info.to"

namespace Profile

/-- Checks one identifier of a party against the identifier types that are allowed. -/
def enterPartyId (profile : Profile) (side : Side) (partyId : PartyId) : LedgerCheck := do
  match partyId.idType with
  | none =>
      enter (.error .missingStructure (side.field ++ ".party_ids.type")
        ("PartyInfo/" ++ side.word ++ " PartyID " ++ partyId.value ++ " has no type; the " ++
          profile.displayName ++ " profile requires one of: " ++
          ", ".intercalate profile.allowedPartyIdTypes))
  | some idType =>
      unless profile.allowedPartyIdTypes.contains idType do
        enter (.error .valueMismatch (side.field ++ ".party_ids.type")
          ("PartyInfo/" ++ side.word ++ " PartyID type " ++ idType ++ profile.notAllowed))

/-- Checks how many identifiers a party has. -/
def enterPartyIdCount (profile : Profile) (side : Side) (block : PartyBlock) : LedgerCheck := do
  let count := block.partyIds.length
  if profile.singlePartyId ∧ count ≠ 1 then
    enter (.error .cardinality (side.field ++ ".party_ids")
      ("PartyInfo/" ++ side.word ++ " contains " ++ toString count ++
        " PartyIDs; Only 1 PartyID is allowed"))

/-- Checks the identifiers of a party, where identifier types are constrained. -/
def enterPartyIds (profile : Profile) (side : Side) (block : PartyBlock) : LedgerCheck := do
  unless profile.allowedPartyIdTypes.isEmpty do
    block.partyIds.forM (profile.enterPartyId side)

/-- Checks one side of a user message. -/
def enterSide (profile : Profile) (side : Side) (block : Option PartyBlock) : LedgerCheck := do
  match block with
  | none =>
      enter (.error .missingStructure side.field ("PartyInfo/" ++ side.word ++ " is missing"))
  | some block =>
      profile.enterPartyIdCount side block
      profile.enterPartyIds side block

/-- Checks the parties of a user message. -/
def enterPartyInfo (profile : Profile) (message : UserMessage) : LedgerCheck := do
  match message.partyInfo with
  | none => enter (.error .missingStructure "party_info" "PartyInfo is missing")
  | some info =>
      profile.enterSide .sender info.sender
      profile.enterSide .receiver info.receiver

/-- Checks the properties of a user message. -/
def enterProperties (profile : Profile) (message : UserMessage) : LedgerCheck :=
  profile.requiredProperties.forM fun name => do
    if (message.property? name).isNone then
      enter (.error .missingStructure ("message_properties." ++ name)
        ("MessageProperties is missing the mandatory property " ++ name))

/-- Checks the service of a user message. -/
def enterMessageService (profile : Profile) (message : UserMessage) : LedgerCheck := do
  match message.collaboration.bind CollaborationInfo.service with
  | none => pure ()
  | some service =>
      unless profile.allowsService service do
        enter (.error .valueMismatch "collaboration_info.service"
          ("CollaborationInfo/Service " ++ service ++ profile.notAllowed))

/-- Makes every check on a user message, in order. -/
def enterUserMessageRules (profile : Profile) (message : UserMessage) : LedgerCheck := do
  enterMessageInfo message.messageInfo
  profile.enterPartyInfo message
  profile.enterProperties message
  profile.enterMessageService message

/-- Checks a user message. -/
def enterUserMessage (profile : Profile) (message : UserMessage) : LedgerCheck :=
  (profile.enterUserMessageRules message).counting (.userMessageChecked profile.id.text)

/-- What is found on a user message. -/
def checkUserMessage (profile : Profile) (message : UserMessage) : Findings :=
  (profile.enterUserMessage message).found

/-- Checks the signal of a signal message. -/
def enterSignal (profile : Profile) (message : SignalMessage) : LedgerCheck := do
  match message.signal with
  | none => enter (.error .missingStructure "signal" "SignalMessage has no signal content")
  | some (.pullRequest _) =>
      unless profile.allowedBindings.any Binding.involvesPull do
        enter (.error .valueMismatch "signal"
          ("PullRequest signals are not supported by the " ++ profile.displayName ++ " profile"))
  | some (.receipt nonRepudiation) =>
      if profile.nonRepudiation = .equals true ∧ nonRepudiation = false then
        enter (.error .valueMismatch "signal.non_repudiation"
          "Receipt must carry non-repudiation information")
  | some (.error code) =>
      if Text.isBlank code then
        enter (.error .missingStructure "signal.error_code" "Error signal has no error code")

/-- Makes every check on a signal message, in order. -/
def enterSignalMessageRules (profile : Profile) (message : SignalMessage) : LedgerCheck := do
  enterMessageInfo message.messageInfo
  profile.enterSignal message

/-- Checks a signal message. -/
def enterSignalMessage (profile : Profile) (message : SignalMessage) : LedgerCheck :=
  (profile.enterSignalMessageRules message).counting (.signalMessageChecked profile.id.text)

/-- What is found on a signal message. -/
def checkSignalMessage (profile : Profile) (message : SignalMessage) : Findings :=
  (profile.enterSignalMessage message).found

end Profile

end Ebms
