import Ebms.Message.Info

/-!
# Headers of user messages

The parts of the header of a user message that a profile looks at: who sends it to whom, what it is
about, and its named properties. Every part may be missing, and a block may name several parties.
-/

namespace Ebms

open Json (Codec Record)

/-- An identifier of a party in a message, perhaps of some type. -/
structure PartyId where
  idType : Option String := none
  value : String
  deriving DecidableEq, Repr

namespace PartyId

/-- The members of a party identifier. -/
def record : Record (Option String × String × Unit) :=
  .member (.optional "type" .text) <|
  .member (.required "value" .text)
  .done

/-- Party identifiers are records. -/
def codec : Codec PartyId :=
  record.codec (fun p => (p.idType, p.value, ())) fun (idType, value, ()) => ⟨idType, value⟩

end PartyId

/-- The sender or the receiver of a user message. -/
structure PartyBlock where
  partyIds : List PartyId := []
  role : Option String := none
  deriving DecidableEq, Repr

namespace PartyBlock

/-- The members of a party block. -/
def record : Record (List PartyId × Option String × Unit) :=
  .member (.defaulted "party_ids" PartyId.codec.list []) <|
  .member (.optional "role" .text)
  .done

/-- Party blocks are records. -/
def codec : Codec PartyBlock :=
  record.codec (fun b => (b.partyIds, b.role, ())) fun (partyIds, role, ()) => ⟨partyIds, role⟩

end PartyBlock

/-- Who sends a user message to whom. -/
structure PartyInfo where
  sender : Option PartyBlock := none
  receiver : Option PartyBlock := none
  deriving DecidableEq, Repr

namespace PartyInfo

/-- The members of a party info block. -/
def record : Record (Option PartyBlock × Option PartyBlock × Unit) :=
  .member (.optional "from" PartyBlock.codec) <|
  .member (.optional "to" PartyBlock.codec)
  .done

/-- Party info blocks are records. -/
def codec : Codec PartyInfo :=
  record.codec (fun i => (i.sender, i.receiver, ())) fun (sender, receiver, ()) =>
    ⟨sender, receiver⟩

end PartyInfo

/-- What a user message is about. -/
structure CollaborationInfo where
  agreementRef : Option String := none
  service : Option String := none
  serviceType : Option String := none
  action : Option String := none
  conversationId : Option String := none
  deriving DecidableEq, Repr

namespace CollaborationInfo

/-- The members of a collaboration block. -/
def record : Record (Option String × Option String × Option String × Option String ×
    Option String × Unit) :=
  .member (.optional "agreement_ref" .text) <|
  .member (.optional "service" .text) <|
  .member (.optional "service_type" .text) <|
  .member (.optional "action" .text) <|
  .member (.optional "conversation_id" .text)
  .done

/-- Collaboration blocks are records. -/
def codec : Codec CollaborationInfo :=
  record.codec
    (fun i => (i.agreementRef, i.service, i.serviceType, i.action, i.conversationId, ()))
    fun (agreementRef, service, serviceType, action, conversationId, ()) =>
      ⟨agreementRef, service, serviceType, action, conversationId⟩

end CollaborationInfo

/-- A named property of a user message. -/
structure MessageProperty where
  name : String
  value : String
  propertyType : Option String := none
  deriving DecidableEq, Repr

namespace MessageProperty

/-- The members of a property. -/
def record : Record (String × String × Option String × Unit) :=
  .member (.required "name" .text) <|
  .member (.required "value" .text) <|
  .member (.optional "type" .text)
  .done

/-- Properties are records. -/
def codec : Codec MessageProperty :=
  record.codec (fun p => (p.name, p.value, p.propertyType, ()))
    fun (name, value, propertyType, ()) => ⟨name, value, propertyType⟩

end MessageProperty

/-- The header of a user message. -/
structure UserMessage where
  messageInfo : Option MessageInfo := none
  partyInfo : Option PartyInfo := none
  collaboration : Option CollaborationInfo := none
  properties : List MessageProperty := []
  /-- The message partition channel. -/
  channel : Option String := none
  deriving DecidableEq, Repr

namespace UserMessage

/-- The value of the first property of some name. -/
def property? (message : UserMessage) (name : String) : Option String :=
  (message.properties.find? fun property => property.name == name).map MessageProperty.value

/-- The members of a user message. -/
def record : Record (Option MessageInfo × Option PartyInfo × Option CollaborationInfo ×
    List MessageProperty × Option String × Unit) :=
  .member (.optional "message_info" MessageInfo.codec) <|
  .member (.optional "party_info" PartyInfo.codec) <|
  .member (.optional "collaboration_info" CollaborationInfo.codec) <|
  .member (.listed "message_properties" MessageProperty.codec) <|
  .member (.optional "mpc" .text)
  .done

/-- User messages are records. -/
def codec : Codec UserMessage :=
  record.codec
    (fun m => (m.messageInfo, m.partyInfo, m.collaboration, m.properties, m.channel, ()))
    fun (messageInfo, partyInfo, collaboration, properties, channel, ()) =>
      ⟨messageInfo, partyInfo, collaboration, properties, channel⟩

end UserMessage

end Ebms
