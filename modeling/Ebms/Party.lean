import Ebms.Defect
import Ebms.Identifier
import Ebms.Json.Record

/-!
# Parties of an exchange

A party has an identifier, perhaps of some type, and a role. The type and the identifier together
are its full identifier. A party that is made from texts has no white space around either; one that
is read from a document holds what the document says.
-/

namespace Ebms

/-- The role of an initiator, unless an agreement says otherwise. -/
def defaultInitiatorRole : String :=
  "http://docs.oasis-open.org/ebxml-msg/ebms/v3.0/ns/core/200704/initiator"

/-- The role of a responder, unless an agreement says otherwise. -/
def defaultResponderRole : String :=
  "http://docs.oasis-open.org/ebxml-msg/ebms/v3.0/ns/core/200704/responder"

/-- An initiator or a responder. -/
structure Party where
  idType : Option String := none
  idValue : String
  role : String
  deriving DecidableEq, Repr

namespace Party

/-- The party with an identifier and a role, without a type. -/
def ofId (idValue role : String) : Except Defect Party :=
  if Text.isBlank idValue then .error (.blankPartyId .party)
  else .ok { idValue := Text.trim idValue, role }

/-- The party with another type of identifier; a blank type is none. -/
def withIdType (party : Party) (idType : String) : Party :=
  { party with idType := if Text.isBlank idType then none else some (Text.trim idType) }

/-- The type and the identifier of a party. -/
def fullId (party : Party) : String :=
  match party.idType with
  | some idType => idType ++ ":" ++ party.idValue
  | none => party.idValue

/-- Whether the identifier says nothing. -/
def hasBlankId (party : Party) : Bool :=
  Text.isBlank party.idValue

/-- The members of a party. -/
def record : Json.Record (Option String × String × String × Unit) :=
  .member (.optional "id_type" .text) <|
  .member (.required "id_value" .text) <|
  .member (.required "role" .text)
  .done

/-- Parties are records. -/
def codec : Json.Codec Party :=
  record.codec (fun p => (p.idType, p.idValue, p.role, ()))
    fun (idType, idValue, role, ()) => ⟨idType, idValue, role⟩

end Party

end Ebms
