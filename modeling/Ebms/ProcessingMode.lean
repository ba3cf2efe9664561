import Ebms.Exchange
import Ebms.Leg
import Ebms.Party
import Ebms.Reception

/-!
# Processing modes

A processing mode is what an initiator and a responder agree on for their exchange. It is sound in
structure when both parties have an identifier, the first leg is there, and the second leg is there
exactly when the exchange goes two ways. Legs and blocks may be replaced freely before that is
checked.
-/

namespace Ebms

open Json (Codec Record)

/-- The agreement that generated processing modes refer to. -/
def defaultAgreement : String :=
  "urn:as4:agreement"

/-- What an initiator and a responder agree on. -/
structure ProcessingMode where
  id : ModeId
  initiator : Party
  responder : Party
  agreement : Option String := none
  pattern : Pattern
  binding : Binding
  leg1 : Option Leg
  leg2 : Option Leg := none
  payloadService : Option PayloadService := none
  receptionAwareness : Option ReceptionAwareness := none
  deriving DecidableEq, Repr

namespace ProcessingMode

/-- The legs that are there, with their numbers. -/
def legs (mode : ProcessingMode) : List (Nat × Leg) :=
  (mode.leg1.map fun leg => (1, leg)).toList ++ (mode.leg2.map fun leg => (2, leg)).toList

/-- The first defect in the structure of a processing mode: a blank party, a missing first leg, a
second leg that is missing or should not be there. -/
def checkStructure (mode : ProcessingMode) : Except Defect Unit :=
  if mode.initiator.hasBlankId then .error (.blankPartyId .initiator)
  else if mode.responder.hasBlankId then .error (.blankPartyId .responder)
  else if mode.leg1.isNone then .error (.missingLeg1 mode.id.text)
  else
    match mode.pattern.isTwoWay, mode.leg2.isSome with
    | true, false => .error (.missingLeg2 mode.id.text)
    | false, true => .error (.unexpectedLeg2 mode.id.text)
    | _, _ => .ok ()

/-- The members of a processing mode. -/
def record : Record (ModeId × Party × Party × Option String × Pattern × Binding × Option Leg ×
    Option Leg × Option PayloadService × Option ReceptionAwareness × Unit) :=
  .member (.required "id" ModeId.codec) <|
  .member (.required "initiator" Party.codec) <|
  .member (.required "responder" Party.codec) <|
  .member (.optional "agreement" .text) <|
  .member (.required "mep" .named) <|
  .member (.required "mep_binding" .named) <|
  .member (.nullable "leg1" Leg.codec) <|
  .member (.optional "leg2" Leg.codec) <|
  .member (.optional "payload_service" PayloadService.codec) <|
  .member (.optional "reception_awareness" ReceptionAwareness.codec)
  .done

/-- Processing modes are records. -/
def codec : Codec ProcessingMode :=
  record.codec
    (fun m => (m.id, m.initiator, m.responder, m.agreement, m.pattern, m.binding, m.leg1, m.leg2,
      m.payloadService, m.receptionAwareness, ()))
    fun (id, initiator, responder, agreement, pattern, binding, leg1, leg2, payloadService,
        receptionAwareness, ()) =>
      ⟨id, initiator, responder, agreement, pattern, binding, leg1, leg2, payloadService,
        receptionAwareness⟩

end ProcessingMode

end Ebms
