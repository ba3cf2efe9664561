/-!
# Defects of an agreement

What keeps a processing mode, or a part of one, from being made or kept, whatever profile it is
meant for.
-/

namespace Ebms

/-- The side that a party stands on, as far as it is known. -/
inductive Participant where
  | party
  | initiator
  | responder
  deriving DecidableEq, Repr

/-- The word for a side. -/
def Participant.word : Participant → String
  | .party => "party"
  | .initiator => "initiator"
  | .responder => "responder"

/-- Why a processing mode, or a part of one, is refused. -/
inductive Defect where
  | blankModeId
  | blankProfileId
  | blankPartyId (participant : Participant)
  | blankAddress
  | missingLeg1 (mode : String)
  | missingLeg2 (mode : String)
  | unexpectedLeg2 (mode : String)
  /-- A profile does not offer an exchange of some pattern. -/
  | unsupportedExchange (profile pattern : String)
  deriving DecidableEq, Repr

/-- The wording of a defect. -/
def Defect.message : Defect → String
  | .blankModeId => "PMode identifier must not be empty"
  | .blankProfileId => "profile identifier must not be empty"
  | .blankPartyId participant => participant.word ++ " identifier must not be empty"
  | .blankAddress => "responder address must not be empty"
  | .missingLeg1 mode => "PMode " ++ mode ++ " is missing leg 1"
  | .missingLeg2 mode => "PMode " ++ mode ++ " is two-way but leg 2 is missing"
  | .unexpectedLeg2 mode => "PMode " ++ mode ++ " is one-way but leg 2 is present"
  | .unsupportedExchange profile pattern =>
      "profile " ++ profile ++ " does not support the " ++ pattern ++ " exchange pattern"

end Ebms
