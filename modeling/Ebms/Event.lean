/-!
# Events

What is worth a line in a log: the start and the end of a check, every piece of advice, a refusal,
and every processing mode that is kept.
-/

namespace Ebms

/-- How much an event matters. -/
inductive EventLevel where
  | debug
  | info
  | warn
  deriving DecidableEq, Repr

/-- Something worth a line in a log. -/
inductive Event where
  | checkingMode (profile mode : String)
  | advice (profile field issue : String)
  | modeChecked (profile mode : String) (findings : Nat)
  | userMessageChecked (profile : String) (findings : Nat)
  | signalMessageChecked (profile : String) (findings : Nat)
  | modeRejected (profile mode : String) (violations : Nat)
  | documentStored (mode file : String)
  | modePersisted (profile mode : String) (warnings : Nat)
  deriving DecidableEq, Repr

namespace Event

/-- How much an event matters. -/
def level : Event → EventLevel
  | .advice .. | .modeRejected .. => .warn
  | .modePersisted .. => .info
  | _ => .debug

/-- The message of an event. -/
def message : Event → String
  | .checkingMode .. => "validating PMode"
  | .advice .. => "advisory PMode finding"
  | .modeChecked .. => "PMode validation finished"
  | .userMessageChecked .. => "user message validation finished"
  | .signalMessageChecked .. => "signal message validation finished"
  | .modeRejected .. => "PMode rejected by profile"
  | .documentStored .. => "stored PMode document"
  | .modePersisted .. => "PMode persisted"

/-- The named details of an event. -/
def details : Event → List (String × String)
  | .checkingMode profile mode => [("profile", profile), ("pmode_id", mode)]
  | .advice profile field issue => [("profile", profile), ("field", field), ("issue", issue)]
  | .modeChecked profile mode findings =>
      [("profile", profile), ("pmode_id", mode), ("findings", toString findings)]
  | .userMessageChecked profile findings | .signalMessageChecked profile findings =>
      [("profile", profile), ("findings", toString findings)]
  | .modeRejected profile mode violations =>
      [("profile", profile), ("pmode_id", mode), ("violations", toString violations)]
  | .documentStored mode file => [("pmode_id", mode), ("file", file)]
  | .modePersisted profile mode warnings =>
      [("profile", profile), ("pmode_id", mode), ("warnings", toString warnings)]

end Event

end Ebms
