import Ebms.Conformance.Ledger
import Ebms.Profile.Basic

/-!
# Whether a flag meets a requirement

A flag that must be defined and is not is one finding; a flag that is defined and has the wrong
value is another. A flag that is not required is not looked at.
-/

namespace Ebms

open LedgerCheck (enter)

/-- A truth value at the start of a message word. -/
def titleWord : Bool → String
  | true => "True"
  | false => "False"

/-- Checks a flag at some place. The message starts with `lead` and names the flag `name`. -/
def Requirement.enterFlag (requirement : Requirement) (field lead name : String) (flag : Flag) :
    LedgerCheck := do
  match requirement, flag with
  | .unchecked, _ => pure ()
  | _, .undefined =>
      enter (.error .mandatoryUnset field (lead ++ name ++ " is a mandatory PMode parameter"))
  | .defined, .set _ => pure ()
  | .equals wanted, .set actual =>
      unless wanted = actual do
        enter (.error .valueMismatch field
          (lead ++ "PMode " ++ name ++ " has to be " ++ titleWord wanted ++ " (expected " ++
            (Flag.set wanted).word ++ ", found " ++ (Flag.set actual).word ++ ")"))

end Ebms
