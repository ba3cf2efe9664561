import Ebms.Conformance.Leg
import Ebms.ProcessingMode

/-!
# Whether a processing mode meets a profile

The pattern and the binding are checked first, then whether the legs are there that should be, then
every leg that is there, and last reception awareness. All findings are collected; none hides
another. A mode conforms when no finding refuses it. The start and the end of a check are events,
and the last one says by how many findings the ledger has grown.
-/

namespace Ebms

open LedgerCheck (enter note)

/-- The texts of some values, with commas between them. -/
def joinTexts {α : Type} [Spelled α] (values : List α) : String :=
  ", ".intercalate (values.map Spelled.text)

/-- Checks that the first leg of a processing mode is there. -/
def enterFirstLeg (mode : ProcessingMode) : LedgerCheck := do
  if mode.leg1.isNone then
    enter (.error .missingStructure "leg1" "PMode is missing Leg 1")

/-- Checks that the second leg of a processing mode is there exactly if the pattern asks for it. -/
def enterSecondLeg (mode : ProcessingMode) : LedgerCheck := do
  match mode.pattern.isTwoWay, mode.leg2.isSome with
  | true, false =>
      enter (.error .missingStructure "leg2" "PMode is missing Leg 2 and is specified as two-way")
  | false, true =>
      enter (.error .cardinality "leg2" "PMode has a Leg 2 but is specified as one-way")
  | _, _ => pure ()

/-- Checks that the legs of a processing mode are there or not, as they should be. -/
def enterLegsPresent (mode : ProcessingMode) : LedgerCheck := do
  enterFirstLeg mode
  enterSecondLeg mode

namespace Profile

/-- Checks the pattern of a processing mode. -/
def enterPattern (profile : Profile) (mode : ProcessingMode) : LedgerCheck := do
  unless profile.allowedPatterns.contains mode.pattern do
    enter (.error .valueMismatch "mep"
      ("PMode MEP " ++ mode.pattern.shortText ++ profile.notAllowed ++ " (allowed: " ++
        joinTexts profile.allowedPatterns ++ ")"))

/-- Checks that the binding of a processing mode is allowed. -/
def enterBindingAllowed (profile : Profile) (mode : ProcessingMode) : LedgerCheck := do
  unless profile.allowedBindings.contains mode.binding do
    enter (.error .valueMismatch "mep_binding"
      ("PMode MEP binding " ++ mode.binding.shortText ++ profile.notAllowed ++ " (allowed: " ++
        joinTexts profile.allowedBindings ++ ")"))

/-- Checks that the binding of a processing mode fits its pattern. -/
def enterBindingFit (mode : ProcessingMode) : LedgerCheck := do
  unless mode.binding.isTwoWay = mode.pattern.isTwoWay do
    enter (.error .valueMismatch "mep_binding"
      ("PMode MEP binding " ++ mode.binding.shortText ++ " cannot be used with MEP " ++
        mode.pattern.shortText))

/-- Checks the binding of a processing mode. -/
def enterBinding (profile : Profile) (mode : ProcessingMode) : LedgerCheck := do
  profile.enterBindingAllowed mode
  enterBindingFit mode

/-- Checks the reception awareness of a processing mode. -/
def enterReception (profile : Profile) (mode : ProcessingMode) : LedgerCheck := do
  match mode.receptionAwareness with
  | none =>
      if profile.reception.required then
        enter (.error .missingStructure "reception_awareness"
          "PMode ReceptionAwareness is missing")
  | some awareness =>
      profile.reception.enabled.enterFlag "reception_awareness.enabled" "" "ReceptionAwareness"
        awareness.enabled
      profile.reception.retry.enterFlag "reception_awareness.retry" "" "ReceptionAwarenessRetry"
        awareness.retry
      profile.reception.duplicateDetection.enterFlag "reception_awareness.duplicate_detection" ""
        "ReceptionAwarenessDuplicateDetection" awareness.duplicateDetection

/-- Makes every check on a processing mode, in order. -/
def enterModeRules (profile : Profile) (mode : ProcessingMode) : LedgerCheck := do
  profile.enterPattern mode
  profile.enterBinding mode
  enterLegsPresent mode
  mode.legs.forM fun (number, leg) => profile.enterLeg number leg
  profile.enterReception mode

/-- Checks a processing mode. -/
def enterMode (profile : Profile) (mode : ProcessingMode) : LedgerCheck :=
  LedgerCheck.counting
    (do
      note (.checkingMode profile.id.text mode.id.text)
      profile.enterModeRules mode)
    (.modeChecked profile.id.text mode.id.text)

/-- What is found on a processing mode. -/
def checkMode (profile : Profile) (mode : ProcessingMode) : Findings :=
  (profile.enterMode mode).found

/-- The events of checking a processing mode. -/
def modeEvents (profile : Profile) (mode : ProcessingMode) : List Event :=
  (profile.enterMode mode).noted

/-- A check on an empty ledger leaves what is found on the mode, and the events of checking it. -/
@[simp] theorem enterMode_after_empty (profile : Profile) (mode : ProcessingMode) :
    (profile.enterMode mode).after {} =
      { findings := profile.checkMode mode, events := profile.modeEvents mode } :=
  rfl

/-- A processing mode conforms when no finding refuses it. -/
def Accepts (profile : Profile) (mode : ProcessingMode) : Prop :=
  (profile.checkMode mode).hasErrors = false

instance (profile : Profile) (mode : ProcessingMode) : Decidable (profile.Accepts mode) := by
  unfold Accepts
  infer_instance

end Profile

end Ebms
