import Ebms.Conformance.Mode
import Ebms.Proofs.Conformance.Rules.Leg

/-!
# What the rules for a processing mode add

The findings on a processing mode are those on its pattern, its binding, whether its legs are there,
the legs, and reception awareness, in this order. The events are one at the start, those of the
legs, and one at the end with the number of findings.
-/

namespace Ebms

open LedgerCheck (Adds Enters adds_note enters_enter enters_pure)

/-- What the legs of a processing mode leave to be found by being there or not. -/
def checkLegsPresent (mode : ProcessingMode) : Findings :=
  (if mode.leg1.isNone then [.error .missingStructure "leg1" "PMode is missing Leg 1"] else []) ++
    match mode.pattern.isTwoWay, mode.leg2.isSome with
    | true, false =>
        [.error .missingStructure "leg2" "PMode is missing Leg 2 and is specified as two-way"]
    | false, true =>
        [.error .cardinality "leg2" "PMode has a Leg 2 but is specified as one-way"]
    | _, _ => []

/-- Whether the legs are there is checked by entering what this leaves to be found. -/
theorem enterLegsPresent_enters (mode : ProcessingMode) :
    (enterLegsPresent mode).Enters (checkLegsPresent mode) := by
  unfold enterLegsPresent checkLegsPresent
  refine Enters.seq ?first ?second
  case first => exact (enters_enter _).when
  case second =>
    unfold enterSecondLeg
    cases mode.pattern.isTwoWay <;> cases mode.leg2.isSome
    case false.false | true.true => exact enters_pure
    case false.true | true.false => exact enters_enter _

namespace Profile

variable (profile : Profile)

/-- What the pattern of a processing mode leaves to be found. -/
def checkPattern (profile : Profile) (mode : ProcessingMode) : Findings :=
  if profile.allowedPatterns.contains mode.pattern then []
  else
    [.error .valueMismatch "mep"
      ("PMode MEP " ++ mode.pattern.shortText ++ profile.notAllowed ++ " (allowed: " ++
        joinTexts profile.allowedPatterns ++ ")")]

/-- A pattern is checked by entering what it leaves to be found. -/
theorem enterPattern_enters (mode : ProcessingMode) :
    (profile.enterPattern mode).Enters (profile.checkPattern mode) :=
  (enters_enter _).whenNot

/-- What the binding of a processing mode leaves to be found: it may not be allowed, and it may not
fit the pattern. -/
def checkBinding (profile : Profile) (mode : ProcessingMode) : Findings :=
  (if profile.allowedBindings.contains mode.binding then []
    else
      [.error .valueMismatch "mep_binding"
        ("PMode MEP binding " ++ mode.binding.shortText ++ profile.notAllowed ++ " (allowed: " ++
          joinTexts profile.allowedBindings ++ ")")]) ++
    if mode.binding.isTwoWay = mode.pattern.isTwoWay then []
    else
      [.error .valueMismatch "mep_binding"
        ("PMode MEP binding " ++ mode.binding.shortText ++ " cannot be used with MEP " ++
          mode.pattern.shortText)]

/-- A binding is checked by entering what it leaves to be found. -/
theorem enterBinding_enters (mode : ProcessingMode) :
    (profile.enterBinding mode).Enters (profile.checkBinding mode) := by
  unfold enterBinding checkBinding
  refine Enters.seq ?allowed ?fit
  case allowed => exact (enters_enter _).whenNot
  case fit => exact (enters_enter _).whenNot

/-- What the reception awareness of a processing mode leaves to be found. -/
def checkReception (profile : Profile) (mode : ProcessingMode) : Findings :=
  match mode.receptionAwareness with
  | none =>
      if profile.reception.required then
        [.error .missingStructure "reception_awareness" "PMode ReceptionAwareness is missing"]
      else []
  | some awareness =>
      profile.reception.enabled.check "reception_awareness.enabled" "" "ReceptionAwareness"
          awareness.enabled ++
        profile.reception.retry.check "reception_awareness.retry" "" "ReceptionAwarenessRetry"
          awareness.retry ++
        profile.reception.duplicateDetection.check "reception_awareness.duplicate_detection" ""
          "ReceptionAwarenessDuplicateDetection" awareness.duplicateDetection

/-- Reception awareness is checked by entering what it leaves to be found. -/
theorem enterReception_enters (mode : ProcessingMode) :
    (profile.enterReception mode).Enters (profile.checkReception mode) := by
  unfold enterReception checkReception
  cases mode.receptionAwareness with
  | none => exact (enters_enter _).when
  | some awareness =>
    simp only [List.append_assoc]
    exact (profile.reception.enabled.enterFlag_enters _ _ _ _).seq <|
      (profile.reception.retry.enterFlag_enters _ _ _ _).seq <|
      profile.reception.duplicateDetection.enterFlag_enters _ _ _ _

/-- What the legs of a mode leave to be found, one after the other. -/
def checkLegs (profile : Profile) (mode : ProcessingMode) : Findings :=
  mode.legs.flatMap fun numbered => profile.checkLeg numbered.1 numbered.2

/-- The events of checking the legs of a mode, one leg after the other. -/
def legsEvents (profile : Profile) (mode : ProcessingMode) : List Event :=
  mode.legs.flatMap fun numbered => profile.legEvents numbered.1 numbered.2

/-- All rules for a mode add what each of them leaves to be found, with the events of the legs. -/
theorem enterModeRules_adds (mode : ProcessingMode) :
    (profile.enterModeRules mode).Adds
      (profile.checkPattern mode ++ profile.checkBinding mode ++ checkLegsPresent mode ++
        profile.checkLegs mode ++ profile.checkReception mode)
      (profile.legsEvents mode) := by
  have hleg (numbered : Nat × Leg) :
      (profile.enterLeg numbered.1 numbered.2).Adds (profile.checkLeg numbered.1 numbered.2)
        (profile.legEvents numbered.1 numbered.2) := by
    rw [profile.checkLeg_eq]
    exact profile.enterLeg_adds numbered.1 numbered.2
  have h := Adds.seq (profile.enterPattern_enters mode) <|
    Adds.seq (profile.enterBinding_enters mode) <|
    Adds.seq (enterLegsPresent_enters mode) <|
    Adds.seq (Adds.forM mode.legs hleg) <|
    profile.enterReception_enters mode
  simpa only [enterModeRules, checkLegs, legsEvents, List.append_assoc, List.append_nil,
    List.nil_append] using h

/-- What is found on a mode is found on its pattern, on its binding, on which legs are there, on the
legs, and on its reception awareness, in this order. -/
theorem checkMode_eq (mode : ProcessingMode) :
    profile.checkMode mode =
      profile.checkPattern mode ++ profile.checkBinding mode ++ checkLegsPresent mode ++
        profile.checkLegs mode ++ profile.checkReception mode :=
  (((adds_note _).seq (profile.enterModeRules_adds mode)).counting _).found_eq

/-- A mode is checked by adding what is found on it, between its first and its last event. -/
theorem enterMode_adds (mode : ProcessingMode) :
    (profile.enterMode mode).Adds (profile.checkMode mode)
      (.checkingMode profile.id.text mode.id.text :: (profile.legsEvents mode ++
        [.modeChecked profile.id.text mode.id.text (profile.checkMode mode).length])) := by
  rw [profile.checkMode_eq]
  exact ((adds_note _).seq (profile.enterModeRules_adds mode)).counting _

end Profile

end Ebms
