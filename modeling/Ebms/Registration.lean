import Ebms.Conformance.Mode
import Ebms.Profile.Proposal
import Ebms.Store.Basic
import Ebms.Timestamp.Basic

/-!
# Registration

A processing mode is registered when its structure is sound and no finding of the profile refuses
it. Whether it is kept in a store is decided with every registration. A mode that is refused, or
not to be kept, leaves the store as it is.
-/

namespace Ebms

/-- A processing mode that was let in. -/
structure Registration where
  mode : ProcessingMode
  /-- The findings that did not refuse it. -/
  warnings : Findings
  persisted : Bool
  registeredAt : Timestamp
  deriving DecidableEq, Repr

/-- Why a processing mode was not let in or not found. -/
inductive RegistrationError where
  | defect (defect : Defect)
  | violations (violations : Violations)
  | store (error : StoreError)
  deriving DecidableEq, Repr

/-- The wish for a processing mode that a profile proposes. -/
structure CreationRequest where
  initiator : String
  responder : String
  address : String
  pattern : Pattern := .oneWay
  persist : Bool := false
  deriving DecidableEq, Repr

/-- A profile by which modes are let in, and the time it is. -/
structure Registrar where
  profile : Profile
  now : Timestamp

namespace Registrar

variable {σ : Type} [Repository σ]

/-- Keeps a processing mode that was let in with some warnings. -/
def persist (registrar : Registrar) (store : σ) (mode : ProcessingMode) (warnings : Findings) :
    Outcome σ RegistrationError Registration :=
  let saved := Repository.save store mode
  match saved.result with
  | .error error =>
      { result := .error (.store error), state := saved.state, events := saved.events }
  | .ok () =>
      { result := .ok ⟨mode, warnings, true, registrar.now⟩
        state := saved.state
        events := saved.events ++
          [.modePersisted registrar.profile.id.text mode.id.text warnings.length] }

/-- Lets a processing mode in, and keeps it if that is wanted. It is checked on a ledger of its
own. -/
def register (registrar : Registrar) (store : σ) (mode : ProcessingMode) (keep : Bool) :
    Outcome σ RegistrationError Registration :=
  match mode.checkStructure with
  | .error defect => { result := .error (.defect defect), state := store }
  | .ok () =>
      let ledger := (registrar.profile.enterMode mode).after {}
      match ledger.findings.verdict with
      | .error violations =>
          { result := .error (.violations violations)
            state := store
            events := ledger.events ++ [.modeRejected registrar.profile.id.text mode.id.text
              violations.findings.length] }
      | .ok warnings =>
          if keep then
            let kept := registrar.persist store mode warnings
            { kept with events := ledger.events ++ kept.events }
          else
            { result := .ok ⟨mode, warnings, false, registrar.now⟩
              state := store
              events := ledger.events }

section Register

variable (registrar : Registrar) (store : σ) {mode : ProcessingMode} (keep : Bool)

/-- A mode with a defect in its structure is refused for the defect and not checked. -/
theorem register_of_unsound {defect : Defect} (h : mode.checkStructure = .error defect) :
    registrar.register store mode keep =
      { result := .error (.defect defect), state := store } := by
  rw [register, h]

/-- A mode that is sound in structure and not accepted is refused with everything that is found on
it. -/
theorem register_of_refused (hsound : mode.checkStructure = .ok ())
    (h : ¬registrar.profile.Accepts mode) :
    registrar.register store mode keep =
      { result := .error (.violations ⟨registrar.profile.checkMode mode⟩)
        state := store
        events := registrar.profile.modeEvents mode ++
          [.modeRejected registrar.profile.id.text mode.id.text
            (registrar.profile.checkMode mode).length] } := by
  have hverdict : Findings.verdict (registrar.profile.checkMode mode) =
      .error ⟨registrar.profile.checkMode mode⟩ :=
    if_pos (Bool.not_eq_false _ ▸ h)
  simp only [register, hsound, Profile.enterMode_after_empty, hverdict]

/-- A mode that is sound in structure and accepted is let in with everything that is found on it,
and kept if that is wanted. -/
theorem register_of_accepted (hsound : mode.checkStructure = .ok ())
    (h : registrar.profile.Accepts mode) :
    registrar.register store mode keep =
      if keep then
        let kept := registrar.persist store mode (registrar.profile.checkMode mode)
        { kept with events := registrar.profile.modeEvents mode ++ kept.events }
      else
        { result := .ok ⟨mode, registrar.profile.checkMode mode, false, registrar.now⟩
          state := store
          events := registrar.profile.modeEvents mode } := by
  have hverdict : Findings.verdict (registrar.profile.checkMode mode) =
      .ok (registrar.profile.checkMode mode) :=
    if_neg (Bool.not_eq_true _ ▸ h)
  simp only [register, hsound, Profile.enterMode_after_empty, hverdict]

end Register

/-- Lets in the processing mode that the profile proposes. -/
def create (registrar : Registrar) (store : σ) (request : CreationRequest) (naming : Naming) :
    Outcome σ RegistrationError Registration :=
  match registrar.profile.propose request.pattern naming request.initiator request.responder
      request.address with
  | .error defect => { result := .error (.defect defect), state := store }
  | .ok mode => registrar.register store mode request.persist

/-- The processing mode under an identifier, if there is one. -/
def find (store : σ) (id : ModeId) : Except RegistrationError (Option ProcessingMode) :=
  match Repository.find store id with
  | .ok found => .ok found
  | .error error => .error (.store error)

/-- The processing mode under an identifier, which is expected to be there. -/
def get (store : σ) (id : ModeId) : Except RegistrationError ProcessingMode :=
  match Repository.find store id with
  | .ok (some mode) => .ok mode
  | .ok none => .error (.store (.notFound id))
  | .error error => .error (.store error)

end Registrar

end Ebms
