import Ebms.Proofs.Conformance.Place
import Ebms.Proofs.Store.Memory
import Ebms.Registration

/-!
# What a registrar lets into a store

A registrar is called again and again, at one time after another, to let in a mode or to make one
and let it in. Every call ends in one of five ways, and only one of them touches the store: the mode
is sound in structure, no finding refuses it, and it is to be kept.

From this follows what holds after any calls. The store is never the reason for a failure, because
it refuses nothing that was let in, and it holds only modes that the profile accepts, each under its
own identifier.
-/

namespace Ebms

open Findings (hasErrors_eq_false_iff)

/-- What can be asked of a registrar: to let in a mode, or to make one and let it in. -/
inductive RegistrarCall where
  | register (mode : ProcessingMode) (keep : Bool)
  | create (request : CreationRequest) (naming : Naming)

namespace RegistrarCall

/-- Whether the mode is to be kept. -/
def keep : RegistrarCall → Bool
  | register _ keep => keep
  | create request _ => request.persist

/-- The mode that is to be let in, or the defect for which none can be made. -/
def brought (profile : Profile) : RegistrarCall → Except Defect ProcessingMode
  | register mode _ => .ok mode
  | create request naming =>
      profile.propose request.pattern naming request.initiator request.responder request.address

end RegistrarCall

/-- The answer of a registrar to a call. -/
def Registrar.answer {σ : Type} [Repository σ] (registrar : Registrar) (store : σ) :
    RegistrarCall → Outcome σ RegistrationError Registration
  | .register mode keep => registrar.register store mode keep
  | .create request naming => registrar.create store request naming

/-- The store after calls at some times, all answered by one profile. -/
def Profile.afterCalls {σ : Type} [Repository σ] (profile : Profile) (store : σ) :
    List (Timestamp × RegistrarCall) → σ
  | [] => store
  | (now, call) :: calls =>
      profile.afterCalls (Registrar.answer ⟨profile, now⟩ store call).state calls

/-- The store in memory after calls at some times, all answered by one profile, that was empty
before. -/
def Profile.storeAfter (profile : Profile) (calls : List (Timestamp × RegistrarCall)) :
    MemoryStore :=
  profile.afterCalls {} calls

/-- The ways in which a call can end over a store in memory. -/
inductive Answered (registrar : Registrar) (store : MemoryStore) (call : RegistrarCall) :
    Outcome MemoryStore RegistrationError Registration → Prop where
  | notMade {defect : Defect} (h : call.brought registrar.profile = .error defect) :
      Answered registrar store call { result := .error (.defect defect), state := store }
  | unsound {mode : ProcessingMode} {defect : Defect}
      (hmode : call.brought registrar.profile = .ok mode)
      (h : mode.checkStructure = .error defect) :
      Answered registrar store call { result := .error (.defect defect), state := store }
  | refused {mode : ProcessingMode} (hmode : call.brought registrar.profile = .ok mode)
      (hsound : mode.checkStructure = .ok ()) (h : ¬registrar.profile.Accepts mode) :
      Answered registrar store call
        { result := .error (.violations ⟨registrar.profile.checkMode mode⟩)
          state := store
          events := registrar.profile.modeEvents mode ++
            [.modeRejected registrar.profile.id.text mode.id.text
              (registrar.profile.checkMode mode).length] }
  | passed {mode : ProcessingMode} (hmode : call.brought registrar.profile = .ok mode)
      (hsound : mode.checkStructure = .ok ()) (haccepts : registrar.profile.Accepts mode)
      (hkeep : call.keep = false) :
      Answered registrar store call
        { result := .ok ⟨mode, registrar.profile.checkMode mode, false, registrar.now⟩
          state := store
          events := registrar.profile.modeEvents mode }
  | kept {mode : ProcessingMode} (hmode : call.brought registrar.profile = .ok mode)
      (hsound : mode.checkStructure = .ok ()) (haccepts : registrar.profile.Accepts mode)
      (hkeep : call.keep = true) :
      Answered registrar store call
        { result := .ok ⟨mode, registrar.profile.checkMode mode, true, registrar.now⟩
          state := ⟨store.modes.put mode.id.text mode⟩
          events := registrar.profile.modeEvents mode ++
            [.modePersisted registrar.profile.id.text mode.id.text
              (registrar.profile.checkMode mode).length] }

namespace Registrar

variable (registrar : Registrar) (store : MemoryStore)

/-- A mode that is sound in structure is kept by a store in memory. -/
theorem persist_of_sound {mode : ProcessingMode} (hsound : mode.checkStructure = .ok ())
    (warnings : Findings) :
    registrar.persist store mode warnings =
      { result := .ok ⟨mode, warnings, true, registrar.now⟩
        state := ⟨store.modes.put mode.id.text mode⟩
        events := [.modePersisted registrar.profile.id.text mode.id.text warnings.length] } := by
  have hsave : Repository.save store mode =
      { result := .ok (), state := ⟨store.modes.put mode.id.text mode⟩ } := by
    change store.save mode = _
    rw [MemoryStore.save, hsound]
  rw [persist, hsave]
  rfl

/-- Letting in the mode of a call ends in one of the ways in which the call can end. -/
theorem register_answered (call : RegistrarCall) {mode : ProcessingMode}
    (hmode : call.brought registrar.profile = .ok mode) :
    Answered registrar store call (registrar.register store mode call.keep) := by
  cases hsound : mode.checkStructure with
  | error defect =>
    rw [registrar.register_of_unsound store call.keep hsound]
    exact .unsound hmode hsound
  | ok sound =>
    by_cases haccepts : registrar.profile.Accepts mode
    · rw [registrar.register_of_accepted store call.keep hsound haccepts]
      cases hkeep : call.keep with
      | false => exact .passed hmode hsound haccepts hkeep
      | true =>
        simp only [if_true, registrar.persist_of_sound store hsound]
        exact .kept hmode hsound haccepts hkeep
    · rw [registrar.register_of_refused store call.keep hsound haccepts]
      exact .refused hmode hsound haccepts

/-- Every call ends in one of the ways in which it can end. -/
theorem answer_answered (call : RegistrarCall) :
    Answered registrar store call (registrar.answer store call) := by
  cases call with
  | register mode keep => exact registrar.register_answered store (.register mode keep) rfl
  | create request naming =>
    rw [answer, create]
    cases hmade : registrar.profile.propose request.pattern naming request.initiator
        request.responder request.address with
    | error defect => exact .notMade hmade
    | ok mode => exact registrar.register_answered store (.create request naming) hmade

end Registrar

/-- What a registrar promises about the outcome of a call. -/
structure RegistrarCall.Fulfilled (registrar : Registrar) (store : MemoryStore)
    (call : RegistrarCall) (outcome : Outcome MemoryStore RegistrationError Registration) :
    Prop where
  succeeds_iff : (∃ registration, outcome.result = .ok registration) ↔
    ∃ mode, call.brought registrar.profile = .ok mode ∧ mode.checkStructure = .ok () ∧
      registrar.profile.Accepts mode
  notMade : ∀ defect, call.brought registrar.profile = .error defect →
    outcome.result = .error (.defect defect)
  unsound : ∀ mode, call.brought registrar.profile = .ok mode →
    ∀ defect, mode.checkStructure = .error defect → outcome.result = .error (.defect defect)
  refused : ∀ mode, call.brought registrar.profile = .ok mode → mode.checkStructure = .ok () →
    ¬registrar.profile.Accepts mode →
      outcome.result = .error (.violations ⟨registrar.profile.checkMode mode⟩)
  notAboutLegs : ∀ violations, outcome.result = .error (.violations violations) →
    ∀ finding ∈ violations.findings, finding.field ≠ "leg1" ∧ finding.field ≠ "leg2"
  notTheStore : ∀ error, outcome.result ≠ .error (.store error)
  registration : ∀ registration, outcome.result = .ok registration →
    call.brought registrar.profile = .ok registration.mode ∧
      registration.warnings = registrar.profile.checkMode registration.mode ∧
      (∀ finding ∈ registration.warnings, finding.severity = .warning) ∧
      registration.persisted = call.keep ∧ registration.registeredAt = registrar.now
  unchanged : (∀ registration, outcome.result = .ok registration → call.keep = false) →
    outcome.state = store
  kept : call.keep = true → ∀ registration, outcome.result = .ok registration →
    ∀ id, outcome.state.find id =
      if id = registration.mode.id then some registration.mode else store.find id

/-- A profile accepts a mode exactly when no finding on it is more than a warning. -/
theorem Profile.accepts_iff_warnings (profile : Profile) (mode : ProcessingMode) :
    profile.Accepts mode ↔ ∀ finding ∈ profile.checkMode mode, finding.severity = .warning := by
  have hwarning (severity : Severity) : severity ≠ .error ↔ severity = .warning := by
    cases severity <;> simp
  rw [Profile.Accepts, hasErrors_eq_false_iff]
  simp only [hwarning]

namespace Registrar

variable {σ : Type} [Repository σ] {registrar : Registrar} {store : σ} {mode : ProcessingMode}
  {registration : Registration}

/-- A mode that is kept, in whatever store, is registered with the warnings that it came with. -/
theorem warnings_of_persist {warnings : Findings}
    (h : (registrar.persist store mode warnings).result = .ok registration) :
    registration.mode = mode ∧ registration.warnings = warnings := by
  unfold persist at h
  cases hsaved : (Repository.save store mode).result with
  | error error => simp [hsaved] at h
  | ok kept =>
    simp only [hsaved, Except.ok.injEq] at h
    subst h
    exact ⟨rfl, rfl⟩

/-- A mode that is let in, over whatever store, is registered with everything that is found on it,
and is accepted. -/
theorem warnings_of_register {keep : Bool}
    (h : (registrar.register store mode keep).result = .ok registration) :
    registration.warnings = registrar.profile.checkMode registration.mode ∧
      registrar.profile.Accepts registration.mode := by
  cases hsound : mode.checkStructure with
  | error defect =>
    rw [registrar.register_of_unsound store keep hsound] at h
    cases h
  | ok sound =>
    by_cases haccepts : registrar.profile.Accepts mode
    · rw [registrar.register_of_accepted store keep hsound haccepts] at h
      cases keep with
      | false =>
        cases h
        exact ⟨rfl, haccepts⟩
      | true =>
        obtain ⟨hmode, hwarnings⟩ := warnings_of_persist h
        rw [hmode]
        exact ⟨hwarnings, haccepts⟩
    · rw [registrar.register_of_refused store keep hsound haccepts] at h
      cases h

/-- A call that lets a mode in, over whatever store, registers it with everything that is found on
it. -/
theorem warnings_of_answer {call : RegistrarCall}
    (h : (registrar.answer store call).result = .ok registration) :
    registration.warnings = registrar.profile.checkMode registration.mode ∧
      registrar.profile.Accepts registration.mode := by
  cases call with
  | register mode keep => exact warnings_of_register h
  | create request naming =>
    rw [answer, create] at h
    split at h
    · cases h
    · exact warnings_of_register h

end Registrar

namespace Answered

variable {registrar : Registrar} {store : MemoryStore} {call : RegistrarCall}
  {outcome : Outcome MemoryStore RegistrationError Registration}

/-- A call succeeds exactly when there is a mode to let in, it is sound in structure and the profile
accepts it. -/
theorem succeeds_iff (h : Answered registrar store call outcome) :
    (∃ registration, outcome.result = .ok registration) ↔
      ∃ mode, call.brought registrar.profile = .ok mode ∧ mode.checkStructure = .ok () ∧
        registrar.profile.Accepts mode := by
  cases h with
  | notMade h => simp [h]
  | unsound hmode h => simp [hmode, h]
  | refused hmode hsound h => simp [hmode, h]
  | passed hmode hsound haccepts hkeep => simp [hmode, hsound, haccepts]
  | kept hmode hsound haccepts hkeep => simp [hmode, hsound, haccepts]

/-- A call for which no mode can be made fails with the defect of the proposal. -/
theorem of_notMade (h : Answered registrar store call outcome) {defect : Defect}
    (hdefect : call.brought registrar.profile = .error defect) :
    outcome.result = .error (.defect defect) := by
  cases h with
  | notMade h => simpa [h] using hdefect
  | unsound hmode | refused hmode | passed hmode | kept hmode => simp [hmode] at hdefect

/-- A call for a mode that is not sound in structure fails with its defect, whatever the profile
says. -/
theorem of_unsound (h : Answered registrar store call outcome) {mode : ProcessingMode}
    (hbrought : call.brought registrar.profile = .ok mode) {defect : Defect}
    (hdefect : mode.checkStructure = .error defect) :
    outcome.result = .error (.defect defect) := by
  cases h with
  | notMade h => simp [h] at hbrought
  | unsound hmode h =>
    obtain rfl := Except.ok.inj (hmode.symm.trans hbrought)
    simpa [h] using hdefect
  | refused hmode hsound | passed hmode hsound | kept hmode hsound =>
    obtain rfl := Except.ok.inj (hmode.symm.trans hbrought)
    simp [hsound] at hdefect

/-- A call for a mode that is sound in structure and not accepted fails with everything that is
found on the mode. -/
theorem of_refused (h : Answered registrar store call outcome) {mode : ProcessingMode}
    (hbrought : call.brought registrar.profile = .ok mode) (hsound : mode.checkStructure = .ok ())
    (hrefused : ¬registrar.profile.Accepts mode) :
    outcome.result = .error (.violations ⟨registrar.profile.checkMode mode⟩) := by
  cases h with
  | notMade h => simp [h] at hbrought
  | unsound hmode h =>
    obtain rfl := Except.ok.inj (hmode.symm.trans hbrought)
    simp [h] at hsound
  | refused hmode =>
    obtain rfl := Except.ok.inj (hmode.symm.trans hbrought)
    rfl
  | passed hmode _ haccepts | kept hmode _ haccepts =>
    obtain rfl := Except.ok.inj (hmode.symm.trans hbrought)
    exact absurd haccepts hrefused

/-- No finding that refuses a mode is about a leg that is missing or should not be there, because
such a mode is not sound in structure. -/
theorem notAboutLegs (h : Answered registrar store call outcome) {violations : Violations}
    (hviolations : outcome.result = .error (.violations violations)) :
    ∀ finding ∈ violations.findings, finding.field ≠ "leg1" ∧ finding.field ≠ "leg2" := by
  cases h with
  | refused hmode hsound h =>
    cases hviolations
    intro finding hfinding
    exact (registrar.profile.place_of_mem_checkMode _ finding hfinding).ne_leg hsound
  | notMade | unsound | passed | kept => cases hviolations

/-- The store is never why a call fails. -/
theorem notTheStore (h : Answered registrar store call outcome) (error : StoreError) :
    outcome.result ≠ .error (.store error) := by
  cases h <;> simp

/-- A registration has the mode that was to be let in, everything that was found on it, which is no
more than warnings, the wish to keep it, and the time. -/
theorem registration (h : Answered registrar store call outcome) {registration : Registration}
    (hok : outcome.result = .ok registration) :
    call.brought registrar.profile = .ok registration.mode ∧
      registration.warnings = registrar.profile.checkMode registration.mode ∧
      (∀ finding ∈ registration.warnings, finding.severity = .warning) ∧
      registration.persisted = call.keep ∧ registration.registeredAt = registrar.now := by
  cases h with
  | notMade | unsound | refused => cases hok
  | passed hmode hsound haccepts hkeep | kept hmode hsound haccepts hkeep =>
    cases hok
    have hwarnings := (registrar.profile.accepts_iff_warnings _).mp haccepts
    exact ⟨hmode, rfl, hwarnings, hkeep.symm, rfl⟩

/-- A call that fails, or does not ask for the mode to be kept, leaves the store as it is. -/
theorem unchanged (h : Answered registrar store call outcome)
    (hnot : ∀ registration, outcome.result = .ok registration → call.keep = false) :
    outcome.state = store := by
  cases h with
  | notMade | unsound | refused | passed => rfl
  | kept hmode hsound haccepts hkeep =>
    have hkeep' := hnot _ rfl
    rw [hkeep] at hkeep'
    cases hkeep'

/-- A call that succeeds and asks for the mode to be kept changes the store under the identifier of
the mode and nowhere else. -/
theorem find_of_keep (h : Answered registrar store call outcome) (hasked : call.keep = true)
    {registration : Registration} (hok : outcome.result = .ok registration) (id : ModeId) :
    outcome.state.find id =
      if id = registration.mode.id then some registration.mode else store.find id := by
  cases h with
  | notMade | unsound | refused => cases hok
  | passed hmode hsound haccepts hkeep =>
    rw [hkeep] at hasked
    cases hasked
  | kept =>
    cases hok
    exact store.find_put _ id

/-- However a call ends, the promises about it are kept. -/
theorem fulfilled (h : Answered registrar store call outcome) :
    call.Fulfilled registrar store outcome where
  succeeds_iff := h.succeeds_iff
  notMade _ := h.of_notMade
  unsound _ hbrought _ := h.of_unsound hbrought
  refused _ := h.of_refused
  notAboutLegs _ := h.notAboutLegs
  notTheStore := h.notTheStore
  registration _ := h.registration
  unchanged := h.unchanged
  kept hasked _ := h.find_of_keep hasked

end Answered

/-- A store holds modes under their own identifiers, sound in structure and accepted by a
profile. -/
def Profile.Guards (profile : Profile) (store : MemoryStore) : Prop :=
  ∀ key mode, (key, mode) ∈ store.modes.entries →
    mode.id.text = key ∧ mode.checkStructure = .ok () ∧ profile.Accepts mode

namespace Profile

/-- The empty store holds nothing that a profile would not accept. -/
theorem guards_empty (profile : Profile) : profile.Guards {} := by
  intro key mode hentry
  cases hentry

/-- Putting a mode that is sound in structure and accepted keeps a store guarded. -/
theorem Guards.put {profile : Profile} {store : MemoryStore} (h : profile.Guards store)
    {mode : ProcessingMode} (hsound : mode.checkStructure = .ok ())
    (haccepts : profile.Accepts mode) :
    profile.Guards ⟨store.modes.put mode.id.text mode⟩ := by
  intro key held hentry
  obtain hput | hbefore := Index.mem_putEntry hentry
  · cases hput
    exact ⟨rfl, hsound, haccepts⟩
  · exact h key held hbefore

/-- A call keeps the store guarded by the profile that answers it. -/
theorem Guards.answer {profile : Profile} {store : MemoryStore} (h : profile.Guards store)
    (now : Timestamp) (call : RegistrarCall) :
    profile.Guards (Registrar.answer ⟨profile, now⟩ store call).state := by
  have hanswered := Registrar.answer_answered ⟨profile, now⟩ store call
  generalize Registrar.answer ⟨profile, now⟩ store call = outcome at hanswered
  cases hanswered with
  | notMade | unsound | refused | passed => exact h
  | kept _ hsound haccepts _ => exact h.put hsound haccepts

/-- After any calls a store is guarded by the profile that answered them, if it was before. -/
theorem Guards.afterCalls {profile : Profile} {store : MemoryStore} (h : profile.Guards store)
    (calls : List (Timestamp × RegistrarCall)) :
    profile.Guards (profile.afterCalls store calls) := by
  induction calls generalizing store with
  | nil => exact h
  | cons timed calls ih => exact ih (h.answer timed.1 timed.2)

/-- What is found in a guarded store has the identifier that was asked for, is sound in structure
and is accepted. -/
theorem Guards.of_find {profile : Profile} {store : MemoryStore} (h : profile.Guards store)
    {id : ModeId} {mode : ProcessingMode} (hfind : store.find id = some mode) :
    mode.id = id ∧ mode.checkStructure = .ok () ∧ profile.Accepts mode := by
  obtain ⟨⟨key, held⟩, hentry, rfl⟩ := Option.map_eq_some_iff.mp hfind
  have hkey : key = id.text := by simpa using List.find?_some hentry
  obtain ⟨htext, hsound, haccepts⟩ := h key held (List.mem_of_find?_eq_some hentry)
  exact ⟨ModeId.eq_of_text (htext.trans hkey), hsound, haccepts⟩

/-- Registration is a gate. After any calls that a profile has answered over a store that was empty,
the store holds only modes that are sound in structure and accepted, each under its own identifier;
the next call is answered as promised; and looking up finds such a mode or nothing. -/
theorem registration_gate (profile : Profile) (calls : List (Timestamp × RegistrarCall)) :
    profile.Guards (profile.storeAfter calls) ∧
      (∀ (now : Timestamp) (call : RegistrarCall),
        call.Fulfilled ⟨profile, now⟩ (profile.storeAfter calls)
          (Registrar.answer ⟨profile, now⟩ (profile.storeAfter calls) call)) ∧
      ∀ id, Registrar.find (profile.storeAfter calls) id =
          .ok ((profile.storeAfter calls).find id) ∧
        (∀ mode ∈ (profile.storeAfter calls).find id,
          mode.id = id ∧ mode.checkStructure = .ok () ∧ profile.Accepts mode) ∧
        Registrar.get (profile.storeAfter calls) id =
          match (profile.storeAfter calls).find id with
          | some mode => .ok mode
          | none => .error (.store (.notFound id)) := by
  have hguards : profile.Guards (profile.storeAfter calls) := profile.guards_empty.afterCalls calls
  generalize profile.storeAfter calls = store at hguards ⊢
  refine ⟨hguards, ?calls, ?lookups⟩
  case calls =>
    intro now call
    exact (Registrar.answer_answered ⟨profile, now⟩ store call).fulfilled
  case lookups =>
    intro id
    refine ⟨rfl, ?_, ?_⟩
    · intro mode hmode
      exact hguards.of_find hmode
    · have hfind : Repository.find store id = .ok (store.find id) := rfl
      rw [Registrar.get, hfind]
      cases store.find id <;> rfl

end Profile

end Ebms
