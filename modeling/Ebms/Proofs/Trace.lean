import Ebms.Proofs.Conformance.Advice

/-!
# What the events of a registration tell

Whoever sees only the events of a registration knows how it ended. There are none if the mode is
not sound in structure. Otherwise the check speaks first: one event at the start, one for each
warning, and one at the end with the number of findings. A refusal adds one more event, and so does
a mode that is written to the store.

To say what is written, a store is put on record: what it keeps is written down in a journal, and
apart from that it answers as before. A mode that replaces an equal one leaves no other mark.
-/

namespace Ebms

/-- A store with a journal of the modes that were written to it, the earliest first. -/
structure Journaled (σ : Type) where
  store : σ
  written : List ProcessingMode := []

namespace Journaled

variable {σ : Type} [Repository σ]

/-- Keeps a processing mode, and writes it down in the journal unless the store fails. -/
def save (journaled : Journaled σ) (mode : ProcessingMode) :
    Outcome (Journaled σ) StoreError Unit :=
  let saved := Repository.save journaled.store mode
  match saved.result with
  | .error error =>
      { result := .error error
        state := ⟨saved.state, journaled.written⟩
        events := saved.events }
  | .ok () =>
      { result := .ok ()
        state := ⟨saved.state, journaled.written ++ [mode]⟩
        events := saved.events }

instance : Repository (Journaled σ) where
  save := save
  find journaled id := Repository.find journaled.store id
  list journaled := Repository.list journaled.store

end Journaled

/-- The modes that a registration keeps by its own account: the one that was let in, if it says that
it was kept. -/
def keptBy : Except RegistrationError Registration → List ProcessingMode
  | .ok registration => if registration.persisted then [registration.mode] else []
  | .error _ => []

/-- The warnings that a registration comes with, if it succeeds. -/
def warningsOf : Except RegistrationError Registration → Findings
  | .ok registration => registration.warnings
  | .error _ => []

namespace Registrar

section Journal

variable {σ : Type} [Repository σ] (registrar : Registrar)

/-- On record, a store is asked to keep a mode and answers as before. -/
theorem persist_journaled (journaled : Journaled σ) (mode : ProcessingMode) (warnings : Findings) :
    registrar.persist journaled mode warnings =
      { result := (registrar.persist journaled.store mode warnings).result
        state := ⟨(registrar.persist journaled.store mode warnings).state, journaled.written ++
          keptBy (registrar.persist journaled.store mode warnings).result⟩
        events := (registrar.persist journaled.store mode warnings).events } := by
  have hsave : Repository.save journaled mode = journaled.save mode := rfl
  unfold persist
  rw [hsave, Journaled.save]
  cases hsaved : (Repository.save journaled.store mode).result with
  | error error => simp [hsaved, keptBy]
  | ok kept => simp [hsaved, keptBy]

/-- On record, a store changes nothing about a registration; the journal grows by what is kept. -/
theorem register_journaled (journaled : Journaled σ) (mode : ProcessingMode) (keep : Bool) :
    registrar.register journaled mode keep =
      { result := (registrar.register journaled.store mode keep).result
        state := ⟨(registrar.register journaled.store mode keep).state, journaled.written ++
          keptBy (registrar.register journaled.store mode keep).result⟩
        events := (registrar.register journaled.store mode keep).events } := by
  cases hsound : mode.checkStructure with
  | error defect => simp [register_of_unsound _ _ _ hsound, keptBy]
  | ok sound =>
    by_cases haccepts : registrar.profile.Accepts mode
    · cases keep with
      | true => simp [register_of_accepted _ _ _ hsound haccepts, persist_journaled]
      | false => simp [register_of_accepted _ _ _ hsound haccepts, keptBy]
    · simp [register_of_refused _ _ _ hsound haccepts, keptBy]

end Journal

/-- The event of a refusal, if a registration ends in one. -/
def refusalTrace (registrar : Registrar) (mode : ProcessingMode) :
    Except RegistrationError Registration → List Event
  | .error (.violations violations) =>
      [.modeRejected registrar.profile.id.text mode.id.text violations.findings.length]
  | .ok _ | .error (.defect _) | .error (.store _) => []

/-- One event for each mode that was written, with the number of the warnings. -/
def writingTrace (registrar : Registrar) (warnings : Findings) (written : List ProcessingMode) :
    List Event :=
  written.map fun mode =>
    .modePersisted registrar.profile.id.text mode.id.text warnings.length

end Registrar

/-- The events of a registration tell how it ended, when the findings on the mode are some and the
modes that were written to the store are some. -/
structure Registrar.Tells (registrar : Registrar) (mode : ProcessingMode) (findings : Findings)
    (written : List ProcessingMode) (result : Except RegistrationError Registration)
    (events : List Event) : Prop where
  /-- A mode with a defect in its structure is refused for that defect, without a word. -/
  silent : ∀ defect, mode.checkStructure = .error defect →
    result = .error (.defect defect) ∧ events = [] ∧ written = []
  /-- Otherwise the check speaks, then the refusal if there is one, then whatever was written. -/
  spoken : mode.checkStructure = .ok () →
    events = registrar.profile.checkTrace mode findings ++ registrar.refusalTrace mode result ++
      registrar.writingTrace (warningsOf result) written
  /-- A mode that is sound in structure is refused by its findings or let in; the store is never why
  it is not. -/
  decided : mode.checkStructure = .ok () →
    (∃ violations, result = .error (.violations violations)) ∨
      ∃ registration, result = .ok registration
  /-- A refusal hands back every finding, and nothing was written. -/
  refused : ∀ violations, result = .error (.violations violations) →
    violations.findings = findings ∧ written = []
  /-- A mode that is let in comes with every finding, and all of them are warnings; it was written
  exactly if the registration says that it was kept. -/
  passed : ∀ registration, result = .ok registration →
    registration.mode = mode ∧ registration.warnings = findings ∧ findings.warnings = findings ∧
      written = if registration.persisted then [mode] else []

section Events

variable (profile : Profile) (registrar : Registrar) (mode : ProcessingMode) (findings : Findings)
  (result : Except RegistrationError Registration) (written : List ProcessingMode)
  (name id : String) (number : Nat)

/-- The levels of the events of a check: one for debugging at either end, and a warning for each
warning between them. -/
theorem Profile.levels_checkTrace :
    (profile.checkTrace mode findings).map Event.level =
      .debug :: List.replicate findings.warnings.length .warn ++ [.debug] := by
  simp [checkTrace, adviceEvents, Function.comp_def, Event.level]

/-- A check always speaks. -/
theorem Profile.checkTrace_ne_nil : profile.checkTrace mode findings ≠ [] := by
  simp [checkTrace]

/-- A check never speaks of a refusal. -/
theorem Profile.modeRejected_notMem_checkTrace :
    .modeRejected name id number ∉ profile.checkTrace mode findings := by
  simp [checkTrace, adviceEvents]

/-- A check never speaks of a mode that is kept. -/
theorem Profile.modePersisted_notMem_checkTrace :
    .modePersisted name id number ∉ profile.checkTrace mode findings := by
  simp [checkTrace, adviceEvents]

namespace Registrar

/-- A refusal speaks of nothing but itself. -/
theorem mem_refusalTrace_iff (event : Event) :
    event ∈ registrar.refusalTrace mode result ↔
      ∃ violations, result = .error (.violations violations) ∧ event =
        .modeRejected registrar.profile.id.text mode.id.text violations.findings.length := by
  cases result with
  | ok registration => simp [refusalTrace]
  | error error => cases error <;> simp [refusalTrace]

/-- What is written speaks of nothing but the modes that were written. -/
theorem mem_writingTrace_iff (event : Event) :
    event ∈ registrar.writingTrace findings written ↔
      ∃ kept ∈ written,
        event = .modePersisted registrar.profile.id.text kept.id.text findings.length := by
  simp [writingTrace, eq_comm]

/-- A refusal is a warning. -/
theorem levels_refusalTrace :
    (registrar.refusalTrace mode result).map Event.level =
      (registrar.refusalTrace mode result).map fun _ => .warn := by
  refine List.map_congr_left fun event hevent => ?_
  obtain ⟨violations, -, rfl⟩ := (registrar.mem_refusalTrace_iff mode result event).mp hevent
  rfl

/-- A mode that is written is good to know. -/
theorem levels_writingTrace :
    (registrar.writingTrace findings written).map Event.level = written.map fun _ => .info := by
  simp [writingTrace, Function.comp_def, Event.level]

end Registrar

end Events

namespace Registrar.Tells

variable {registrar : Registrar} {mode : ProcessingMode} {findings : Findings}
  {written : List ProcessingMode} {result : Except RegistrationError Registration}
  {events : List Event}

/-- The levels of the events of a registration. -/
theorem levels (h : registrar.Tells mode findings written result events)
    (hsound : mode.checkStructure = .ok ()) :
    events.map Event.level =
      .debug :: List.replicate findings.warnings.length .warn ++ [.debug] ++
        (registrar.refusalTrace mode result).map (fun _ => .warn) ++
        written.map fun _ => .info := by
  rw [h.spoken hsound, List.map_append, List.map_append, Profile.levels_checkTrace,
    levels_refusalTrace, levels_writingTrace]

/-- There are no events exactly if the mode has a defect in its structure. -/
theorem events_eq_nil_iff (h : registrar.Tells mode findings written result events) :
    events = [] ↔ ∃ defect, result = .error (.defect defect) := by
  cases hsound : mode.checkStructure with
  | error defect =>
    obtain ⟨hresult, hevents, -⟩ := h.silent defect hsound
    exact iff_of_true hevents ⟨defect, hresult⟩
  | ok sound =>
    rw [h.spoken hsound]
    refine iff_of_false (by simp [Profile.checkTrace_ne_nil]) fun ⟨defect, hdefect⟩ => ?_
    obtain ⟨violations, hresult⟩ | ⟨registration, hresult⟩ := h.decided hsound
    · cases hresult.symm.trans hdefect
    · cases hresult.symm.trans hdefect

/-- There is an event of a refusal exactly if the mode is refused. -/
theorem refusal_mem_iff (h : registrar.Tells mode findings written result events) :
    (∃ number, .modeRejected registrar.profile.id.text mode.id.text number ∈ events) ↔
      ∃ violations, result = .error (.violations violations) := by
  cases hsound : mode.checkStructure with
  | error defect =>
    obtain ⟨hresult, hevents, -⟩ := h.silent defect hsound
    simp [hresult, hevents]
  | ok sound =>
    simp [h.spoken hsound, mem_refusalTrace_iff, mem_writingTrace_iff,
      Profile.modeRejected_notMem_checkTrace]

/-- A mode is written once or not at all. -/
theorem written_eq (h : registrar.Tells mode findings written result events) :
    written = [] ∨ written = [mode] := by
  cases hsound : mode.checkStructure with
  | error defect => exact .inl (h.silent defect hsound).2.2
  | ok sound =>
    obtain ⟨violations, hresult⟩ | ⟨registration, hresult⟩ := h.decided hsound
    · exact .inl (h.refused violations hresult).2
    · obtain ⟨-, -, -, hwritten⟩ := h.passed registration hresult
      cases hpersisted : registration.persisted with
      | true => exact .inr (by simpa [hpersisted] using hwritten)
      | false => exact .inl (by simpa [hpersisted] using hwritten)

/-- There is an event of a mode that is kept exactly if the mode was written. -/
theorem writing_mem_iff (h : registrar.Tells mode findings written result events) :
    (∃ number, .modePersisted registrar.profile.id.text mode.id.text number ∈ events) ↔
      written = [mode] := by
  cases hsound : mode.checkStructure with
  | error defect =>
    obtain ⟨-, hevents, hwritten⟩ := h.silent defect hsound
    simp [hevents, hwritten]
  | ok sound =>
    have hmem (number : Nat) :
        .modePersisted registrar.profile.id.text mode.id.text number ∈ events ↔
          ∃ kept ∈ written, mode.id.text = kept.id.text ∧ number = (warningsOf result).length := by
      simp [h.spoken hsound, mem_refusalTrace_iff, mem_writingTrace_iff,
        Profile.modePersisted_notMem_checkTrace]
    simp only [hmem]
    obtain hwritten | hwritten := h.written_eq
    · simp [hwritten]
    · simp [hwritten]

end Registrar.Tells

/-- What is found on a mode that is accepted are warnings, all of it. -/
theorem Profile.warnings_checkMode_of_accepts {profile : Profile} {mode : ProcessingMode}
    (h : profile.Accepts mode) : (profile.checkMode mode).warnings = profile.checkMode mode := by
  refine List.filter_eq_self.mpr fun finding hfinding => ?_
  rw [(profile.accepts_iff_warnings mode).mp h finding hfinding]
  rfl

/-- The events of a mode that is let in tell so, whether it is kept or not. -/
theorem Registrar.tells_of_accepts {registrar : Registrar} {mode : ProcessingMode}
    (hsound : mode.checkStructure = .ok ()) (haccepts : registrar.profile.Accepts mode)
    (registration : Registration) (hmode : registration.mode = mode)
    (hwarnings : registration.warnings = registrar.profile.checkMode mode) :
    registrar.Tells mode (registrar.profile.checkMode mode) (keptBy (.ok registration))
      (.ok registration) (registrar.profile.modeEvents mode ++
        registrar.writingTrace registration.warnings (keptBy (.ok registration))) where
  silent := by simp [hsound]
  spoken _ := by
    rw [Profile.modeEvents_eq_checkTrace, refusalTrace, List.append_nil]
    rfl
  decided _ := .inr ⟨registration, rfl⟩
  refused := nofun
  passed := by
    intro registration' h
    cases h
    subst hmode
    exact ⟨rfl, hwarnings, Profile.warnings_checkMode_of_accepts haccepts, rfl⟩

namespace Answered

variable {registrar : Registrar} {store : MemoryStore} {mode : ProcessingMode} {keep : Bool}
  {outcome : Outcome MemoryStore RegistrationError Registration}

/-- However a registration ends, its events tell so. -/
theorem tells (h : Answered registrar store (.register mode keep) outcome) :
    registrar.Tells mode (registrar.profile.checkMode mode) (keptBy outcome.result) outcome.result
      outcome.events := by
  cases h with
  | notMade h => cases h
  | unsound hmode hdefect =>
    cases hmode
    exact {
      silent := by simp [hdefect, keptBy]
      spoken := by simp [hdefect]
      decided := by simp [hdefect]
      refused := nofun
      passed := by simp }
  | refused hmode hsound hrefused =>
    cases hmode
    exact {
      silent := by simp [hsound]
      spoken := by
        rw [Profile.modeEvents_eq_checkTrace]
        exact fun _ => (List.append_nil _).symm
      decided := fun _ => .inl ⟨_, rfl⟩
      refused := by simp [keptBy]
      passed := by simp }
  | passed hmode hsound haccepts hkeep =>
    cases hmode
    have h := Registrar.tells_of_accepts hsound haccepts
      ⟨mode, registrar.profile.checkMode mode, false, registrar.now⟩ rfl rfl
    simpa [keptBy, Registrar.writingTrace] using h
  | kept hmode hsound haccepts hkeep =>
    cases hmode
    exact Registrar.tells_of_accepts hsound haccepts
      ⟨mode, registrar.profile.checkMode mode, true, registrar.now⟩ rfl rfl

/-- A registration keeps the mode exactly if that is wanted and it is let in. -/
theorem keptBy_eq_iff (h : Answered registrar store (.register mode keep) outcome) :
    keptBy outcome.result = [mode] ↔
      keep = true ∧ ∃ registration, outcome.result = .ok registration := by
  cases h with
  | notMade h => cases h
  | unsound | refused => simp [keptBy]
  | passed hmode hsound haccepts hkeep | kept hmode hsound haccepts hkeep =>
    cases hmode
    have hkeep' : keep = _ := hkeep
    simp [keptBy, hkeep']

/-- If a registration keeps the mode, the store holds it from then on, and what else it holds is
what it held before. -/
theorem find_of_kept (h : Answered registrar store (.register mode keep) outcome)
    (hkept : keptBy outcome.result = [mode]) (id : ModeId) :
    outcome.state.find id = if id = mode.id then some mode else store.find id := by
  obtain ⟨hkeep, registration, hregistration⟩ := h.keptBy_eq_iff.mp hkept
  obtain ⟨hbrought, -⟩ := h.registration hregistration
  rw [h.find_of_keep hkeep hregistration, ← Except.ok.inj hbrought]

/-- If a registration keeps nothing, the store is what it was. -/
theorem state_of_not_kept (h : Answered registrar store (.register mode keep) outcome)
    (hkept : keptBy outcome.result = []) : outcome.state = store := by
  cases h with
  | notMade | unsound | refused | passed => rfl
  | kept => cases hkept

end Answered

/-- The registration of a mode over a store that is put on record with an empty journal. -/
def Registrar.registerOnRecord (registrar : Registrar) (store : MemoryStore)
    (mode : ProcessingMode) (keep : Bool) :
    Outcome (Journaled MemoryStore) RegistrationError Registration :=
  registrar.register ⟨store, []⟩ mode keep

/-- The events of a registration over a store in memory tell how it ended. The check speaks where it
gives advice and nowhere else; what it leaves on a ledger are the findings and the first events.
After them there is one more for a refusal, exactly if the mode is refused, and one more for a mode
that is kept, exactly if it was written to the store; there are none at all exactly if the mode has
a defect in its structure. What was written is found in the store from then on, and nothing else in
it changes; if nothing was written, the store is what it was. Putting the store on record changes
nothing but the journal. -/
theorem Registrar.trace_tells_outcome (registrar : Registrar) (store : MemoryStore)
    (mode : ProcessingMode) (keep : Bool) :
    let checked := (registrar.profile.enterMode mode).after {}
    let outcome := registrar.register store mode keep
    let onRecord := registrar.registerOnRecord store mode keep
    registrar.Tells mode checked.findings onRecord.state.written outcome.result outcome.events ∧
    checked = ⟨registrar.profile.checkMode mode,
      registrar.profile.checkTrace mode (registrar.profile.checkMode mode)⟩ ∧
    (mode.checkStructure = .ok () →
      outcome.events.map Event.level =
        .debug :: List.replicate checked.findings.warnings.length .warn ++ [.debug] ++
          (registrar.refusalTrace mode outcome.result).map (fun _ => .warn) ++
          onRecord.state.written.map fun _ => .info) ∧
    (outcome.events = [] ↔ ∃ defect, outcome.result = .error (.defect defect)) ∧
    ((∃ number, .modeRejected registrar.profile.id.text mode.id.text number ∈ outcome.events) ↔
      ∃ violations, outcome.result = .error (.violations violations)) ∧
    ((∃ number, .modePersisted registrar.profile.id.text mode.id.text number ∈ outcome.events) ↔
      onRecord.state.written = [mode]) ∧
    (onRecord.state.written = [] ∨ onRecord.state.written = [mode]) ∧
    (onRecord.state.written = [mode] ↔
      keep = true ∧ ∃ registration, outcome.result = .ok registration) ∧
    (onRecord.state.written = [mode] → ∀ id, outcome.state.find id =
      if id = mode.id then some mode else store.find id) ∧
    (onRecord.state.written = [] → outcome.state = store) ∧
    onRecord.result = outcome.result ∧ onRecord.events = outcome.events ∧
    onRecord.state.store = outcome.state := by
  intro checked outcome onRecord
  have hchecked : checked = ⟨registrar.profile.checkMode mode,
      registrar.profile.checkTrace mode (registrar.profile.checkMode mode)⟩ := by
    rw [← Profile.modeEvents_eq_checkTrace]
    exact registrar.profile.enterMode_after_empty mode
  have hrecord : onRecord =
      { result := outcome.result
        state := ⟨outcome.state, keptBy outcome.result⟩
        events := outcome.events } :=
    registrar.register_journaled ⟨store, []⟩ mode keep
  have hanswered : Answered registrar store (.register mode keep) outcome :=
    registrar.register_answered store (.register mode keep) rfl
  have htells : registrar.Tells mode checked.findings onRecord.state.written outcome.result
      outcome.events := by
    rw [hchecked, hrecord]
    exact hanswered.tells
  refine ⟨htells, hchecked, htells.levels, htells.events_eq_nil_iff, htells.refusal_mem_iff,
    htells.writing_mem_iff, htells.written_eq, ?_⟩
  rw [hrecord]
  exact ⟨hanswered.keptBy_eq_iff, hanswered.find_of_kept, hanswered.state_of_not_kept, rfl, rfl,
    rfl⟩

end Ebms
