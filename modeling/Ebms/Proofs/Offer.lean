import Ebms.Profile.Builtin
import Ebms.Proofs.Proposal
import Ebms.Registration
import Ebms.Store.Memory

/-!
# Exchanges that are not on offer

A profile offers the exchange of some pattern when it allows the pattern and the binding with which
it proposes modes of that pattern. The wish for an exchange that is not on offer lets nothing in
and leaves every store as it is, but it does not always end in the same way.

A two-way wish is refused as unsupported before anything is made. A one-way mode is made without
asking whether it is on offer, so the checks refuse it, for a pattern or a binding that is not
allowed and for whatever else is found on a proposal.
-/

namespace Ebms

open Findings (marks)

/-- The binding with which modes of a pattern are proposed. -/
def Pattern.proposedBinding : Pattern → Binding
  | .oneWay => .push
  | .twoWay => .pushPush

/-- A profile allows a pattern and the binding with which it proposes modes of that pattern. -/
def Profile.Offers (profile : Profile) (pattern : Pattern) : Prop :=
  pattern ∈ profile.allowedPatterns ∧ pattern.proposedBinding ∈ profile.allowedBindings

instance (profile : Profile) (pattern : Pattern) : Decidable (profile.Offers pattern) :=
  inferInstanceAs (Decidable (_ ∧ _))

/-- Neither a party of a wish nor its address is blank. -/
structure CreationRequest.Complete (request : CreationRequest) : Prop where
  initiator : Text.isBlank request.initiator = false
  responder : Text.isBlank request.responder = false
  address : Text.isBlank request.address = false

/-- A proposal for texts that are not blank is a mode. -/
theorem Proposed.exists_made {initiator responder address : String}
    {Made : ProcessingMode → Prop} {result : Except Defect ProcessingMode}
    (h : Proposed initiator responder address Made result)
    (hinitiator : Text.isBlank initiator = false) (hresponder : Text.isBlank responder = false)
    (haddress : Text.isBlank address = false) :
    ∃ mode, result = .ok mode ∧ Made mode := by
  cases h with
  | blankInitiator h => simp [h] at hinitiator
  | blankResponder _ h => simp [h] at hresponder
  | blankAddress _ _ h => simp [h] at haddress
  | made _ _ _ h => exact ⟨_, rfl, h⟩

namespace Profile

/-- What a profile proposes is the mode of the pattern and its binding, and no text was blank. -/
theorem propose_eq_ok {profile : Profile} {pattern : Pattern} {naming : Naming}
    {initiator responder address : String} {mode : ProcessingMode}
    (h : profile.propose pattern naming initiator responder address = .ok mode) :
    mode = profile.proposedMode naming pattern pattern.proposedBinding initiator responder address ∧
      Text.isBlank initiator = false ∧ Text.isBlank responder = false := by
  have hproposed : Proposed initiator responder address
      (· = profile.proposedMode naming pattern pattern.proposedBinding initiator responder address)
      (.ok mode) := by
    rw [← h]
    cases pattern with
    | oneWay => exact profile.proposeOneWay_proposed naming initiator responder address
    | twoWay =>
      cases hoffers : profile.offersTwoWay with
      | true => exact profile.proposeTwoWay_proposed naming initiator responder address hoffers
      | false =>
        -- Where two-way exchanges are not on offer nothing is proposed.
        have hrefused : profile.propose .twoWay naming initiator responder address =
            .error (.unsupportedExchange profile.id.text (Spelled.text Pattern.twoWay)) :=
          if_neg (by rw [hoffers]; exact Bool.false_ne_true)
        rw [hrefused] at h
        cases h
  cases hproposed with
  | made hinitiator hresponder _ hmode => exact ⟨hmode, hinitiator, hresponder⟩

/-- The mode that a profile makes for a wish, whether it is on offer or not. -/
def requestedMode (profile : Profile) (naming : Naming) (request : CreationRequest) :
    ProcessingMode :=
  profile.proposedMode naming request.pattern request.pattern.proposedBinding request.initiator
    request.responder request.address

/-- The mode of a complete wish is sound in structure. -/
theorem checkStructure_requestedMode (profile : Profile) (naming : Naming)
    {request : CreationRequest} (hcomplete : request.Complete) :
    (profile.requestedMode naming request).checkStructure = .ok () :=
  profile.checkStructure_proposedMode naming request.pattern request.pattern.proposedBinding
    request.address hcomplete.initiator hcomplete.responder

/-- The mode of a wish that is not on offer has an error at its pattern or at its binding. -/
theorem not_accepts_requestedMode (profile : Profile) (naming : Naming) (request : CreationRequest)
    (hnot : ¬profile.Offers request.pattern) :
    ¬profile.Accepts (profile.requestedMode naming request) := by
  intro haccepts
  have hconforms := (profile.accepts_iff_conforms _).mp haccepts
  exact hnot ⟨hconforms.pattern, hconforms.binding⟩

end Profile

namespace Registrar

variable {σ : Type} [Repository σ] (registrar : Registrar) (store : σ)

/-- A two-way wish that is not on offer is refused as unsupported. -/
theorem create_twoWay_of_not_offers {request : CreationRequest} (naming : Naming)
    (hpattern : request.pattern = .twoWay) (hnot : ¬registrar.profile.Offers .twoWay) :
    registrar.create store request naming =
      { result := .error (.defect (.unsupportedExchange registrar.profile.id.text "two-way"))
        state := store } := by
  have hpropose : registrar.profile.propose request.pattern naming request.initiator
      request.responder request.address =
        .error (.unsupportedExchange registrar.profile.id.text "two-way") := by
    rw [hpattern]
    exact if_neg fun hoffers => hnot (registrar.profile.offersTwoWay_iff.mp hoffers)
  rw [create, hpropose]

/-- A complete one-way wish is registered like any mode, whether it is on offer or not. -/
theorem create_oneWay {request : CreationRequest} (naming : Naming)
    (hpattern : request.pattern = .oneWay) (hcomplete : request.Complete) :
    registrar.create store request naming =
      registrar.register store (registrar.profile.requestedMode naming request)
        request.persist := by
  obtain ⟨mode, hmade, rfl⟩ := (registrar.profile.proposeOneWay_proposed naming request.initiator
    request.responder request.address).exists_made hcomplete.initiator hcomplete.responder
    hcomplete.address
  have hpropose : registrar.profile.propose request.pattern naming request.initiator
      request.responder request.address = .ok (registrar.profile.requestedMode naming request) := by
    rw [Profile.requestedMode, hpattern]
    exact hmade
  rw [create, hpropose]

/-- A complete wish for an exchange that is not on offer is refused as unsupported exactly when it
is two-way. A one-way wish is refused as well, with an error at the pattern or at the binding of a
mode that was made for it and with whatever else is found on a proposal. Either way nothing is let
in and the store is as it was. -/
theorem create_unsupported_iff_twoWay (request : CreationRequest) (naming : Naming)
    (hcomplete : request.Complete) (hnot : ¬registrar.profile.Offers request.pattern) :
    ((registrar.create store request naming).result =
        .error (.defect (.unsupportedExchange registrar.profile.id.text
          (Spelled.text request.pattern))) ↔
      request.pattern = .twoWay) ∧
    (request.pattern = .oneWay → ∃ findings,
      (registrar.create store request naming).result = .error (.violations ⟨findings⟩) ∧
        marks findings =
          (if .oneWay ∈ registrar.profile.allowedPatterns then [] else [(.error, "mep")]) ++
            (if .push ∈ registrar.profile.allowedBindings then []
              else [(.error, "mep_binding")]) ++
            registrar.profile.proposedLegMarks 1 request.address) ∧
    (∀ registration, (registrar.create store request naming).result ≠ .ok registration) ∧
    (registrar.create store request naming).state = store := by
  cases hpattern : request.pattern with
  | twoWay =>
    rw [hpattern] at hnot
    rw [registrar.create_twoWay_of_not_offers store naming hpattern hnot]
    simp [Spelled.text, Pattern.shortText]
  | oneWay =>
    have hrefused := registrar.profile.not_accepts_requestedMode naming request hnot
    have hsound := registrar.profile.checkStructure_requestedMode naming hcomplete
    have hregister := registrar.register_of_refused store request.persist hsound hrefused
    have hfits : Binding.push.isTwoWay = Pattern.oneWay.isTwoWay := rfl
    have hmarks := registrar.profile.marks_checkMode_proposedMode naming hfits request.initiator
      request.responder request.address
    rw [registrar.create_oneWay store naming hpattern hcomplete, hregister]
    refine ⟨by simp, fun _ => ⟨_, rfl, ?marks⟩, by simp, rfl⟩
    case marks =>
      rw [Profile.requestedMode, hpattern]
      simpa [Pattern.isTwoWay, Pattern.proposedBinding] using hmarks

/-- On the German energy market, where every exchange is one-way, a two-way wish is refused as
unsupported. -/
theorem create_twoWay_unsupported_by_bdew :
    ∃ (now : Timestamp) (request : CreationRequest),
      request.Complete ∧ ¬Profile.bdew.Offers request.pattern ∧
      (Registrar.create ⟨.bdew, now⟩ ({} : MemoryStore) request .derived).result =
        .error (.defect (.unsupportedExchange "bdew" "two-way")) := by
  let now : Timestamp :=
    { date := ⟨2024, 5, 6, by decide⟩, hour := 7, minute := 8, second := 9, nanosecond := 0 }
  let request : CreationRequest :=
    { initiator := "buyer"
      responder := "seller"
      address := "https://as4.example"
      pattern := .twoWay }
  have hcomplete : request.Complete := ⟨by decide, by decide, by decide⟩
  have hnot : ¬Profile.bdew.Offers request.pattern := by decide
  have hanswer := create_unsupported_iff_twoWay ⟨.bdew, now⟩ ({} : MemoryStore) request .derived
    hcomplete hnot
  exact ⟨now, request, hcomplete, hnot, hanswer.1.mpr rfl⟩

/-- A profile that allows two-way exchanges only does not offer one-way ones, and still a one-way
wish is not refused as unsupported: a mode is made, and the check of its pattern refuses it. -/
theorem create_oneWay_not_unsupported :
    ∃ (registrar : Registrar) (request : CreationRequest),
      registrar.profile = { allowedPatterns := [.twoWay] } ∧ request.Complete ∧
      ¬registrar.profile.Offers request.pattern ∧
      (registrar.create ({} : MemoryStore) request .derived).result =
        .error (.violations ⟨[.error .valueMismatch "mep"
          "PMode MEP one-way is not allowed by the generic profile (allowed: two-way)"]⟩) ∧
      ∀ profile pattern, (registrar.create ({} : MemoryStore) request .derived).result ≠
        .error (.defect (.unsupportedExchange profile pattern)) := by
  let now : Timestamp :=
    { date := ⟨2024, 5, 6, by decide⟩, hour := 7, minute := 8, second := 9, nanosecond := 0 }
  let registrar : Registrar := { profile := { allowedPatterns := [.twoWay] }, now }
  let request : CreationRequest :=
    { initiator := "buyer", responder := "seller", address := "https://as4.example" }
  have hcomplete : request.Complete := ⟨by decide, by decide, by decide⟩
  have hnot : ¬registrar.profile.Offers request.pattern := by decide
  have hchecked : registrar.profile.checkMode (registrar.profile.requestedMode .derived request) =
      [.error .valueMismatch "mep"
        "PMode MEP one-way is not allowed by the generic profile (allowed: two-way)"] := by
    decide +kernel
  have hresult := congrArg Outcome.result
    (registrar.register_of_refused ({} : MemoryStore) request.persist
      (registrar.profile.checkStructure_requestedMode .derived hcomplete)
      (registrar.profile.not_accepts_requestedMode .derived request hnot))
  rw [← registrar.create_oneWay ({} : MemoryStore) .derived rfl hcomplete, hchecked] at hresult
  refine ⟨registrar, request, rfl, hcomplete, hnot, hresult, fun profile pattern => ?_⟩
  rw [hresult]
  simp

end Registrar

end Ebms
