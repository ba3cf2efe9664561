import Ebms.Proofs.Naming
import Ebms.Proofs.Offer
import Ebms.Proofs.Store.Refinement

/-!
# Proposed modes are kept as they are

The document of a mode keeps everything but white space around its identifier and what a span of
time has beyond whole milliseconds. A proposal has neither, whatever the profile and the texts it is
made from: the usual time between retries is a number of whole seconds, a name that is fixed was
made from a text, and a name that is derived begins and ends like the two texts of the parties,
which are trimmed before the name is made. So a proposal comes back from its texts, and from a
directory, exactly as it was.
-/

namespace Ebms

namespace Naming

/-- The naming rules that are there for proposals: names that are derived from the parties, or one
name that some text stands for. -/
inductive Standard : Naming → Prop where
  | derived : Standard derived
  | fixed {text : String} {id : ModeId} (h : ModeId.ofText text = .ok id) : Standard (fixed id)

/-- Parties without a type of identifier, both made from trimmed texts, have a derived name without
white space around it. -/
theorem trim_derivedText_of_trimmed (initiator responder role role' : String) :
    Text.trim (derivedText { idValue := Text.trim initiator, role }
        { idValue := Text.trim responder, role := role' }) =
      derivedText { idValue := Text.trim initiator, role }
        { idValue := Text.trim responder, role := role' } := by
  rw [trim_derivedText_eq_self_iff]
  have hinitiator := (Text.trim_eq_self_iff _).mp (Text.trim_trim initiator)
  have hresponder := (Text.trim_eq_self_iff _).mp (Text.trim_trim responder)
  exact ⟨hinitiator.1, hresponder.2⟩

end Naming

namespace Profile

variable (profile : Profile)

/-- A proposal has no white space around its name. -/
theorem trim_id_proposedMode {naming : Naming} (h : naming.Standard) (pattern : Pattern)
    (binding : Binding) (initiator responder address : String) :
    let mode := profile.proposedMode naming pattern binding initiator responder address
    Text.trim mode.id.text = mode.id.text := by
  cases h with
  | derived => exact Naming.trim_derivedText_of_trimmed initiator responder _ _
  | fixed h => exact (ModeId.trimmed_eq_self_iff _).mp (ModeId.trimmed_of_ofText h)

/-- A proposal is exact: besides its name, the time between retries has whole milliseconds. -/
theorem exact_proposedMode {naming : Naming} (h : naming.Standard) (pattern : Pattern)
    (binding : Binding) (initiator responder address : String) :
    (profile.proposedMode naming pattern binding initiator responder address).Exact := by
  refine ⟨profile.trim_id_proposedMode h pattern binding initiator responder address, ?_⟩
  intro awareness hawareness
  cases hawareness
  exact ⟨10000, by decide, rfl⟩

end Profile

/-- An exact mode that is sound in structure is kept as it is by a directory that was empty: it is
found under its identifier, and that identifier is the only one. -/
theorem Directory.save_empty_of_exact {mode : ProcessingMode}
    (hsound : mode.checkStructure = .ok ()) (hexact : mode.Exact) :
    (save {} mode).result = .ok () ∧ (save {} mode).state.find mode.id = .ok (some mode) ∧
      (save {} mode).state.list = .ok [mode.id] := by
  have hid : mode.id ∈ [mode.id] := List.mem_singleton_self _
  have hapart : DigestsApart [mode.id] := by
    intro id hid other hother _
    rw [List.mem_singleton.mp hid, List.mem_singleton.mp hother]
  obtain ⟨hresult, hmirrors⟩ := (Mirrors.empty [mode.id]).save hapart hid
  rw [MemoryStore.save_of_sound _ hsound] at hresult hmirrors
  refine ⟨hresult, ?find, ?list⟩
  case find =>
    rw [hmirrors.find hapart hid, MemoryStore.find_put, if_pos rfl, Option.map_some,
      (ProcessingMode.settled_eq_self_iff mode).mpr hexact]
  case list =>
    refine hmirrors.list_of_trimmed hapart fun held hholds => ?_
    rw [List.mem_singleton.mp hholds]
    exact (ModeId.trimmed_eq_self_iff _).mpr hexact.1

/-- Every proposal is kept exactly. Whatever profile proposes a mode, and whatever it is made from,
both of its texts are read as the mode itself; and once it is saved in an empty directory, the mode
itself is found under its identifier, and that identifier alone is listed. -/
theorem Profile.proposal_kept_exactly (profile : Profile) (pattern : Pattern) {naming : Naming}
    (initiator responder address : String) {mode : ProcessingMode} (hnaming : naming.Standard)
    (hmode : profile.propose pattern naming initiator responder address = .ok mode) :
    (ProcessingMode.codec.ofText (ProcessingMode.codec.toText mode) = .ok mode ∧
      ProcessingMode.codec.ofText (ProcessingMode.codec.encode mode).indented = .ok mode) ∧
    (Directory.save {} mode).result = .ok () ∧
    (Directory.save {} mode).state.find mode.id = .ok (some mode) ∧
    (Directory.save {} mode).state.list = .ok [mode.id] := by
  obtain ⟨rfl, hinitiator, hresponder⟩ := propose_eq_ok hmode
  have hexact := profile.exact_proposedMode hnaming pattern pattern.proposedBinding initiator
    responder address
  have hsound := profile.checkStructure_proposedMode naming pattern pattern.proposedBinding address
    hinitiator hresponder
  have htexts := ProcessingMode.ofText_written
    (profile.proposedMode naming pattern pattern.proposedBinding initiator responder address)
  rw [(ProcessingMode.settled_eq_self_iff _).mpr hexact] at htexts
  exact ⟨htexts, Directory.save_empty_of_exact hsound hexact⟩

/-- White space of any kind around the texts of the parties is gone before a name is derived from
them, and what is escaped in the name stays escaped. -/
theorem Profile.proposal_kept_exactly_spaced :
    ∃ mode : ProcessingMode,
      cef.propose .twoWay .derived "\u2003buyer-1\u00a0" "\t100% seller " "https://b.example" =
        .ok mode ∧
      mode.id.text = "buyer%2D1-100%25 seller" ∧
      (Directory.save {} mode).state.find mode.id = .ok (some mode) ∧
      (Directory.save {} mode).state.list = .ok [mode.id] := by
  let mode := cef.proposedMode .derived .twoWay .pushPush "\u2003buyer-1\u00a0" "\t100% seller "
    "https://b.example"
  have hmode : cef.propose .twoWay .derived "\u2003buyer-1\u00a0" "\t100% seller "
      "https://b.example" = .ok mode := by
    decide +kernel
  have hkept := cef.proposal_kept_exactly .twoWay _ _ _ .derived hmode
  exact ⟨mode, hmode, by decide +kernel, hkept.2.2⟩

end Ebms
