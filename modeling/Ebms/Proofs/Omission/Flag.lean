import Ebms.Proofs.Conformance.Rules.Mode
import Ebms.Profile.Builtin
import Ebms.Proofs.Omission.Mode

/-!
# Flags that are left out are found missing

A profile asks for some flags of every leg and of reception awareness, each at its own path. Where
the block of a flag is there, the flag is checked against what is asked, and the findings are at
that path. A flag that is left out of a document is read as undefined, which is neither truth value.
So a profile that asks for either value, or for one of them, finds every such flag missing.
-/

namespace Ebms

open Json (LeftOf Omission)

/-- A flag that a profile can ask for: the blocks that it is in, the outermost first, its name in
the innermost one, what is asked of it and what it is. -/
structure AskedFlag where
  blocks : List String
  name : String
  requirement : Requirement
  flag : Flag
  deriving DecidableEq, Repr

namespace AskedFlag

/-- The path of the flag from the root of a document. -/
def path (asked : AskedFlag) : List String :=
  asked.blocks ++ [asked.name]

/-- The path with points between its parts. -/
def field (asked : AskedFlag) : String :=
  asked.blocks.foldr (fun block rest => block ++ "." ++ rest) asked.name

/-- The flag in a block that is in another one. -/
def within (block : String) (asked : AskedFlag) : AskedFlag :=
  { asked with blocks := block :: asked.blocks }

/-- The flag as it is read where it may have been left out. -/
def omitting (omission : Omission ProcessingMode.needed) (asked : AskedFlag) : AskedFlag :=
  { asked with flag := if omission.gone asked.path then .undefined else asked.flag }

/-- The flag is checked against what is asked of it: the findings hold everything that the check
leaves to be found at some path. -/
def CheckedAt (asked : AskedFlag) (field : String) (findings : Findings) : Prop :=
  ∃ lead name, asked.requirement.check field lead name asked.flag ⊆ findings

/-- A flag that is checked is checked among further findings. -/
theorem CheckedAt.mono {asked : AskedFlag} {field : String} {findings more : Findings}
    (h : asked.CheckedAt field findings) (hmore : findings ⊆ more) :
    asked.CheckedAt field more := by
  obtain ⟨lead, name, hfindings⟩ := h
  exact ⟨lead, name, List.Subset.trans hfindings hmore⟩

/-- A checked flag of which something is asked and that is undefined is found missing. -/
theorem CheckedAt.unset_mem {asked : AskedFlag} {field : String} {findings : Findings}
    (h : asked.CheckedAt field findings) (hasked : asked.requirement ≠ .unchecked)
    (hflag : asked.flag = .undefined) :
    ∃ message, Finding.error .mandatoryUnset field message ∈ findings := by
  obtain ⟨lead, name, hfindings⟩ := h
  refine ⟨lead ++ name ++ " is a mandatory PMode parameter", hfindings ?_⟩
  rw [hflag]
  cases hrequirement : asked.requirement with
  | unchecked => exact absurd hrequirement hasked
  | defined | equals => exact List.mem_cons_self

end AskedFlag

/-- The flags of a block that may be absent, within the name of the block. -/
def blockFlags {α : Type} (name : String) (flags : α → List AskedFlag) (block : Option α) :
    List AskedFlag :=
  (block.toList.flatMap flags).map (AskedFlag.within name)

/-- The flags of a block are those of the block that is there, within its name. -/
theorem mem_blockFlags {α : Type} {name : String} {flags : α → List AskedFlag} {block : Option α}
    {asked : AskedFlag} :
    asked ∈ blockFlags name flags block ↔
      ∃ value ∈ block, ∃ inner ∈ flags value, inner.within name = asked := by
  constructor
  · intro h
    obtain ⟨inner, hinner, hasked⟩ := List.mem_map.mp h
    obtain ⟨value, hvalue, hinner⟩ := List.mem_flatMap.mp hinner
    exact ⟨value, Option.mem_toList.mp hvalue, inner, hinner, hasked⟩
  · intro h
    obtain ⟨value, hvalue, inner, hinner, hasked⟩ := h
    have hflags : inner ∈ block.toList.flatMap flags :=
      List.mem_flatMap.mpr ⟨value, Option.mem_toList.mpr hvalue, hinner⟩
    exact List.mem_map.mpr ⟨inner, hflags, hasked⟩

/-- The flags that a table for error handling asks for. -/
def ErrorHandlingRules.flags (rules : ErrorHandlingRules) (handling : ErrorHandling) :
    List AskedFlag :=
  [⟨[], "report_as_response", rules.reportAsResponse, handling.reportAsResponse⟩,
    ⟨[], "report_process_error_notify_consumer", rules.notifyConsumer, handling.notifyConsumer⟩,
    ⟨[], "report_process_error_notify_producer", rules.notifyProducer, handling.notifyProducer⟩,
    ⟨[], "report_delivery_failures_notify_producer", rules.notifyDeliveryFailures,
      handling.notifyDeliveryFailures⟩]

/-- The switches that a table for reception awareness asks for. -/
def ReceptionRules.flags (rules : ReceptionRules) (awareness : ReceptionAwareness) :
    List AskedFlag :=
  [⟨[], "enabled", rules.enabled, awareness.enabled⟩,
    ⟨[], "retry", rules.retry, awareness.retry⟩,
    ⟨[], "duplicate_detection", rules.duplicateDetection, awareness.duplicateDetection⟩]

namespace Profile

/-- The flags of a security block that a profile asks for. -/
def securityFlags (profile : Profile) (security : Security) : List AskedFlag :=
  [⟨[], "pmode_authorize", profile.authorize, security.authorize⟩,
    ⟨[], "send_receipt_non_repudiation", profile.nonRepudiation, security.nonRepudiation⟩]

/-- The flags of a leg that a profile asks for. -/
def legFlags (profile : Profile) (leg : Leg) : List AskedFlag :=
  blockFlags "security" profile.securityFlags leg.security ++
    blockFlags "error_handling" profile.errorHandling.flags leg.errorHandling

/-- The flags of a processing mode that a profile asks for, in the blocks that are there. -/
def askedFlags (profile : Profile) (mode : ProcessingMode) : List AskedFlag :=
  blockFlags "leg1" profile.legFlags mode.leg1 ++ blockFlags "leg2" profile.legFlags mode.leg2 ++
    blockFlags "reception_awareness" profile.reception.flags mode.receptionAwareness

section Checked

variable (profile : Profile) (number : Nat)

/-- The flags of a security block are checked at their paths. -/
theorem checkedAt_securityFlags (security : Security) :
    ∀ asked ∈ profile.securityFlags security,
      asked.CheckedAt (legField number ("security" ++ "." ++ asked.field))
        (profile.checkSecurityBlock number security) := by
  have hauthorize :
      profile.authorize.check (legField number "security.pmode_authorize")
          (legLabel number ++ ": ") "PModeAuthorize" security.authorize ⊆
        profile.checkSecurityBlock number security := by
    intro finding hfinding
    simp [checkSecurityBlock, hfinding]
  have hreceipts :
      profile.nonRepudiation.check (legField number "security.send_receipt_non_repudiation")
          (legLabel number ++ ": ") "SendReceiptNonRepudiation" security.nonRepudiation ⊆
        profile.checkSecurityBlock number security := by
    intro finding hfinding
    simp [checkSecurityBlock, hfinding]
  -- the path of a check is that of the block and the name of the flag, put together
  simp only [securityFlags, List.forall_mem_cons]
  exact ⟨⟨_, _, hauthorize⟩, ⟨_, _, hreceipts⟩, List.forall_mem_nil _⟩

/-- The flags of an error handling block are checked at their paths. -/
theorem checkedAt_errorFlags (rules : ErrorHandlingRules) (handling : ErrorHandling) :
    ∀ asked ∈ rules.flags handling,
      asked.CheckedAt (legField number ("error_handling" ++ "." ++ asked.field))
        (checkErrorFlags rules number handling) := by
  simp only [ErrorHandlingRules.flags, List.forall_mem_cons]
  refine ⟨⟨legLabel number ++ ": ", "ReportAsResponse", ?_⟩,
    ⟨legLabel number ++ ": ", "ReportProcessErrorNotifyConsumer", ?_⟩,
    ⟨legLabel number ++ ": ", "ReportProcessErrorNotifyProducer", ?_⟩,
    ⟨legLabel number ++ ": ", "ReportDeliveryFailuresNotifyProducer", ?_⟩, List.forall_mem_nil _⟩
  all_goals
    intro finding hfinding
    simp only [checkErrorFlags, List.mem_append]
  · exact .inl (.inl (.inl hfinding))
  · exact .inl (.inl (.inr hfinding))
  · exact .inl (.inr hfinding)
  · exact .inr hfinding

/-- The flags of a leg are checked at their paths. -/
theorem checkedAt_legFlags (leg : Leg) :
    ∀ asked ∈ profile.legFlags leg,
      asked.CheckedAt (legField number asked.field) (profile.checkLeg number leg) := by
  intro asked hasked
  obtain hsecurity | hhandling := List.mem_append.mp hasked
  · obtain ⟨security, hgiven, inner, hinner, rfl⟩ := mem_blockFlags.mp hsecurity
    refine (profile.checkedAt_securityFlags number security inner hinner).mono ?_
    intro finding hfinding
    simp [checkLeg_eq, checkSecurity, Option.mem_def.mp hgiven, hfinding]
  · obtain ⟨handling, hgiven, inner, hinner, rfl⟩ := mem_blockFlags.mp hhandling
    refine (checkedAt_errorFlags number profile.errorHandling handling inner hinner).mono ?_
    intro finding hfinding
    simp [checkLeg_eq, checkErrorHandling, Option.mem_def.mp hgiven, hfinding]

/-- The switches of reception awareness are checked at their paths. -/
theorem checkedAt_receptionFlags (mode : ProcessingMode) :
    ∀ awareness ∈ mode.receptionAwareness, ∀ asked ∈ profile.reception.flags awareness,
      asked.CheckedAt ("reception_awareness" ++ "." ++ asked.field)
        (profile.checkReception mode) := by
  intro awareness hgiven
  simp only [ReceptionRules.flags, List.forall_mem_cons]
  refine ⟨⟨"", "ReceptionAwareness", ?_⟩, ⟨"", "ReceptionAwarenessRetry", ?_⟩,
    ⟨"", "ReceptionAwarenessDuplicateDetection", ?_⟩, List.forall_mem_nil _⟩
  all_goals
    intro finding hfinding
    simp only [checkReception, Option.mem_def.mp hgiven, List.mem_append]
  · exact .inl (.inl hfinding)
  · exact .inl (.inr hfinding)
  · exact .inr hfinding

/-- Every flag that a profile asks for is checked at its path. -/
theorem checkedAt_askedFlags (mode : ProcessingMode) :
    ∀ asked ∈ profile.askedFlags mode, asked.CheckedAt asked.field (profile.checkMode mode) := by
  intro asked hasked
  -- a leg that is there has its number, and its findings are among those of the mode
  have hleg : ∀ number leg, (number, leg) ∈ mode.legs → ∀ inner ∈ profile.legFlags leg,
      inner.CheckedAt (legField number inner.field) (profile.checkMode mode) := by
    intro number leg hleg inner hinner
    refine (profile.checkedAt_legFlags number leg inner hinner).mono ?_
    intro finding hfinding
    simp only [checkMode_eq, checkLegs, List.mem_append, List.mem_flatMap]
    exact .inl (.inr ⟨(number, leg), hleg, hfinding⟩)
  rw [askedFlags, List.mem_append, List.mem_append] at hasked
  obtain (hfirst | hsecond) | hreception := hasked
  · obtain ⟨leg, hgiven, inner, hinner, rfl⟩ := mem_blockFlags.mp hfirst
    exact hleg 1 leg (by simp [ProcessingMode.legs, Option.mem_def.mp hgiven]) inner hinner
  · obtain ⟨leg, hgiven, inner, hinner, rfl⟩ := mem_blockFlags.mp hsecond
    exact hleg 2 leg (by simp [ProcessingMode.legs, Option.mem_def.mp hgiven]) inner hinner
  · obtain ⟨awareness, hgiven, inner, hinner, rfl⟩ := mem_blockFlags.mp hreception
    refine (profile.checkedAt_receptionFlags mode awareness hgiven inner hinner).mono ?_
    intro finding hfinding
    simp [checkMode_eq, checkLegs, hfinding]

end Checked

end Profile

section Omitting

variable {omission : Omission ProcessingMode.needed}

/-- The flags of a block that may be absent are read as those of the block without what is left out,
if the flags of a block that is there are. -/
theorem omitting_mem_blockFlags {α : Type} {name : String} {flags : α → List AskedFlag}
    {block : Option α} {without : α → α} {asked : AskedFlag}
    (hasked : asked ∈ blockFlags name flags block) (hkeeps : omission.Keeps asked.blocks)
    (h : ∀ value, ∀ inner ∈ flags value, (omission.below name).Keeps inner.blocks →
      inner.omitting (omission.below name) ∈ flags (without value)) :
    asked.omitting omission ∈
      blockFlags name flags (omission.held name none (block.map without)) := by
  obtain ⟨value, hvalue, inner, hinner, rfl⟩ := mem_blockFlags.mp hasked
  obtain ⟨hkept, hbelow⟩ := Omission.keeps_cons.mp hkeeps
  rw [Omission.held_of_kept hkept]
  exact mem_blockFlags.mpr ⟨_, Option.mem_map_of_mem _ hvalue, _, h value inner hinner hbelow, rfl⟩

/-- The flags of a security block are read as those of the block without what is left out. -/
theorem Profile.map_omitting_securityFlags (profile : Profile) (security : Security) :
    (profile.securityFlags security).map (AskedFlag.omitting omission) =
      profile.securityFlags (security.omitting omission) := rfl

/-- The flags of an error handling block are read as those of the block without what is left
out. -/
theorem ErrorHandlingRules.map_omitting_flags (rules : ErrorHandlingRules)
    (handling : ErrorHandling) :
    (rules.flags handling).map (AskedFlag.omitting omission) =
      rules.flags (handling.omitting omission) := rfl

/-- The switches of reception awareness are read as those of the block without what is left out. -/
theorem ReceptionRules.map_omitting_flags (rules : ReceptionRules)
    (awareness : ReceptionAwareness) :
    (rules.flags awareness).map (AskedFlag.omitting omission) =
      rules.flags (awareness.omitting omission) := rfl

/-- The flags of a leg are read as those of the leg without what is left out. -/
theorem Profile.omitting_mem_legFlags (profile : Profile) {leg : Leg} {asked : AskedFlag}
    (hasked : asked ∈ profile.legFlags leg) (hkeeps : omission.Keeps asked.blocks) :
    asked.omitting omission ∈ profile.legFlags (leg.omitting omission) := by
  rw [legFlags, List.mem_append] at hasked ⊢
  obtain hsecurity | hhandling := hasked
  · refine .inl (omitting_mem_blockFlags hsecurity hkeeps fun security inner hinner _ => ?_)
    rw [← map_omitting_securityFlags]
    exact List.mem_map_of_mem hinner
  · refine .inr (omitting_mem_blockFlags hhandling hkeeps fun handling inner hinner _ => ?_)
    rw [← ErrorHandlingRules.map_omitting_flags]
    exact List.mem_map_of_mem hinner

/-- The flags of a processing mode are read as those of the mode without what is left out. -/
theorem Profile.omitting_mem_askedFlags (profile : Profile) {mode : ProcessingMode}
    {asked : AskedFlag} (hasked : asked ∈ profile.askedFlags mode)
    (hkeeps : omission.Keeps asked.blocks) :
    asked.omitting omission ∈ profile.askedFlags (mode.omitting omission) := by
  have hleg (leg : Leg) (name : String) : ∀ inner ∈ profile.legFlags leg,
      (omission.below name).Keeps inner.blocks →
        inner.omitting (omission.below name) ∈
          profile.legFlags (leg.omitting (omission.below name)) :=
    fun inner hinner hbelow => profile.omitting_mem_legFlags hinner hbelow
  rw [askedFlags, List.mem_append, List.mem_append] at hasked ⊢
  obtain (hfirst | hsecond) | hreception := hasked
  · exact .inl (.inl (omitting_mem_blockFlags hfirst hkeeps fun leg => hleg leg "leg1"))
  · exact .inl (.inr (omitting_mem_blockFlags hsecond hkeeps fun leg => hleg leg "leg2"))
  · refine .inr (omitting_mem_blockFlags hreception hkeeps fun awareness inner hinner _ => ?_)
    rw [← ReceptionRules.map_omitting_flags]
    exact List.mem_map_of_mem hinner

end Omitting

namespace ProcessingMode

/-- If a processing mode comes back unchanged from its text and some members of its document are
left out, both texts of what is left are read as the mode with exactly those parts reset. Every
profile that asks anything of a left out flag, the block of which is there, finds the flag missing
at its path. -/
theorem left_out_flags_found (mode : ProcessingMode)
    (hexact : codec.ofText (codec.toText mode) = .ok mode) (omission : Omission needed)
    (document : Json) (hleft : LeftOf omission (codec.encode mode) document) :
    (codec.ofText document.compact = .ok (mode.omitting omission) ∧
      codec.ofText document.indented = .ok (mode.omitting omission)) ∧
    ∀ (profile : Profile), ∀ asked ∈ profile.askedFlags mode,
      omission.gone asked.path = true → omission.Keeps asked.blocks →
        asked.requirement ≠ .unchecked →
          ∃ message, Finding.error .mandatoryUnset asked.field message ∈
            profile.checkMode (mode.omitting omission) := by
  have hsettled : mode.settled = mode :=
    Except.ok.inj ((ofText_written mode).1.symm.trans hexact)
  refine ⟨?read, ?found⟩
  case read =>
    have hread := codec_tolerates.ofText_left hleft
    rwa [hsettled] at hread
  case found =>
    intro profile asked hasked hgone hkeeps hrequirement
    have hread := profile.omitting_mem_askedFlags hasked hkeeps
    have hundefined : (asked.omitting omission).flag = .undefined := if_pos hgone
    exact (profile.checkedAt_askedFlags _ _ hread).unset_mem hrequirement hundefined

/-- The document of a mode leaves out whether a leg asks for authorization, with the address of the
leg, and whether lost messages are sent again. The profile of the German energy market finds both
flags missing in the mode that is read. -/
theorem left_out_flags_found_bdew :
    ∃ (mode : ProcessingMode) (omission : Omission needed) (document : Json),
      codec.ofText (codec.toText mode) = .ok mode ∧
      LeftOf omission (codec.encode mode) document ∧
      codec.ofText document.compact = .ok (mode.omitting omission) ∧
      (∃ message, Finding.error .mandatoryUnset "leg1.security.pmode_authorize" message ∈
        Profile.bdew.checkMode (mode.omitting omission)) ∧
      ∃ message, Finding.error .mandatoryUnset "reception_awareness.retry" message ∈
        Profile.bdew.checkMode (mode.omitting omission) := by
  let mode : ProcessingMode :=
    { id := ⟨"A-B", by decide⟩
      initiator := { idValue := "A", role := "r" }
      responder := { idValue := "B", role := "r" }
      pattern := .oneWay
      binding := .push
      leg1 := some
        { protocol := some { address := some "https://b.example" }
          security := some { authorize := .set false, nonRepudiation := .set true } }
      receptionAwareness := some .usual }
  let omission : Omission needed :=
    .ofPaths [["leg1", "protocol", "address"], ["leg1", "security", "pmode_authorize"],
      ["reception_awareness", "retry"]] (by decide)
  have hexact : codec.ofText (codec.toText mode) = .ok mode := by
    rw [(ofText_written mode).1, (settled_eq_self_iff mode).mpr]
    exact ⟨by decide, fun awareness hgiven => ⟨10000, by decide, by cases hgiven; rfl⟩⟩
  have hleft := Json.leftOf_left omission (codec.encode mode)
  obtain ⟨hread, hfound⟩ := left_out_flags_found mode hexact omission _ hleft
  refine ⟨mode, omission, _, hexact, hleft, hread.1, ?authorize, ?retry⟩
  case authorize =>
    have hkeeps : omission.Keeps ["leg1", "security"] :=
      Omission.keeps_cons.mpr ⟨rfl, Omission.keeps_cons.mpr ⟨rfl, Omission.keeps_nil _⟩⟩
    exact hfound .bdew ⟨["leg1", "security"], "pmode_authorize", .equals false, .set false⟩
      (by decide +kernel) rfl hkeeps nofun
  case retry =>
    have hkeeps : omission.Keeps ["reception_awareness"] :=
      Omission.keeps_cons.mpr ⟨rfl, Omission.keeps_nil _⟩
    exact hfound .bdew ⟨["reception_awareness"], "retry", .defined, .set true⟩
      (by decide +kernel) rfl hkeeps nofun

end ProcessingMode

end Ebms
