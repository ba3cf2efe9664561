import Ebms.Proofs.Conformance.Fault
import Ebms.Proofs.Conformance.Part
import Ebms.Proofs.Registration
import Mathlib.Data.List.Forall2

/-!
# How severe findings are

Whether a non-standard address refuses or only advises is a switch of the profile. No other rule
reads the switch, and no other rule advises: what the others find refuses under either setting. So
the two settings find the same, place by place and word by word, and differ in nothing but how
severe a finding on the scheme of an address is.

Advice is given at most once for each leg. A mode that is let in therefore comes with two pieces of
advice at most, and with none where the switch is on.
-/

namespace Ebms

open Findings (OfRule Refuse)

/-- A flag is never only advised about. -/
theorem Requirement.check_refuse (requirement : Requirement) (field lead name : String)
    (flag : Flag) : Refuse (requirement.check field lead name flag) := by
  unfold check
  split
  · exact .nil
  · exact .single (by decide)
  · exact .nil
  · exact .ofUnless _ (by decide)

/-- An algorithm is never only advised about. -/
theorem checkAlgorithm_refuse {α : Type} [DecidableEq α] [Spelled α] (field subject : String)
    (mandated actual : Option α) : Refuse (checkAlgorithm field subject mandated actual) := by
  unfold checkAlgorithm
  split
  · exact .nil
  · exact .single (by decide)
  · exact .ofUnless _ (by decide)

/-- The presence of legs is never only advised about. -/
theorem checkLegsPresent_refuse (mode : ProcessingMode) : Refuse (checkLegsPresent mode) := by
  unfold checkLegsPresent
  refine Refuse.append_iff.mpr ⟨.ofWhen _ (by decide), ?_⟩
  split
  · exact .single (by decide)
  · exact .single (by decide)
  · exact .nil

namespace Profile

variable (profile : Profile)

/-- A SOAP version is never only advised about. -/
theorem checkSoapVersion_refuse (number : Nat) (protocol : Protocol) :
    Refuse (profile.checkSoapVersion number protocol) := by
  unfold checkSoapVersion
  split
  · exact .nil
  · exact .ofUnless _ (by decide)

/-- A service is never only advised about. -/
theorem checkBusiness_refuse (number : Nat) (leg : Leg) :
    Refuse (profile.checkBusiness number leg) := by
  unfold checkBusiness
  split
  · exact .nil
  · exact .ofUnless _ (by decide)

/-- A minimum strength is never only advised about. -/
theorem checkStrength_refuse (number : Nat) (security : Security) :
    Refuse (checkStrength number security) := by
  unfold checkStrength
  split
  · exact .ofWhen _ (by decide)
  · exact .nil

/-- A WS-Security version is never only advised about. -/
theorem checkWssVersion_refuse (number : Nat) (security : Security) :
    Refuse (profile.checkWssVersion number security) := by
  unfold checkWssVersion
  split
  · exact .ofUnless _ (by decide)
  · exact .nil

/-- The way back of receipts is never only advised about. -/
theorem checkReplyPattern_refuse (number : Nat) (security : Security) :
    Refuse (profile.checkReplyPattern number security) := by
  unfold checkReplyPattern
  split
  · exact .nil
  · exact .ofWhen _ (by decide)

/-- A security block is never only advised about. -/
theorem checkSecurity_refuse (number : Nat) (leg : Leg) :
    Refuse (profile.checkSecurity number leg) := by
  unfold checkSecurity
  split
  · exact .ofWhen _ (by decide)
  · rename_i security _
    simp only [checkSecurityBlock, Refuse.append_iff, and_assoc]
    exact ⟨.ofWhen _ (by decide), checkAlgorithm_refuse _ _ _ _, checkAlgorithm_refuse _ _ _ _,
      checkAlgorithm_refuse _ _ _ _, checkStrength_refuse number security,
      profile.checkWssVersion_refuse number security, Requirement.check_refuse _ _ _ _ _,
      Requirement.check_refuse _ _ _ _ _, profile.checkReplyPattern_refuse number security⟩

/-- An error handling block is never only advised about. -/
theorem checkErrorHandling_refuse (number : Nat) (leg : Leg) :
    Refuse (profile.checkErrorHandling number leg) := by
  unfold checkErrorHandling
  split
  · exact .ofWhen _ (by decide)
  · simp only [checkErrorFlags, Refuse.append_iff, and_assoc]
    exact ⟨Requirement.check_refuse _ _ _ _ _, Requirement.check_refuse _ _ _ _ _,
      Requirement.check_refuse _ _ _ _ _, Requirement.check_refuse _ _ _ _ _⟩

/-- Reception awareness is never only advised about. -/
theorem checkReception_refuse (mode : ProcessingMode) : Refuse (profile.checkReception mode) := by
  unfold checkReception
  split
  · exact .ofWhen _ (by decide)
  · simp only [Refuse.append_iff, and_assoc]
    exact ⟨Requirement.check_refuse _ _ _ _ _, Requirement.check_refuse _ _ _ _ _,
      Requirement.check_refuse _ _ _ _ _⟩

/-- A pattern is never only advised about. -/
theorem checkPattern_refuse (mode : ProcessingMode) : Refuse (profile.checkPattern mode) :=
  .ofUnless _ (by decide)

/-- A binding is never only advised about. -/
theorem checkBinding_refuse (mode : ProcessingMode) : Refuse (profile.checkBinding mode) :=
  Refuse.append_iff.mpr ⟨.ofUnless _ (by decide), .ofUnless _ (by decide)⟩

/-- A user message is never only advised about. -/
theorem checkUserMessage_refuse (message : UserMessage) :
    Refuse (profile.checkUserMessage message) := by
  rw [checkUserMessage_eq_faults]
  intro finding hfinding
  obtain ⟨fault, -, rfl⟩ := List.mem_map.mp hfinding
  refine ⟨rfl, ?_⟩
  change fault.category ≠ .advisory
  cases fault with
  | partyIdType side partyId =>
    rw [UserMessageFault.category]
    split <;> decide
  | _ => exact Category.noConfusion

/-- A signal message is never only advised about. -/
theorem checkSignalMessage_refuse (message : SignalMessage) :
    Refuse (profile.checkSignalMessage message) := by
  rw [checkSignalMessage_eq]
  refine Refuse.append_iff.mpr ⟨?info, ?signal⟩
  case info =>
    unfold checkMessageInfo
    split
    · exact .single (by decide)
    · exact .ofWhen _ (by decide)
  case signal =>
    unfold checkSignal
    split
    · exact .single (by decide)
    · exact .ofUnless _ (by decide)
    · exact .ofWhen _ (by decide)
    · exact .ofWhen _ (by decide)

/-- A mode is only advised about for the protocol blocks of its legs. -/
theorem checkGroup_refuse (mode : ProcessingMode) {group : RuleGroup}
    (h : ∀ position, group ≠ .block position .protocol) :
    Refuse (profile.checkGroup mode group) := by
  cases group with
  | pattern => exact profile.checkPattern_refuse mode
  | binding => exact profile.checkBinding_refuse mode
  | presence position =>
    intro finding hfinding
    exact checkLegsPresent_refuse mode finding (List.mem_of_mem_filter hfinding)
  | block position named =>
    rw [checkGroup]
    cases mode.leg? position with
    | none => exact .nil
    | some leg =>
      cases named with
      | protocol => exact absurd rfl (h position)
      | business => exact profile.checkBusiness_refuse position.number leg
      | security => exact profile.checkSecurity_refuse position.number leg
      | errorHandling => exact profile.checkErrorHandling_refuse position.number leg
  | reception => exact profile.checkReception_refuse mode

/-- Advice on an address is of the kind that advises. -/
theorem checkAddress_graded (number : Nat) (protocol : Protocol) :
    (profile.checkAddress number protocol).Graded := by
  have hscheme (field message : String) :
      Findings.Graded [profile.schemeFinding field message] := by
    intro finding hfinding
    rw [List.mem_singleton.mp hfinding, schemeFinding]
    split <;> simp [Finding.error, Finding.warning]
  unfold checkAddress
  split
  · exact (Refuse.ofWhen _ (by decide)).graded
  · exact hscheme _ _
  · split
    · exact Refuse.nil.graded
    · exact hscheme _ _

/-- Advice on a protocol block is of the kind that advises. -/
theorem checkProtocol_graded (number : Nat) (leg : Leg) :
    (profile.checkProtocol number leg).Graded := by
  unfold checkProtocol
  split
  · exact (Refuse.single (by decide)).graded
  · rename_i protocol _
    exact List.forall_mem_append.mpr ⟨profile.checkAddress_graded number protocol,
      (profile.checkSoapVersion_refuse number protocol).graded⟩

/-- Advice from a group of rules is of the kind that advises. -/
theorem checkGroup_graded (mode : ProcessingMode) (group : RuleGroup) :
    (profile.checkGroup mode group).Graded := by
  by_cases h : ∀ position, group ≠ .block position .protocol
  · exact (profile.checkGroup_refuse mode h).graded
  · obtain ⟨position, rfl⟩ := not_forall_not.mp h
    rw [checkGroup]
    cases mode.leg? position with
    | none => exact Refuse.nil.graded
    | some leg => exact profile.checkProtocol_graded position.number leg

/-- Advice on a mode is of the kind that advises. -/
theorem checkMode_graded (mode : ProcessingMode) : (profile.checkMode mode).Graded := by
  intro finding hfinding
  rw [checkMode_eq_flatMap, List.mem_flatMap] at hfinding
  obtain ⟨group, -, hfinding⟩ := hfinding
  exact profile.checkGroup_graded mode group finding hfinding

/-- What the address of a leg at some position is advised about. -/
def advice (mode : ProcessingMode) (position : LegPosition) : Findings :=
  Findings.warnings (profile.checkGroup mode (.block position .protocol))

/-- The warnings on a mode are about the address of the first leg, and then about that of the second
one. -/
theorem warnings_checkMode (mode : ProcessingMode) :
    Findings.warnings (profile.checkMode mode) =
      profile.advice mode .first ++ profile.advice mode .second := by
  have hnone {group : RuleGroup} (h : ∀ position, group ≠ .block position .protocol) :
      Findings.warnings (profile.checkGroup mode group) = [] :=
    (profile.checkGroup_refuse mode h).warnings_eq_nil
  rw [checkMode_eq_flatMap, Findings.warnings_flatMap]
  simp [RuleGroup.all, LegBlock.all, hnone, advice]

/-- A leg is advised about once at most, at its address, and only where schemes are not fatal. -/
theorem advice_ofRule (mode : ProcessingMode) (position : LegPosition) :
    ∃ kept, OfRule .warning (legField position.number "protocol.address") kept
        (profile.advice mode position) ∧
      (profile.schemeIsFatal = true → kept) := by
  rw [advice, checkGroup]
  cases mode.leg? position with
  | none => exact ⟨True, .kept trivial, fun _ => trivial⟩
  | some leg =>
    rw [Option.elim_some, checkBlock, checkProtocol]
    cases leg.protocol with
    | none => exact ⟨True, .kept trivial, fun _ => trivial⟩
    | some protocol =>
      have hsoap := (profile.checkSoapVersion_refuse position.number protocol).warnings_eq_nil
      have haddress := (profile.checkAddress_ofRule position.number protocol).warnings
      simp only [Findings.warnings_append, hsoap, List.append_nil]
      refine ⟨_, haddress, fun hfatal => .inr ?_⟩
      exact if_pos (.inr hfatal)

/-- No place of a mode is advised about twice. -/
theorem length_forField_warnings_checkMode (mode : ProcessingMode) (field : String) :
    (Findings.forField (Findings.warnings (profile.checkMode mode)) field).length ≤ 1 := by
  choose kept hrule _ using profile.advice_ofRule mode
  have hplace : Function.Injective fun position : LegPosition =>
      legField position.number "protocol.address" := by
    intro position other h
    cases position <;> cases other <;> first | rfl | exact absurd h (by decide)
  have hwarnings : Findings.warnings (profile.checkMode mode) =
      [LegPosition.first, .second].flatMap (profile.advice mode) := by
    rw [warnings_checkMode]
    simp
  rw [hwarnings]
  exact Findings.length_forField_flatMap_le_one hrule hplace (by decide) field

/-- A mode is advised about twice at most, and never where schemes are fatal. -/
theorem length_warnings_checkMode (mode : ProcessingMode) :
    (Findings.warnings (profile.checkMode mode)).length ≤ 2 ∧
      (profile.schemeIsFatal = true → Findings.warnings (profile.checkMode mode) = []) := by
  obtain ⟨_, hfirst, hfirst_fatal⟩ := profile.advice_ofRule mode .first
  obtain ⟨_, hsecond, hsecond_fatal⟩ := profile.advice_ofRule mode .second
  rw [warnings_checkMode]
  constructor
  · rw [List.length_append]
    exact Nat.add_le_add hfirst.length_le_one hsecond.length_le_one
  · intro hfatal
    rw [hfirst.eq_nil_iff.mpr (hfirst_fatal hfatal), hsecond.eq_nil_iff.mpr (hsecond_fatal hfatal),
      List.append_nil]

/-- Advice is given at the address of a leg. -/
theorem field_of_mem_warnings_checkMode {mode : ProcessingMode} {finding : Finding}
    (h : finding ∈ Findings.warnings (profile.checkMode mode)) :
    finding.field = "leg1.protocol.address" ∨ finding.field = "leg2.protocol.address" := by
  obtain ⟨_, hfirst, -⟩ := profile.advice_ofRule mode .first
  obtain ⟨_, hsecond, -⟩ := profile.advice_ofRule mode .second
  rw [warnings_checkMode, List.mem_append] at h
  exact h.imp (fun h => (hfirst.of_mem h).1) (fun h => (hsecond.of_mem h).1)

/-- A profile with the switch for schemes on or off. -/
def withFatal (profile : Profile) (fatal : Bool) : Profile :=
  { profile with schemeIsFatal := fatal }

end Profile

/-- A finding that refuses: a warning is turned into the error at the same place with the same
words. -/
def Finding.raised (finding : Finding) : Finding :=
  if finding.severity = .warning then .error .valueMismatch finding.field finding.message
  else finding

/-- Findings that hold no advice are not raised. -/
theorem Findings.Refuse.map_raised {findings : Findings} (h : Refuse findings) :
    findings.map Finding.raised = findings := by
  have hsame : ∀ finding ∈ findings, finding.raised = id finding := by
    intro finding hfinding
    rw [Finding.raised, (h finding hfinding).1]
    rfl
  rw [List.map_congr_left hsame, List.map_id]

namespace Profile

variable (profile : Profile)

/-- Where schemes are fatal, advice on an address is raised. -/
theorem checkAddress_withFatal (number : Nat) (protocol : Protocol) :
    (profile.withFatal true).checkAddress number protocol =
      ((profile.withFatal false).checkAddress number protocol).map Finding.raised := by
  have hscheme (field message : String) :
      (profile.withFatal true).schemeFinding field message =
        ((profile.withFatal false).schemeFinding field message).raised := rfl
  unfold checkAddress
  cases protocol.address with
  | none => exact (Refuse.ofWhen _ (by decide)).map_raised.symm
  | some address =>
    cases protocol.scheme? with
    | none => exact congrArg ([·]) (hscheme _ _)
    | some scheme =>
      have hallows : (profile.withFatal true).allowsScheme scheme =
          (profile.withFatal false).allowsScheme scheme := rfl
      simp only [hallows]
      split
      · rfl
      · rw [List.map_singleton, hscheme]

/-- Where schemes are fatal, advice on a protocol block is raised, and nothing else is new. -/
theorem checkProtocol_withFatal (number : Nat) (leg : Leg) :
    (profile.withFatal true).checkProtocol number leg =
      ((profile.withFatal false).checkProtocol number leg).map Finding.raised := by
  unfold checkProtocol
  cases leg.protocol with
  | none => exact (Refuse.single (by decide)).map_raised.symm
  | some protocol =>
    have hsoap := (profile.withFatal false).checkSoapVersion_refuse number protocol
    rw [List.map_append, ← checkAddress_withFatal, hsoap.map_raised]
    rfl

/-- Where schemes are fatal, advice from a group of rules is raised, and nothing else is new. -/
theorem checkGroup_withFatal (mode : ProcessingMode) (group : RuleGroup) :
    (profile.withFatal true).checkGroup mode group =
      ((profile.withFatal false).checkGroup mode group).map Finding.raised := by
  by_cases h : ∀ position, group ≠ .block position .protocol
  · rw [((profile.withFatal false).checkGroup_refuse mode h).map_raised]
    -- no other group reads the switch
    cases group with
    | block position named =>
      cases named with
      | protocol => exact absurd rfl (h position)
      | _ => rfl
    | _ => rfl
  · obtain ⟨position, rfl⟩ := not_forall_not.mp h
    rw [checkGroup, checkGroup]
    cases mode.leg? position with
    | none => rfl
    | some leg => exact profile.checkProtocol_withFatal position.number leg

/-- Where schemes are fatal, advice on a mode is raised, and nothing else is new. -/
theorem checkMode_withFatal (mode : ProcessingMode) :
    (profile.withFatal true).checkMode mode =
      ((profile.withFatal false).checkMode mode).map Finding.raised := by
  rw [checkMode_eq_flatMap, checkMode_eq_flatMap, List.map_flatMap]
  exact List.flatMap_congr fun group _ => profile.checkGroup_withFatal mode group

end Profile

/-- Two findings have the same words at the same place, and everywhere but at the address of a leg
they are as severe and of the same kind. -/
structure Finding.SameWords (finding other : Finding) : Prop where
  field : finding.field = other.field
  message : finding.message = other.message
  elsewhere : finding.field ≠ "leg1.protocol.address" → finding.field ≠ "leg2.protocol.address" →
    finding.severity = other.severity ∧ finding.category = other.category

namespace Profile

/-- Where schemes are fatal, the same is found in the same words, and only at the addresses of legs
may it be more severe. -/
theorem sameWords_checkMode (profile : Profile) (mode : ProcessingMode) :
    List.Forall₂ Finding.SameWords ((profile.withFatal true).checkMode mode)
      ((profile.withFatal false).checkMode mode) := by
  rw [checkMode_withFatal, List.forall₂_map_left_iff, List.forall₂_same]
  intro finding hfinding
  by_cases hadvice : finding.severity = .warning
  · have hmem : finding ∈ Findings.warnings ((profile.withFatal false).checkMode mode) :=
      List.mem_filter.mpr ⟨hfinding, decide_eq_true hadvice⟩
    have hfield := (profile.withFatal false).field_of_mem_warnings_checkMode hmem
    rw [Finding.raised, if_pos hadvice]
    exact ⟨rfl, rfl, fun hfirst hsecond => absurd hfield (not_or.mpr ⟨hfirst, hsecond⟩)⟩
  · rw [Finding.raised, if_neg hadvice]
    exact ⟨rfl, rfl, fun _ _ => ⟨rfl, rfl⟩⟩

/-- Severity is one switch. With the switch on or off the same is found on a mode, finding by
finding in the same words at the same places, and only at the addresses of legs can a finding differ
in severity and kind. With the switch on no finding is a warning. With the switch off the warnings
are the findings of the kind that advises, each of them at the address of a leg and at most one at
each place. So whatever a registrar lets in, over whatever store, comes with two warnings at most,
and with none where the switch is on. -/
theorem severity_is_one_switch (profile : Profile) :
    (∀ mode : ProcessingMode,
      List.Forall₂ Finding.SameWords ((profile.withFatal true).check (.mode mode))
        ((profile.withFatal false).check (.mode mode)) ∧
      (∀ finding ∈ (profile.withFatal true).check (.mode mode), finding.severity ≠ .warning) ∧
      (∀ finding ∈ (profile.withFatal false).check (.mode mode),
        (finding.severity = .warning ↔ finding.category = .advisory) ∧
        (finding.severity = .warning →
          finding.field = "leg1.protocol.address" ∨ finding.field = "leg2.protocol.address")) ∧
      ∀ field, (Findings.forField
        (Findings.warnings ((profile.withFatal false).check (.mode mode))) field).length ≤ 1) ∧
    ∀ (σ : Type) [Repository σ] (now : Timestamp) (store : σ) (call : RegistrarCall)
      (registration : Registration),
      (Registrar.answer ⟨profile, now⟩ store call).result = .ok registration →
        registration.warnings.length ≤ 2 ∧
          (profile.schemeIsFatal = true → registration.warnings = []) := by
  refine ⟨fun mode => ⟨?same, ?fatal, ?advisory, ?once⟩, ?registered⟩
  case same => exact profile.sameWords_checkMode mode
  case fatal =>
    intro finding hfinding hwarning
    have hnone := ((profile.withFatal true).length_warnings_checkMode mode).2 rfl
    have hmem := Findings.mem_warnings.mpr ⟨hfinding, hwarning⟩
    rw [check_mode, hnone] at hmem
    cases hmem
  case advisory =>
    intro finding hfinding
    refine ⟨(profile.withFatal false).checkMode_graded mode finding hfinding, fun hwarning => ?_⟩
    exact (profile.withFatal false).field_of_mem_warnings_checkMode
      (Findings.mem_warnings.mpr ⟨hfinding, hwarning⟩)
  case once =>
    intro field
    exact (profile.withFatal false).length_forField_warnings_checkMode mode field
  case registered =>
    intro σ _ now store call registration h
    obtain ⟨hfound, haccepts⟩ := Registrar.warnings_of_answer h
    have hwarnings := (profile.accepts_iff_warnings registration.mode).mp haccepts
    have hall : Findings.warnings registration.warnings = registration.warnings := by
      refine List.filter_eq_self.mpr fun finding hfinding => beq_iff_eq.mpr ?_
      rw [hfound] at hfinding
      exact hwarnings finding hfinding
    rw [← hall, hfound]
    exact profile.length_warnings_checkMode registration.mode

end Profile

end Ebms
