import Ebms.Proofs.Conformance.Rules.Subject
import Ebms.Proofs.Conformance.Leg
import Ebms.Proofs.Structure

/-!
# When a processing mode meets a profile

A processing mode conforms to a profile when its pattern and its binding are allowed and fit each
other, the legs are there that the pattern asks for, every leg that is there conforms, and so does
its reception awareness. The checks refuse nothing exactly for the modes that conform, sound in
structure or not.
-/

namespace Ebms

open Findings (OfRule hasErrors hasErrors_append hasErrors_flatMap)

/-- Every switch of a reception awareness block meets its own requirement. -/
structure ReceptionRules.MetBy (rules : ReceptionRules) (awareness : ReceptionAwareness) :
    Prop where
  enabled : rules.enabled.MetBy awareness.enabled
  retry : rules.retry.MetBy awareness.retry
  duplicateDetection : rules.duplicateDetection.MetBy awareness.duplicateDetection

/-- What a profile asks of a processing mode. -/
structure Profile.Conforms (profile : Profile) (mode : ProcessingMode) : Prop where
  pattern : mode.pattern ∈ profile.allowedPatterns
  binding : mode.binding ∈ profile.allowedBindings
  bindingFits : mode.binding.isTwoWay = true ↔ mode.pattern = .twoWay
  leg1 : mode.leg1 ≠ none
  leg2 : mode.leg2 ≠ none ↔ mode.pattern = .twoWay
  legs : ∀ leg, mode.leg1 = some leg ∨ mode.leg2 = some leg → profile.LegConforms leg
  receptionGiven : mode.receptionAwareness = none → profile.reception.required = false
  reception : ∀ awareness ∈ mode.receptionAwareness, profile.reception.MetBy awareness

/-- A mode whose legs are changed alike. -/
def ProcessingMode.mapLegs (mode : ProcessingMode) (change : Leg → Leg) : ProcessingMode :=
  { mode with leg1 := mode.leg1.map change, leg2 := mode.leg2.map change }

/-- A mode still conforms when its legs are changed in such a way that they still conform. -/
theorem Profile.Conforms.mapLegs {profile : Profile} {mode : ProcessingMode}
    (h : profile.Conforms mode) {change : Leg → Leg}
    (hchange : ∀ leg, profile.LegConforms leg → profile.LegConforms (change leg)) :
    profile.Conforms (mode.mapLegs change) where
  pattern := h.pattern
  binding := h.binding
  bindingFits := h.bindingFits
  leg1 := by simpa [ProcessingMode.mapLegs] using h.leg1
  leg2 := by simpa [ProcessingMode.mapLegs] using h.leg2
  legs leg hleg := by
    obtain hfirst | hsecond := hleg
    · obtain ⟨given, hgiven, rfl⟩ := Option.map_eq_some_iff.mp hfirst
      exact hchange given (h.legs given (.inl hgiven))
    · obtain ⟨given, hgiven, rfl⟩ := Option.map_eq_some_iff.mp hsecond
      exact hchange given (h.legs given (.inr hgiven))
  receptionGiven := h.receptionGiven
  reception := h.reception

/-- The check for legs is two rules: the first leg is there, and the second one is there exactly
in two-way modes. -/
theorem checkLegsPresent_ofRules (mode : ProcessingMode) :
    ∃ first second, checkLegsPresent mode = first ++ second ∧
      OfRule .error "leg1" (mode.leg1 ≠ none) first ∧
      OfRule .error "leg2" (mode.leg2 ≠ none ↔ mode.pattern = .twoWay) second := by
  refine ⟨_, _, rfl, ?_, ?_⟩
  · refine (OfRule.ofWhen _ _).congr ?_
    simp
  · have hsecond : mode.leg2.isSome = true ↔ mode.leg2 ≠ none := by
      simp [Option.isSome_iff_ne_none]
    rw [← hsecond, ← mode.pattern.isTwoWay_eq_true_iff]
    cases htwo : mode.pattern.isTwoWay <;> cases hsome : mode.leg2.isSome
    · exact .kept (by simp)
    · exact .broken (by simp) _ _
    · exact .broken (by simp) _ _
    · exact .kept (by simp)

namespace Profile

/-- The check of a pattern is the rule that it is allowed. -/
theorem checkPattern_ofRule (profile : Profile) (mode : ProcessingMode) :
    OfRule .error "mep" (mode.pattern ∈ profile.allowedPatterns) (profile.checkPattern mode) := by
  refine (OfRule.ofUnless _ _).congr ?_
  simp

/-- The check of a binding is two rules: it is allowed, and it fits the pattern. -/
theorem checkBinding_ofRules (profile : Profile) (mode : ProcessingMode) :
    ∃ allowed fitting, profile.checkBinding mode = allowed ++ fitting ∧
      OfRule .error "mep_binding" (mode.binding ∈ profile.allowedBindings) allowed ∧
      OfRule .error "mep_binding" (mode.binding.isTwoWay = true ↔ mode.pattern = .twoWay)
        fitting := by
  refine ⟨_, _, rfl, ?_, ?_⟩
  · refine (OfRule.ofUnless _ _).congr ?_
    simp
  · refine (OfRule.ofUnless _ _).congr ?_
    rw [← mode.pattern.isTwoWay_eq_true_iff, Bool.eq_iff_iff]

/-- Reception awareness is not refused exactly when it is there if it has to be and its switches
meet their requirements if it is there. -/
theorem hasErrors_checkReception (profile : Profile) (mode : ProcessingMode) :
    hasErrors (profile.checkReception mode) = false ↔
      (mode.receptionAwareness = none → profile.reception.required = false) ∧
        ∀ awareness ∈ mode.receptionAwareness, profile.reception.MetBy awareness := by
  unfold checkReception
  cases mode.receptionAwareness with
  | none => cases profile.reception.required <;> simp
  | some awareness =>
    simp only [hasErrors_append, Bool.or_eq_false_iff,
      (Requirement.check_ofRule _ _ _ _ _).hasErrors_error_iff, and_assoc]
    constructor
    · intro h
      refine ⟨nofun, ?_⟩
      intro given hgiven
      cases hgiven
      exact ⟨h.1, h.2.1, h.2.2⟩
    · intro h
      have hmet := h.2 awareness rfl
      exact ⟨hmet.enabled, hmet.retry, hmet.duplicateDetection⟩

/-- The legs of a mode are not refused exactly when every leg that is there conforms. -/
theorem hasErrors_checkLegs (profile : Profile) (mode : ProcessingMode) :
    hasErrors (profile.checkLegs mode) = false ↔
      ∀ leg, mode.leg1 = some leg ∨ mode.leg2 = some leg → profile.LegConforms leg := by
  rw [checkLegs, hasErrors_flatMap]
  constructor
  · intro h leg hleg
    obtain hfirst | hsecond := hleg
    · have hmem := (mode.mem_legs_iff 1 leg).mpr (.inl ⟨rfl, hfirst⟩)
      exact (profile.hasErrors_checkLeg 1 leg).mp (h _ hmem)
    · have hmem := (mode.mem_legs_iff 2 leg).mpr (.inr ⟨rfl, hsecond⟩)
      exact (profile.hasErrors_checkLeg 2 leg).mp (h _ hmem)
  · intro h numbered hmem
    have hleg := (mode.mem_legs_iff numbered.1 numbered.2).mp hmem
    exact (profile.hasErrors_checkLeg numbered.1 numbered.2).mpr
      (h numbered.2 (hleg.imp And.right And.right))

/-- A profile accepts exactly the modes that conform to it. -/
theorem accepts_iff_conforms (profile : Profile) (mode : ProcessingMode) :
    profile.Accepts mode ↔ profile.Conforms mode := by
  obtain ⟨first, second, hlegs, hfirst, hsecond⟩ := checkLegsPresent_ofRules mode
  obtain ⟨allowed, fitting, hbinding, hallowed, hfitting⟩ := profile.checkBinding_ofRules mode
  rw [Accepts, checkMode_eq, hlegs, hbinding]
  simp only [hasErrors_append, Bool.or_eq_false_iff, hasErrors_checkLegs, hasErrors_checkReception,
    (profile.checkPattern_ofRule mode).hasErrors_error_iff, hallowed.hasErrors_error_iff,
    hfitting.hasErrors_error_iff, hfirst.hasErrors_error_iff, hsecond.hasErrors_error_iff,
    and_assoc]
  constructor
  · intro h
    obtain ⟨hpattern, hbinding, hfits, hleg1, hleg2, hlegs, hgiven, hreception⟩ := h
    exact ⟨hpattern, hbinding, hfits, hleg1, hleg2, hlegs, hgiven, hreception⟩
  · intro h
    exact ⟨h.pattern, h.binding, h.bindingFits, h.leg1, h.leg2, h.legs, h.receptionGiven,
      h.reception⟩

/-- Every leg of an accepted mode conforms. -/
theorem Accepts.legConforms {profile : Profile} {mode : ProcessingMode}
    (haccepts : profile.Accepts mode) {number : Nat} {leg : Leg}
    (hleg : (number, leg) ∈ mode.legs) : profile.LegConforms leg :=
  ((profile.accepts_iff_conforms mode).mp haccepts).legs leg <|
    ((mode.mem_legs_iff number leg).mp hleg).imp And.right And.right

/-- Checking a mode from nothing leaves no error exactly when the mode conforms: its pattern and
binding, its legs and every block of each of them, and its reception awareness. -/
theorem checkAll_mode_refuses_nothing_iff (profile : Profile) (mode : ProcessingMode) :
    (∀ finding ∈ (Subject.mode mode).checkAll [] [profile], finding.severity ≠ .error) ↔
      profile.Conforms mode := by
  rw [Subject.checkAll_singleton, List.nil_append, check_mode, ← Findings.hasErrors_eq_false_iff]
  exact profile.accepts_iff_conforms mode

end Profile

end Ebms
