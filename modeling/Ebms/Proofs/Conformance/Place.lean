import Ebms.Proofs.Conformance.Mode
import Mathlib.Data.List.Infix

/-!
# Where findings are

The path of a finding says which part of a processing mode it is about. What is found on a block of
a leg is at the place of that block or below it, so it is below the leg; what is found in reception
awareness is at or below it; and a leg is itself the place of a finding only when it is missing or
should not be there. A mode that is sound in structure therefore has no finding at the place of a
leg.

Places are nested like the parts of a mode. Of two places that one path is within, one is within the
other.
-/

namespace Ebms

open Findings (OfRule)

/-- A path leads from a place to one of its parts. -/
def Below (place field : String) : Prop :=
  ∃ path, field = place ++ "." ++ path

/-- A path is a place or leads from it to one of its parts. -/
def Within (place field : String) : Prop :=
  field = place ∨ Below place field

/-- The place of a leg. -/
def legPlace (number : Nat) : String :=
  "leg" ++ toString number

/-- The path of a part of a leg is below the leg. -/
theorem below_legField (number : Nat) (path : String) :
    Below (legPlace number) (legField number path) :=
  ⟨path, rfl⟩

/-- What is below a place has a point in its path. -/
theorem Below.point_mem {place field : String} (h : Below place field) : '.' ∈ field.toList := by
  obtain ⟨path, rfl⟩ := h
  simp

/-- No place is below itself. -/
theorem not_below_self (place : String) : ¬Below place place := by
  rintro ⟨path, hpath⟩
  have hlength := congrArg String.length hpath
  simp only [String.length_append] at hlength
  have hpoint : ".".length = 1 := rfl
  omega

/-- A path is within a place exactly if the place, with a point behind it, is how the path with a
point behind it begins. -/
theorem within_iff_prefixOf (place field : String) :
    Within place field ↔ (place ++ ".").toList <+: (field ++ ".").toList := by
  simp only [Within, Below, String.toList_append]
  constructor
  · rintro (rfl | ⟨path, rfl⟩)
    · exact List.prefix_rfl
    · rw [String.toList_append, String.toList_append, List.append_assoc]
      exact List.prefix_append _ _
  · rintro ⟨rest, hrest⟩
    -- The point at the end belongs to the place if nothing follows, and to what follows otherwise.
    obtain rfl | ⟨path, last, rfl⟩ := List.eq_nil_or_concat rest
    · rw [List.append_nil] at hrest
      exact .inl (String.toList_inj.mp (List.append_cancel_right hrest)).symm
    · rw [List.concat_eq_append, ← List.append_assoc] at hrest
      have hfield : place.toList ++ ".".toList ++ path = field.toList :=
        List.append_inj_left' hrest rfl
      refine .inr ⟨String.ofList path, String.toList_inj.mp ?_⟩
      simp [← hfield]

/-- Whether a path is within a place is told by how it begins. -/
instance (place field : String) : Decidable (Within place field) :=
  decidable_of_iff _ (within_iff_prefixOf place field).symm

/-- What is below a place is what is within it and not at it. -/
theorem below_iff_within_ne (place field : String) :
    Below place field ↔ Within place field ∧ field ≠ place := by
  constructor
  · intro h
    exact ⟨.inr h, fun heq => not_below_self place (heq ▸ h)⟩
  · rintro ⟨hwithin, hne⟩
    exact hwithin.resolve_left hne

/-- Whether a path is below a place is told by how it begins. -/
instance (place field : String) : Decidable (Below place field) :=
  decidable_of_iff _ (below_iff_within_ne place field).symm

/-- What is within a place is within every place that this one is within. -/
theorem Within.trans {outer place field : String} (h : Within outer place)
    (h' : Within place field) : Within outer field := by
  rw [within_iff_prefixOf] at h h' ⊢
  exact h.trans h'

/-- Of two places that a path is within, one is within the other. -/
theorem Within.nested {place other field : String} (h : Within place field)
    (h' : Within other field) : Within place other ∨ Within other place := by
  rw [within_iff_prefixOf] at h h' ⊢
  rw [within_iff_prefixOf]
  exact List.prefix_or_prefix_of_prefix h h'

/-- What is within a part of a leg is below the leg. -/
theorem Within.below_leg {number : Nat} {block field : String}
    (h : Within (legField number block) field) : Below (legPlace number) field := by
  obtain rfl | ⟨rest, rfl⟩ := h
  · exact below_legField number block
  · exact ⟨block ++ "." ++ rest, by simp only [legPlace, legField, String.append_assoc]⟩

/-- The findings of a rule about a part of a block are within the block. -/
theorem Findings.OfRule.within {severity : Severity} {number : Nat} {block path : String}
    {kept : Prop} {findings : Findings}
    (h : OfRule severity (legField number path) kept findings) (hpath : Below block path) :
    ∀ finding ∈ findings, Within (legField number block) finding.field := by
  intro finding hfinding
  obtain ⟨rest, rfl⟩ := hpath
  rw [(h.of_mem hfinding).1]
  exact .inr ⟨rest, by simp only [legField, String.append_assoc]⟩

namespace Profile

/-- Whatever is found on a protocol block is within it. -/
theorem within_of_mem_checkProtocol (profile : Profile) (number : Nat) (leg : Leg) :
    ∀ finding ∈ profile.checkProtocol number leg,
      Within (legField number "protocol") finding.field := by
  unfold checkProtocol
  cases leg.protocol with
  | none => simp [Finding.error, Within]
  | some protocol =>
    rw [List.forall_mem_append]
    exact ⟨(profile.checkAddress_ofRule number protocol).within ⟨"address", by decide⟩,
      (profile.checkSoapVersion_ofRule number protocol).within ⟨"soap_version", by decide⟩⟩

/-- Whatever is found on a business block is within it. -/
theorem within_of_mem_checkBusiness (profile : Profile) (number : Nat) (leg : Leg) :
    ∀ finding ∈ profile.checkBusiness number leg,
      Within (legField number "business_information") finding.field :=
  (profile.checkBusiness_ofRule number leg).within ⟨"service", by decide⟩

/-- Whatever is found on a security block is within it. -/
theorem within_of_mem_checkSecurity (profile : Profile) (number : Nat) (leg : Leg) :
    ∀ finding ∈ profile.checkSecurity number leg,
      Within (legField number "security") finding.field := by
  unfold checkSecurity
  cases leg.security with
  | none => cases profile.requireSecurity <;> simp [Finding.error, Within]
  | some security =>
    simp only [checkSecurityBlock, List.forall_mem_append, and_assoc]
    refine ⟨(profile.checkCertificate_ofRule number security).within
        ⟨"x509_signature_certificate", ?_⟩,
      (checkAlgorithm_ofRule _ _ _ _).within ⟨"x509_signature_algorithm", ?_⟩,
      (checkAlgorithm_ofRule _ _ _ _).within ⟨"x509_signature_hash_function", ?_⟩,
      (checkAlgorithm_ofRule _ _ _ _).within ⟨"x509_encryption_algorithm", ?_⟩,
      (checkStrength_ofRule number security).within ⟨"x509_encryption_minimum_strength", ?_⟩,
      (profile.checkWssVersion_ofRule number security).within ⟨"wss_version", ?_⟩,
      (Requirement.check_ofRule _ _ _ _ _).within ⟨"pmode_authorize", ?_⟩,
      (Requirement.check_ofRule _ _ _ _ _).within ⟨"send_receipt_non_repudiation", ?_⟩,
      (profile.checkReplyPattern_ofRule number security).within
        ⟨"send_receipt_reply_pattern", ?_⟩⟩ <;> decide

/-- Whatever is found on an error handling block is within it. -/
theorem within_of_mem_checkErrorHandling (profile : Profile) (number : Nat) (leg : Leg) :
    ∀ finding ∈ profile.checkErrorHandling number leg,
      Within (legField number "error_handling") finding.field := by
  unfold checkErrorHandling
  cases leg.errorHandling with
  | none => cases profile.errorHandling.required <;> simp [Finding.error, Within]
  | some handling =>
    simp only [checkErrorFlags, List.forall_mem_append, and_assoc]
    refine ⟨(Requirement.check_ofRule _ _ _ _ _).within ⟨"report_as_response", ?_⟩,
      (Requirement.check_ofRule _ _ _ _ _).within ⟨"report_process_error_notify_consumer", ?_⟩,
      (Requirement.check_ofRule _ _ _ _ _).within ⟨"report_process_error_notify_producer", ?_⟩,
      (Requirement.check_ofRule _ _ _ _ _).within
        ⟨"report_delivery_failures_notify_producer", ?_⟩⟩ <;> decide

/-- Whatever is found on a leg is below it. -/
theorem below_of_mem_checkLeg (profile : Profile) (number : Nat) (leg : Leg) :
    ∀ finding ∈ profile.checkLeg number leg, Below (legPlace number) finding.field := by
  simp only [checkLeg_eq, List.forall_mem_append, and_assoc]
  refine ⟨?protocol, ?business, ?security, ?errorHandling⟩
  case protocol =>
    intro finding hfinding
    exact (profile.within_of_mem_checkProtocol number leg finding hfinding).below_leg
  case business =>
    intro finding hfinding
    exact (profile.within_of_mem_checkBusiness number leg finding hfinding).below_leg
  case security =>
    intro finding hfinding
    exact (profile.within_of_mem_checkSecurity number leg finding hfinding).below_leg
  case errorHandling =>
    intro finding hfinding
    exact (profile.within_of_mem_checkErrorHandling number leg finding hfinding).below_leg

end Profile

/-- The places where something can be found on a processing mode. -/
inductive FindingPlace (mode : ProcessingMode) : String → Prop where
  | pattern : FindingPlace mode "mep"
  | binding : FindingPlace mode "mep_binding"
  | missingLeg1 (h : mode.leg1 = none) : FindingPlace mode "leg1"
  | unfitLeg2 (h : ¬(mode.leg2 ≠ none ↔ mode.pattern = .twoWay)) : FindingPlace mode "leg2"
  | inLeg {number : Nat} {leg : Leg} (hleg : (number, leg) ∈ mode.legs) {field : String}
      (h : Below (legPlace number) field) : FindingPlace mode field
  | reception : FindingPlace mode "reception_awareness"
  | inReception {field : String} (h : Below "reception_awareness" field) : FindingPlace mode field

namespace Profile

/-- Whatever is found in reception awareness is within it. -/
theorem within_of_mem_checkReception (profile : Profile) (mode : ProcessingMode) :
    ∀ finding ∈ profile.checkReception mode, Within "reception_awareness" finding.field := by
  have hrule {field : String} {kept : Prop} {findings : Findings}
      (hbelow : Below "reception_awareness" field) (h : OfRule .error field kept findings) :
      ∀ finding ∈ findings, Within "reception_awareness" finding.field := by
    intro finding hfinding
    rw [(h.of_mem hfinding).1]
    exact .inr hbelow
  unfold checkReception
  cases mode.receptionAwareness with
  | none => cases profile.reception.required <;> simp [Finding.error, Within]
  | some awareness =>
    simp only [List.forall_mem_append, and_assoc]
    exact ⟨hrule ⟨"enabled", by decide⟩ (Requirement.check_ofRule _ _ _ _ _),
      hrule ⟨"retry", by decide⟩ (Requirement.check_ofRule _ _ _ _ _),
      hrule ⟨"duplicate_detection", by decide⟩ (Requirement.check_ofRule _ _ _ _ _)⟩

/-- Whatever is found on a mode is at one of its places. -/
theorem place_of_mem_checkMode (profile : Profile) (mode : ProcessingMode) :
    ∀ finding ∈ profile.checkMode mode, FindingPlace mode finding.field := by
  obtain ⟨first, second, hlegs, hfirst, hsecond⟩ := checkLegsPresent_ofRules mode
  obtain ⟨allowed, fitting, hbinding, hallowed, hfitting⟩ := profile.checkBinding_ofRules mode
  rw [checkMode_eq, hlegs, hbinding]
  simp only [List.forall_mem_append, and_assoc]
  refine ⟨?pattern, ?allowed, ?fitting, ?first, ?second, ?legs, ?reception⟩
  case pattern =>
    intro finding hfinding
    rw [((profile.checkPattern_ofRule mode).of_mem hfinding).1]
    exact .pattern
  case allowed =>
    intro finding hfinding
    rw [(hallowed.of_mem hfinding).1]
    exact .binding
  case fitting =>
    intro finding hfinding
    rw [(hfitting.of_mem hfinding).1]
    exact .binding
  case first =>
    intro finding hfinding
    obtain ⟨hfield, -, hbroken⟩ := hfirst.of_mem hfinding
    rw [hfield]
    exact .missingLeg1 (Decidable.not_not.mp hbroken)
  case second =>
    intro finding hfinding
    obtain ⟨hfield, -, hbroken⟩ := hsecond.of_mem hfinding
    rw [hfield]
    exact .unfitLeg2 hbroken
  case legs =>
    intro finding hfinding
    obtain ⟨⟨number, leg⟩, hleg, hfinding⟩ := List.mem_flatMap.mp hfinding
    exact .inLeg hleg (profile.below_of_mem_checkLeg number leg finding hfinding)
  case reception =>
    intro finding hfinding
    obtain hplace | hbelow := profile.within_of_mem_checkReception mode finding hfinding
    · rw [hplace]
      exact .reception
    · exact .inReception hbelow

end Profile

/-- Where the legs are there that should be, the place of a leg is not among the places of
findings. -/
theorem FindingPlace.ne_leg {mode : ProcessingMode} {field : String} (h : FindingPlace mode field)
    (hsound : mode.checkStructure = .ok ()) : field ≠ "leg1" ∧ field ≠ "leg2" := by
  obtain ⟨-, -, hleg1, hleg2⟩ := mode.checkStructure_eq_ok_iff.mp hsound
  have hbelow {place : String} (h : Below place field) : field ≠ "leg1" ∧ field ≠ "leg2" := by
    have hpoint := h.point_mem
    constructor
    · intro heq
      exact absurd (heq ▸ hpoint) (by decide)
    · intro heq
      exact absurd (heq ▸ hpoint) (by decide)
  cases h with
  | pattern => decide
  | binding => decide
  | missingLeg1 h => exact absurd h hleg1
  | unfitLeg2 h => exact absurd hleg2 h
  | inLeg _ h => exact hbelow h
  | reception => decide
  | inReception h => exact hbelow h

end Ebms
