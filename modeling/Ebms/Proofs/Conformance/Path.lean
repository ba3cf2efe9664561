import Ebms.Proofs.Conformance.Deviation
import Mathlib.Data.List.Flatten

/-!
# The paths of findings

Every rule about a processing mode has a path of its own, and its finding is at that path. The two
rules about the binding are the exception: whether it is allowed and whether it fits the pattern are
asked at the same place. A group of rules therefore finds at most what stands in its table of paths,
in the order of the table, and in the tables of all groups no path but that of the binding comes
twice.
-/

namespace Ebms

open Findings (OfRule)

namespace Findings

/-- The paths of some findings, in order. -/
def paths (findings : Findings) : List String :=
  findings.map Finding.field

/-- The paths of findings in a row stand in a row. -/
theorem paths_append (earlier later : Findings) :
    paths (earlier ++ later) = paths earlier ++ paths later :=
  List.map_append

/-- The paths of what is found on values in turn are those of each value in turn. -/
theorem paths_flatMap {α : Type} (values : List α) (check : α → Findings) :
    paths (values.flatMap check) = values.flatMap fun value => paths (check value) :=
  List.map_flatMap ..

/-- The only path at which a rule finds something is its own. -/
theorem OfRule.paths_sublist {severity : Severity} {field : String} {kept : Prop}
    {findings : Findings} (h : OfRule severity field kept findings) :
    (paths findings).Sublist [field] := by
  cases h with
  | kept => exact List.nil_sublist _
  | broken => exact .refl _

end Findings

open Findings (paths paths_append paths_flatMap)

/-- What is found on a flag is at the path that is checked. -/
theorem Requirement.paths_check_sublist (requirement : Requirement) (path lead name : String)
    (flag : Flag) : (paths (requirement.check path lead name flag)).Sublist [path] :=
  (requirement.check_ofRule path lead name flag).paths_sublist

/-- The paths from the leg at which something can be found on a block, in the order of the rules. -/
def LegBlock.paths : LegBlock → List String
  | protocol => ["protocol", "protocol.address", "protocol.soap_version"]
  | business => ["business_information.service"]
  | security => "security" :: SecurityField.all.map SecurityField.path
  | errorHandling =>
      ["error_handling", "error_handling.report_as_response",
        "error_handling.report_process_error_notify_consumer",
        "error_handling.report_process_error_notify_producer",
        "error_handling.report_delivery_failures_notify_producer"]

namespace RuleGroup

/-- The paths of the rules of a group, in the order of the rules. -/
def paths : RuleGroup → List String
  | pattern => [pattern.place]
  | binding => [binding.place, binding.place]
  | presence position => [(presence position).place]
  | block position named => named.paths.map (legField position.number)
  | reception =>
      [reception.place, "reception_awareness.enabled", "reception_awareness.retry",
        "reception_awareness.duplicate_detection"]

/-- The path of the binding belongs to no other group, and that group has no other path. -/
theorem eq_place_binding_iff {group : RuleGroup} {path : String} (h : path ∈ group.paths) :
    path = binding.place ↔ group = binding := by
  have hall : ∀ group ∈ all, ∀ path ∈ group.paths, path = binding.place ↔ group = binding := by
    decide +kernel
  exact hall group group.mem_all path h

/-- No path but that of the binding comes twice. -/
theorem pairwise_paths :
    (all.flatMap paths).Pairwise fun path other => path = other → path = binding.place := by
  decide +kernel

end RuleGroup

namespace Profile

variable (profile : Profile)

/-- What is found on a protocol block is at its paths. -/
theorem paths_checkProtocol_sublist (number : Nat) (leg : Leg) :
    (paths (profile.checkProtocol number leg)).Sublist
      (LegBlock.protocol.paths.map (legField number)) := by
  unfold checkProtocol
  cases leg.protocol with
  | none => exact (List.nil_sublist _).cons_cons _
  | some protocol =>
    rw [paths_append]
    exact .cons _ <| (profile.checkAddress_ofRule number protocol).paths_sublist.append
      (profile.checkSoapVersion_ofRule number protocol).paths_sublist

/-- What is found on a security block is at its paths. -/
theorem paths_checkSecurity_sublist (number : Nat) (leg : Leg) :
    (paths (profile.checkSecurity number leg)).Sublist
      (LegBlock.security.paths.map (legField number)) := by
  have hpaths : LegBlock.security.paths.map (legField number) =
      legField number "security" ::
        SecurityField.all.flatMap fun field => [field.place number] := by
    rw [LegBlock.paths, List.map_cons, List.map_map, ← List.map_eq_flatMap]
    rfl
  rw [hpaths]
  unfold checkSecurity
  cases leg.security with
  | none => exact (OfRule.ofWhen _ _).paths_sublist.trans ((List.nil_sublist _).cons_cons _)
  | some security =>
    dsimp only
    rw [checkSecurityBlock_eq_flatMap, paths_flatMap]
    refine .cons _ (List.Sublist.flatMap_right _ fun field _ => ?_)
    exact (profile.checkField_ofRule number security field).paths_sublist

/-- What is found on an error handling block is at its paths. -/
theorem paths_checkErrorHandling_sublist (number : Nat) (leg : Leg) :
    (paths (profile.checkErrorHandling number leg)).Sublist
      (LegBlock.errorHandling.paths.map (legField number)) := by
  unfold checkErrorHandling
  cases leg.errorHandling with
  | none => exact (OfRule.ofWhen _ _).paths_sublist.trans ((List.nil_sublist _).cons_cons _)
  | some handling =>
    simp only [checkErrorFlags, paths_append]
    exact .cons _ <| (Requirement.paths_check_sublist ..)
      |>.append (Requirement.paths_check_sublist ..)
      |>.append (Requirement.paths_check_sublist ..)
      |>.append (Requirement.paths_check_sublist ..)

/-- What is found in reception awareness is at its paths. -/
theorem paths_checkReception_sublist (mode : ProcessingMode) :
    (paths (profile.checkReception mode)).Sublist RuleGroup.reception.paths := by
  unfold checkReception
  cases mode.receptionAwareness with
  | none => exact (OfRule.ofWhen _ _).paths_sublist.trans ((List.nil_sublist _).cons_cons _)
  | some awareness =>
    simp only [paths_append]
    exact .cons _ <| (Requirement.paths_check_sublist ..)
      |>.append (Requirement.paths_check_sublist ..)
      |>.append (Requirement.paths_check_sublist ..)

/-- What a group of rules finds is at the paths of its rules, at most once at each of them. -/
theorem paths_checkGroup_sublist (mode : ProcessingMode) (group : RuleGroup) :
    (paths (profile.checkGroup mode group)).Sublist group.paths := by
  cases group with
  | pattern => exact (profile.checkPattern_ofRule mode).paths_sublist
  | binding =>
    obtain ⟨allowed, fitting, hbinding, hallowed, hfitting⟩ := profile.checkBinding_ofRules mode
    rw [checkGroup, hbinding, paths_append]
    exact hallowed.paths_sublist.append hfitting.paths_sublist
  | presence position =>
    obtain ⟨kept, hrule⟩ := (checkPresence_ofRules mode).2 position
    exact hrule.paths_sublist
  | block position named =>
    rw [checkGroup]
    cases mode.leg? position with
    | none => exact List.nil_sublist _
    | some leg =>
      cases named with
      | protocol => exact profile.paths_checkProtocol_sublist position.number leg
      | business => exact (profile.checkBusiness_ofRule position.number leg).paths_sublist
      | security => exact profile.paths_checkSecurity_sublist position.number leg
      | errorHandling => exact profile.paths_checkErrorHandling_sublist position.number leg
  | reception => exact profile.paths_checkReception_sublist mode

/-- What is found on a mode is at the paths of the rules, in their order. -/
theorem paths_checkMode_sublist (mode : ProcessingMode) :
    (paths (profile.checkMode mode)).Sublist (RuleGroup.all.flatMap RuleGroup.paths) := by
  rw [checkMode_eq_flatMap, paths_flatMap]
  exact List.Sublist.flatMap_right _ fun group _ => profile.paths_checkGroup_sublist mode group

/-- What is found at the place of the binding is found by the rules about the binding. -/
theorem forField_binding_checkMode (mode : ProcessingMode) :
    (profile.checkMode mode).forField RuleGroup.binding.place = profile.checkBinding mode := by
  have hkeep : ∀ group ∈ RuleGroup.all, ∀ finding ∈ profile.checkGroup mode group,
      (finding.field == RuleGroup.binding.place) = decide (group = .binding) := by
    intro group _ finding hfinding
    have hpath : finding.field ∈ group.paths :=
      (profile.paths_checkGroup_sublist mode group).subset (List.mem_map_of_mem hfinding)
    rw [Bool.eq_iff_iff, beq_iff_eq, decide_eq_true_iff]
    exact RuleGroup.eq_place_binding_iff hpath
  have honly : RuleGroup.all.filter (fun group => decide (group = .binding)) = [.binding] := by
    decide
  rw [checkMode_eq_flatMap, Findings.forField, Findings.filter_flatMap hkeep, honly,
    List.flatMap_singleton]
  rfl

/-- A check of a mode appends no two findings with the same path, whatever was found before and
whatever the mode is like. Only the binding can be found twice, once because it is not allowed and
once because it does not fit the pattern. Every path is that of the pattern, of the binding, of a
leg that is missing or should not be there, or of reception awareness, or is below reception
awareness or below a leg that is there. -/
theorem found_once_at_each_path (mode : ProcessingMode) (found : Findings) :
    (Subject.mode mode).checkAll found [profile] = found ++ profile.check (.mode mode) ∧
    (profile.check (.mode mode)).Pairwise
      (fun finding other => finding.field = other.field → finding.field = "mep_binding") ∧
    (∃ allowed fitting,
      (profile.check (.mode mode)).forField "mep_binding" = allowed ++ fitting ∧
      OfRule .error "mep_binding" (mode.binding ∈ profile.allowedBindings) allowed ∧
      OfRule .error "mep_binding" (mode.binding.isTwoWay = true ↔ mode.pattern = .twoWay)
        fitting) ∧
    ∀ finding ∈ profile.check (.mode mode), FindingPlace mode finding.field := by
  rw [check_mode]
  refine ⟨(Subject.mode mode).checkAll_singleton found profile, ?once, ?binding,
    profile.place_of_mem_checkMode mode⟩
  case once =>
    exact List.pairwise_map.mp
      (RuleGroup.pairwise_paths.sublist (profile.paths_checkMode_sublist mode))
  case binding =>
    obtain ⟨allowed, fitting, hbinding, hallowed, hfitting⟩ := profile.checkBinding_ofRules mode
    refine ⟨allowed, fitting, ?_, hallowed, hfitting⟩
    exact (profile.forField_binding_checkMode mode).trans hbinding

/-- A binding is found twice if it is not allowed and does not fit the pattern. -/
example :
    let mode : ProcessingMode :=
      { id := ⟨"A-B", by decide⟩
        initiator := { idValue := "A", role := "r" }
        responder := { idValue := "B", role := "r" }
        pattern := .oneWay
        binding := .pushPull
        leg1 := some { protocol := some {} } }
    paths (check { allowedBindings := [.push] } (.mode mode)) = ["mep_binding", "mep_binding"] := by
  decide +kernel

end Profile

end Ebms
