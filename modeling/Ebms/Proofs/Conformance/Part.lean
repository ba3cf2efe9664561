import Ebms.Proofs.Conformance.Rules.Subject
import Ebms.Proofs.Conformance.Place

/-!
# What is found on the parts of a mode

A processing mode has parts that may be missing: its two legs, the blocks of each leg, and its
reception awareness. The rules of a profile fall into groups, each of which is about one part or
about none of them. A group reads nothing but its own part and has its findings within the place of
that part, so a change of one part changes no finding elsewhere, and the other findings keep their
order.

Where a part is missing, nothing is found below its place, and at most one finding is at the place
itself: the one that says that the part is missing.
-/

namespace Ebms

open Findings (OfRule)

/-- The position of a leg in a processing mode. -/
inductive LegPosition where
  | first
  | second
  deriving DecidableEq

/-- The number of the leg at a position. -/
def LegPosition.number : LegPosition → Nat
  | first => 1
  | second => 2

/-- The blocks of a leg that profiles look at. -/
inductive LegBlock where
  | protocol
  | business
  | security
  | errorHandling
  deriving DecidableEq

/-- The blocks of a leg, in the order in which they are checked. -/
def LegBlock.all : List LegBlock :=
  [protocol, business, security, errorHandling]

/-- The path of a block from its leg. -/
def LegBlock.path : LegBlock → String
  | protocol => "protocol"
  | business => "business_information"
  | security => "security"
  | errorHandling => "error_handling"

/-- A part of a processing mode that may be missing. -/
inductive ModePart where
  | leg (position : LegPosition)
  | block (position : LegPosition) (named : LegBlock)
  | reception
  deriving DecidableEq

/-- The place of a part. -/
def ModePart.place : ModePart → String
  | leg position => legPlace position.number
  | block position named => legField position.number named.path
  | reception => "reception_awareness"

/-- A leg with one of its blocks taken out. -/
def Leg.without (leg : Leg) : LegBlock → Leg
  | .protocol => { leg with protocol := none }
  | .business => { leg with business := none }
  | .security => { leg with security := none }
  | .errorHandling => { leg with errorHandling := none }

namespace ProcessingMode

/-- The leg at a position, if there is one. -/
def leg? (mode : ProcessingMode) : LegPosition → Option Leg
  | .first => mode.leg1
  | .second => mode.leg2

/-- A mode with another leg, or none, at a position. -/
def withLeg (mode : ProcessingMode) (leg : Option Leg) : LegPosition → ProcessingMode
  | .first => { mode with leg1 := leg }
  | .second => { mode with leg2 := leg }

/-- A mode with one of its parts taken out. -/
def without (mode : ProcessingMode) : ModePart → ProcessingMode
  | .leg position => mode.withLeg none position
  | .block position named =>
      mode.withLeg ((mode.leg? position).map fun leg => leg.without named) position
  | .reception => { mode with receptionAwareness := none }

variable (mode : ProcessingMode)

/-- At the position of another leg is that leg, and elsewhere what was there. -/
theorem leg?_withLeg (leg : Option Leg) (position other : LegPosition) :
    (mode.withLeg leg position).leg? other = if other = position then leg else mode.leg? other := by
  cases position <;> cases other <;> rfl

/-- The legs of a mode are those at the two positions. -/
theorem mem_legs_iff_leg? (number : Nat) (leg : Leg) :
    (number, leg) ∈ mode.legs ↔
      ∃ position : LegPosition, position.number = number ∧ mode.leg? position = some leg := by
  rw [mem_legs_iff]
  constructor
  · rintro (⟨rfl, hleg⟩ | ⟨rfl, hleg⟩)
    · exact ⟨.first, rfl, hleg⟩
    · exact ⟨.second, rfl, hleg⟩
  · rintro ⟨position, rfl, hleg⟩
    cases position with
    | first => exact .inl ⟨rfl, hleg⟩
    | second => exact .inr ⟨rfl, hleg⟩

/-- No part has the pattern of a mode in it. -/
@[simp] theorem pattern_without (part : ModePart) : (mode.without part).pattern = mode.pattern := by
  rcases part with (_ | _) | ⟨_ | _, _⟩ | _ <;> rfl

/-- No part has the binding of a mode in it. -/
@[simp] theorem binding_without (part : ModePart) : (mode.without part).binding = mode.binding := by
  rcases part with (_ | _) | ⟨_ | _, _⟩ | _ <;> rfl

/-- Reception awareness is in no part but itself. -/
theorem receptionAwareness_without {part : ModePart} (h : part ≠ .reception) :
    (mode.without part).receptionAwareness = mode.receptionAwareness := by
  rcases part with (_ | _) | ⟨_ | _, _⟩ | _
  case reception => exact absurd rfl h
  all_goals rfl

end ProcessingMode

/-- The groups of rules about a processing mode. -/
inductive RuleGroup where
  | pattern
  | binding
  /-- Whether a leg is there that should be, and not there otherwise. -/
  | presence (position : LegPosition)
  | block (position : LegPosition) (named : LegBlock)
  | reception
  deriving DecidableEq

namespace RuleGroup

/-- The groups of rules, in the order of their findings. -/
def all : List RuleGroup :=
  [pattern, binding, presence .first, presence .second] ++ LegBlock.all.map (block .first) ++
    LegBlock.all.map (block .second) ++ [reception]

/-- There are no other groups. -/
theorem mem_all (group : RuleGroup) : group ∈ all := by
  rcases group with _ | _ | (_ | _) | ⟨_ | _, _ | _⟩ | _ <;> decide

/-- The place of what a group is about. -/
def place : RuleGroup → String
  | pattern => "mep"
  | binding => "mep_binding"
  | presence position => (ModePart.leg position).place
  | block position named => (ModePart.block position named).place
  | reception => ModePart.reception.place

end RuleGroup

namespace ModePart

/-- The groups of rules about a part or about parts of it, in the order of their findings. -/
def groups : ModePart → List RuleGroup
  | leg position => .presence position :: LegBlock.all.map (.block position)
  | block position named => [.block position named]
  | reception => [.reception]

/-- The groups about a part stand in the same order among all groups. -/
theorem filter_mem_groups (part : ModePart) :
    (RuleGroup.all.filter fun group => group ∈ part.groups) = part.groups := by
  rcases part with (_ | _) | ⟨_ | _, _ | _⟩ | _ <;> decide

/-- The place of a group is within a part exactly if the group is about that part. A part is only
within the place of a group if the group is about it, or about the presence of its leg. -/
theorem places_nested (part : ModePart) (group : RuleGroup) :
    (Within part.place group.place ↔ group ∈ part.groups) ∧
      (Within group.place part.place →
        group ∈ part.groups ∨ ∃ position, group = .presence position) := by
  let parts : List ModePart := [leg .first, leg .second] ++ LegBlock.all.map (block .first) ++
    LegBlock.all.map (block .second) ++ [reception]
  -- All paths are known, so this is decided for all parts and groups at once.
  have hall : ∀ part ∈ parts, ∀ group ∈ RuleGroup.all,
      (Within part.place group.place ↔ group ∈ part.groups) ∧
        (Within group.place part.place →
          group ∈ part.groups ∨ group = .presence .first ∨ group = .presence .second) := by
    decide +kernel
  have hpart : part ∈ parts := by
    rcases part with (_ | _) | ⟨_ | _, _ | _⟩ | _ <;> decide
  obtain ⟨hwithin, hnested⟩ := hall part hpart group group.mem_all
  refine ⟨hwithin, fun h => (hnested h).imp_right ?_⟩
  rintro (hfirst | hsecond)
  · exact ⟨.first, hfirst⟩
  · exact ⟨.second, hsecond⟩

end ModePart

/-- What a leg leaves to be found by being there or not. -/
def checkPresence (mode : ProcessingMode) (position : LegPosition) : Findings :=
  (checkLegsPresent mode).forField (ModePart.leg position).place

/-- What is found on the presence of a leg is at the place of the leg. -/
theorem field_of_mem_checkPresence {mode : ProcessingMode} {position : LegPosition}
    {finding : Finding} (h : finding ∈ checkPresence mode position) :
    finding.field = (ModePart.leg position).place := by
  simpa using (List.mem_filter.mp h).2

/-- Whether legs are there is checked for the first leg, and then for the second one, by one rule
for each. -/
theorem checkPresence_ofRules (mode : ProcessingMode) :
    checkLegsPresent mode = checkPresence mode .first ++ checkPresence mode .second ∧
      ∀ position, ∃ kept,
        OfRule .error (ModePart.leg position).place kept (checkPresence mode position) := by
  obtain ⟨first, second, hlegs, hfirst, hsecond⟩ := checkLegsPresent_ofRules mode
  have hfirst_eq : checkPresence mode .first = first := by
    rw [checkPresence, hlegs, Findings.forField_append]
    exact (congrArg₂ _ hfirst.forField_self (hsecond.forField_of_ne (by decide))).trans
      (List.append_nil first)
  have hsecond_eq : checkPresence mode .second = second := by
    rw [checkPresence, hlegs, Findings.forField_append]
    exact congrArg₂ _ (hfirst.forField_of_ne (by decide)) hsecond.forField_self
  rw [hfirst_eq, hsecond_eq]
  refine ⟨hlegs, ?_⟩
  intro position
  cases position with
  | first => exact ⟨_, hfirst_eq ▸ hfirst⟩
  | second => exact ⟨_, hsecond_eq ▸ hsecond⟩

/-- Whether a leg is there that should be is a matter of the pattern and of that leg alone. -/
theorem checkPresence_congr {mode other : ProcessingMode} {position : LegPosition}
    (hpattern : mode.pattern = other.pattern)
    (hleg : (mode.leg? position).isSome = (other.leg? position).isSome) :
    checkPresence mode position = checkPresence other position := by
  unfold checkPresence checkLegsPresent
  simp only [← Option.not_isSome, hpattern]
  cases position with
  | first =>
    rw [show mode.leg1.isSome = other.leg1.isSome from hleg]
    cases other.leg1.isSome <;> cases other.pattern.isTwoWay <;> cases mode.leg2.isSome <;>
      cases other.leg2.isSome <;> decide
  | second =>
    rw [show mode.leg2.isSome = other.leg2.isSome from hleg]
    cases other.leg2.isSome <;> cases other.pattern.isTwoWay <;> cases mode.leg1.isSome <;>
      cases other.leg1.isSome <;> decide

namespace Profile

/-- What a block of a leg leaves to be found. -/
def checkBlock (profile : Profile) (number : Nat) (leg : Leg) : LegBlock → Findings
  | .protocol => profile.checkProtocol number leg
  | .business => profile.checkBusiness number leg
  | .security => profile.checkSecurity number leg
  | .errorHandling => profile.checkErrorHandling number leg

/-- What the rules of a group leave to be found on a mode. -/
def checkGroup (profile : Profile) (mode : ProcessingMode) : RuleGroup → Findings
  | .pattern => profile.checkPattern mode
  | .binding => profile.checkBinding mode
  | .presence position => checkPresence mode position
  | .block position named =>
      (mode.leg? position).elim [] fun leg => profile.checkBlock position.number leg named
  | .reception => profile.checkReception mode

variable (profile : Profile)

/-- What is found on a leg is found on its blocks, one after the other. -/
theorem checkLeg_eq_flatMap (number : Nat) (leg : Leg) :
    profile.checkLeg number leg = LegBlock.all.flatMap (profile.checkBlock number leg) := by
  simp [checkLeg_eq, LegBlock.all, checkBlock]

/-- What the rules about the blocks of a leg find is found on that leg, if it is there. -/
theorem flatMap_checkGroup_blocks (mode : ProcessingMode) (position : LegPosition) :
    (LegBlock.all.map (RuleGroup.block position)).flatMap (profile.checkGroup mode) =
      (mode.leg? position).elim [] (profile.checkLeg position.number) := by
  rw [List.flatMap_map]
  cases h : mode.leg? position with
  | none => simp [checkGroup, h]
  | some leg => simp [checkGroup, h, checkLeg_eq_flatMap]

/-- What is found on the legs of a mode is found on the blocks of the first one, and then on those
of the second one. -/
theorem checkLegs_eq_append (mode : ProcessingMode) :
    profile.checkLegs mode =
      (LegBlock.all.map (RuleGroup.block .first)).flatMap (profile.checkGroup mode) ++
        (LegBlock.all.map (RuleGroup.block .second)).flatMap (profile.checkGroup mode) := by
  rw [flatMap_checkGroup_blocks, flatMap_checkGroup_blocks, checkLegs, ProcessingMode.legs]
  cases h1 : mode.leg1 <;> cases h2 : mode.leg2 <;>
    simp [ProcessingMode.leg?, LegPosition.number, h1, h2]

/-- What is found on a mode is found by the groups of rules, one after the other. -/
theorem checkMode_eq_flatMap (mode : ProcessingMode) :
    profile.checkMode mode = RuleGroup.all.flatMap (profile.checkGroup mode) := by
  rw [checkMode_eq, (checkPresence_ofRules mode).1, checkLegs_eq_append]
  simp [RuleGroup.all, List.flatMap_append, checkGroup]

/-- Whatever a group of rules finds is within the place of the group. -/
theorem within_of_mem_checkGroup (mode : ProcessingMode) (group : RuleGroup) :
    ∀ finding ∈ profile.checkGroup mode group, Within group.place finding.field := by
  intro finding hfinding
  cases group with
  | pattern => exact .inl ((profile.checkPattern_ofRule mode).of_mem hfinding).1
  | binding =>
    obtain ⟨allowed, fitting, hbinding, hallowed, hfitting⟩ := profile.checkBinding_ofRules mode
    rw [checkGroup, hbinding, List.mem_append] at hfinding
    obtain hfinding | hfinding := hfinding
    · exact .inl (hallowed.of_mem hfinding).1
    · exact .inl (hfitting.of_mem hfinding).1
  | presence position => exact .inl (field_of_mem_checkPresence hfinding)
  | block position named =>
    cases hleg : mode.leg? position with
    | none =>
      rw [checkGroup, hleg] at hfinding
      cases hfinding
    | some leg =>
      rw [checkGroup, hleg] at hfinding
      cases named with
      | protocol => exact profile.within_of_mem_checkProtocol position.number leg finding hfinding
      | business => exact profile.within_of_mem_checkBusiness position.number leg finding hfinding
      | security => exact profile.within_of_mem_checkSecurity position.number leg finding hfinding
      | errorHandling =>
        exact profile.within_of_mem_checkErrorHandling position.number leg finding hfinding
  | reception => exact profile.within_of_mem_checkReception mode finding hfinding

/-- What a group of rules finds is within a part exactly if the group is about that part. -/
theorem within_iff_of_mem_checkGroup {mode : ProcessingMode} {group : RuleGroup} {finding : Finding}
    (hfinding : finding ∈ profile.checkGroup mode group) (part : ModePart) :
    Within part.place finding.field ↔ group ∈ part.groups := by
  have hplace := profile.within_of_mem_checkGroup mode group finding hfinding
  obtain ⟨hwithin, hnested⟩ := part.places_nested group
  constructor
  · intro hpart
    obtain hgroup | hpart' := hplace.nested hpart
    · obtain hmem | ⟨position, rfl⟩ := hnested hgroup
      · exact hmem
      · rw [field_of_mem_checkPresence hfinding] at hpart
        exact hwithin.mp hpart
    · exact hwithin.mp hpart'
  · intro hmem
    exact (hwithin.mpr hmem).trans hplace

/-- A block of a leg is checked alike whatever the other blocks of the leg are. -/
theorem checkBlock_without (number : Nat) (leg : Leg) {named other : LegBlock} (h : named ≠ other) :
    profile.checkBlock number (leg.without other) named = profile.checkBlock number leg named := by
  cases named <;> cases other <;> first | rfl | exact absurd rfl h

/-- A group of rules reads no part but those that it is about. -/
theorem checkGroup_without (mode : ProcessingMode) {part : ModePart} {group : RuleGroup}
    (h : group ∉ part.groups) :
    profile.checkGroup (mode.without part) group = profile.checkGroup mode group := by
  cases group with
  | pattern => simp only [checkGroup, checkPattern, ProcessingMode.pattern_without]
  | binding =>
    simp only [checkGroup, checkBinding, ProcessingMode.pattern_without,
      ProcessingMode.binding_without]
  | presence position =>
    refine checkPresence_congr (mode.pattern_without part) ?_
    cases part with
    | leg other =>
      have hne : position ≠ other := by
        rintro rfl
        exact h List.mem_cons_self
      rw [ProcessingMode.without, ProcessingMode.leg?_withLeg, if_neg hne]
    | block other named =>
      rw [ProcessingMode.without, ProcessingMode.leg?_withLeg]
      split
      · rename_i heq
        rw [Option.isSome_map, heq]
      · rfl
    | reception => cases position <;> rfl
  | block position named =>
    cases part with
    | leg other =>
      have hne : position ≠ other := by
        rintro rfl
        exact h (by cases named <;> simp [ModePart.groups, LegBlock.all])
      rw [checkGroup, checkGroup, ProcessingMode.without, ProcessingMode.leg?_withLeg, if_neg hne]
    | block other taken =>
      rw [checkGroup, checkGroup, ProcessingMode.without, ProcessingMode.leg?_withLeg]
      split
      · rename_i heq
        subst heq
        have hne : named ≠ taken := by
          rintro rfl
          exact h List.mem_cons_self
        cases mode.leg? position with
        | none => rfl
        | some leg => exact profile.checkBlock_without position.number leg hne
      · rfl
    | reception => cases position <;> rfl
  | reception =>
    have hne : part ≠ .reception := by
      rintro rfl
      exact h List.mem_cons_self
    rw [checkGroup, checkGroup, checkReception, checkReception,
      mode.receptionAwareness_without hne]

/-- What is found within a part of a mode is found by the groups of rules about it. -/
theorem filter_within_checkMode (mode : ProcessingMode) (part : ModePart) :
    ((profile.checkMode mode).filter fun finding => Within part.place finding.field) =
      part.groups.flatMap (profile.checkGroup mode) := by
  conv_rhs => rw [← part.filter_mem_groups]
  rw [checkMode_eq_flatMap]
  apply Findings.filter_flatMap
  intro group _ finding hfinding
  simp only [profile.within_iff_of_mem_checkGroup hfinding part]

/-- What is found outside a part of a mode is found by the groups of rules about anything else. -/
theorem filter_not_within_checkMode (mode : ProcessingMode) (part : ModePart) :
    ((profile.checkMode mode).filter fun finding => ¬Within part.place finding.field) =
      (RuleGroup.all.filter fun group => group ∉ part.groups).flatMap
        (profile.checkGroup mode) := by
  rw [checkMode_eq_flatMap]
  apply Findings.filter_flatMap
  intro group _ finding hfinding
  simp only [profile.within_iff_of_mem_checkGroup hfinding part]

/-- What is found outside a part of a mode is found as well when the part is taken out. -/
theorem filter_not_within_checkMode_without (mode : ProcessingMode) (part : ModePart) :
    ((profile.checkMode (mode.without part)).filter
        fun finding => ¬Within part.place finding.field) =
      (profile.checkMode mode).filter fun finding => ¬Within part.place finding.field := by
  rw [filter_not_within_checkMode, filter_not_within_checkMode]
  refine List.flatMap_congr fun group hgroup => ?_
  exact profile.checkGroup_without mode (by simpa using (List.mem_filter.mp hgroup).2)

/-- A block that is missing from a leg is the place of at most one finding. -/
theorem checkBlock_without_self (number : Nat) (leg : Leg) (named : LegBlock) :
    ∃ kept, OfRule .error (legField number named.path) kept
      (profile.checkBlock number (leg.without named) named) := by
  cases named with
  | protocol => exact ⟨False, .broken not_false _ _⟩
  | business => exact ⟨True, .kept trivial⟩
  | security => exact ⟨_, .ofWhen _ _⟩
  | errorHandling => exact ⟨_, .ofWhen _ _⟩

/-- A part that is missing is the place of at most one finding, and nothing is found below it. -/
theorem checkGroups_of_absent {mode : ProcessingMode} {part : ModePart}
    (habsent : mode.without part = mode) :
    ∃ kept, OfRule .error part.place kept (part.groups.flatMap (profile.checkGroup mode)) := by
  cases part with
  | leg position =>
    have hnone : mode.leg? position = none := by
      rw [← habsent, ProcessingMode.without, ProcessingMode.leg?_withLeg, if_pos rfl]
    have hgroups : (ModePart.leg position).groups.flatMap (profile.checkGroup mode) =
        checkPresence mode position := by
      simp [ModePart.groups, checkGroup, hnone]
    rw [hgroups]
    exact (checkPresence_ofRules mode).2 position
  | block position named =>
    rw [ModePart.groups, List.flatMap_singleton, checkGroup]
    cases hleg : mode.leg? position with
    | none => exact ⟨True, .kept trivial⟩
    | some leg =>
      have hsame : leg.without named = leg := by
        have hwithout : (mode.without (.block position named)).leg? position = some leg := by
          rw [habsent, hleg]
        rw [ProcessingMode.without, ProcessingMode.leg?_withLeg, if_pos rfl, hleg] at hwithout
        exact Option.some.inj hwithout
      rw [Option.elim_some, ← hsame]
      exact profile.checkBlock_without_self position.number leg named
  | reception =>
    have hnone : mode.receptionAwareness = none := by
      rw [← habsent]
      rfl
    rw [ModePart.groups, List.flatMap_singleton, checkGroup, checkReception, hnone]
    exact ⟨_, .ofWhen _ _⟩

/-- The rules are local. Modes that are the same but for one part have the same findings outside
that part, in the same order. If the part is missing from a mode, at most one finding of the mode is
at the place of the part, and none is below it. -/
theorem findings_local (part : ModePart) (mode other : ProcessingMode)
    (hrest : mode.without part = other.without part) :
    ((profile.check (.mode mode)).filter fun finding => ¬Within part.place finding.field) =
        ((profile.check (.mode other)).filter fun finding => ¬Within part.place finding.field) ∧
      (mode.without part = mode →
        (Findings.forField (profile.check (.mode mode)) part.place).length ≤ 1 ∧
          ∀ finding ∈ profile.check (.mode mode), ¬Below part.place finding.field) := by
  rw [check_mode, check_mode]
  constructor
  · rw [← profile.filter_not_within_checkMode_without mode part, hrest,
      profile.filter_not_within_checkMode_without other part]
  · intro habsent
    obtain ⟨kept, hrule⟩ := profile.checkGroups_of_absent habsent
    rw [← profile.filter_within_checkMode mode part] at hrule
    constructor
    · -- What is at the place is among what is within it.
      refine le_trans (List.Sublist.length_le ?_) hrule.length_le_one
      refine List.monotone_filter_right _ fun finding hfield => ?_
      exact decide_eq_true (.inl (beq_iff_eq.mp hfield))
    · intro finding hfinding hbelow
      have hmem : finding ∈ (profile.checkMode mode).filter
          fun finding => Within part.place finding.field :=
        List.mem_filter.mpr ⟨hfinding, decide_eq_true (.inr hbelow)⟩
      rw [(hrule.of_mem hmem).1] at hbelow
      exact not_below_self _ hbelow

/-- Without its protocol block a mode has one finding at the place of the block instead of one below
it, and the same finding on its security block. -/
theorem findings_local_protocol :
    ∃ (profile : Profile) (mode other : ProcessingMode),
      mode.without (.block .first .protocol) = other.without (.block .first .protocol) ∧
      mode.without (.block .first .protocol) = mode ∧
      (profile.check (.mode mode)).map Finding.field = ["leg1.protocol", "leg1.security"] ∧
      (profile.check (.mode other)).map Finding.field =
        ["leg1.protocol.address", "leg1.security"] ∧
      ((profile.check (.mode mode)).filter fun finding =>
          ¬Within "leg1.protocol" finding.field) =
        ((profile.check (.mode other)).filter fun finding =>
          ¬Within "leg1.protocol" finding.field) ∧
      (Findings.forField (profile.check (.mode mode)) "leg1.protocol").length ≤ 1 := by
  let profile : Profile := { requireSecurity := true, requireAddress := true }
  let mode : ProcessingMode :=
    { id := ⟨"A-B", by decide⟩
      initiator := { idValue := "A", role := "r" }
      responder := { idValue := "B", role := "r" }
      pattern := .oneWay
      binding := .push
      leg1 := some {} }
  let other : ProcessingMode := { mode with leg1 := some { protocol := some ⟨none, default⟩ } }
  obtain ⟨hsame, habsent⟩ := profile.findings_local (.block .first .protocol) mode other rfl
  refine ⟨profile, mode, other, rfl, rfl, ?_, ?_, hsame, (habsent rfl).1⟩
  · decide +kernel
  · decide +kernel

end Profile

end Ebms
