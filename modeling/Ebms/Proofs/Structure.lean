import Ebms.ProcessingMode

/-!
# The structure of a processing mode

A processing mode is sound in structure when both parties have an identifier, its first leg is
there, and its second leg is there exactly when its pattern is two-way. The structural check passes
exactly for these modes, and it never looks at what is in a leg.
-/

namespace Ebms

/-- A pattern is two-way exactly when it says so. -/
theorem Pattern.isTwoWay_eq_true_iff (pattern : Pattern) :
    pattern.isTwoWay = true ↔ pattern = .twoWay := by
  cases pattern <;> decide

namespace ProcessingMode

/-- A leg is listed with a number exactly when it stands in that place. -/
theorem mem_legs_iff (mode : ProcessingMode) (number : Nat) (leg : Leg) :
    (number, leg) ∈ mode.legs ↔
      number = 1 ∧ mode.leg1 = some leg ∨ number = 2 ∧ mode.leg2 = some leg := by
  simp only [legs, List.mem_append, Option.mem_toList, Option.map_eq_some_iff, Prod.mk.injEq]
  constructor
  · intro h
    obtain ⟨first, hfirst, rfl, rfl⟩ | ⟨second, hsecond, rfl, rfl⟩ := h
    · exact .inl ⟨rfl, hfirst⟩
    · exact .inr ⟨rfl, hsecond⟩
  · intro h
    obtain ⟨rfl, hfirst⟩ | ⟨rfl, hsecond⟩ := h
    · exact .inl ⟨leg, hfirst, rfl, rfl⟩
    · exact .inr ⟨leg, hsecond, rfl, rfl⟩

/-- The structural check passes exactly when both parties have an identifier and the legs are there
that the pattern asks for. -/
theorem checkStructure_eq_ok_iff (mode : ProcessingMode) :
    mode.checkStructure = .ok () ↔
      mode.initiator.hasBlankId = false ∧ mode.responder.hasBlankId = false ∧ mode.leg1 ≠ none ∧
        (mode.leg2 ≠ none ↔ mode.pattern = .twoWay) := by
  have hfirst : mode.leg1.isNone = true ↔ mode.leg1 = none := Option.isNone_iff_eq_none
  have hsecond : mode.leg2 ≠ none ↔ mode.leg2.isSome = true := Option.isSome_iff_ne_none.symm
  rw [hsecond, ← mode.pattern.isTwoWay_eq_true_iff, checkStructure]
  cases mode.initiator.hasBlankId with
  | true => simp
  | false =>
    cases mode.responder.hasBlankId with
    | true => simp
    | false =>
      by_cases hleg1 : mode.leg1 = none
      · simp [hleg1]
      · cases mode.pattern.isTwoWay <;> cases mode.leg2.isSome <;> simp [hleg1]

end ProcessingMode

end Ebms
