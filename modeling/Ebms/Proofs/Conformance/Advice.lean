import Ebms.Proofs.Conformance.Severity

/-!
# Where advice is noted

Only one rule notes anything: the one that gives advice on the scheme of an address, and it does so
only where the profile does not refuse for it. All other rules enter what they find without a word,
and none of them ever warns. So the events of a check between its first and its last one are its
warnings, one by one and in the order of the findings.
-/

namespace Ebms.Profile

variable (profile : Profile)

/-- The events of findings in a row stand in a row. -/
theorem adviceEvents_append (earlier later : Findings) :
    profile.adviceEvents (earlier ++ later) =
      profile.adviceEvents earlier ++ profile.adviceEvents later := by
  rw [adviceEvents, Findings.warnings_append, List.map_append]
  rfl

/-- Where nothing is advice, there are no events of advice. -/
theorem adviceEvents_of_refuse {findings : Findings} (h : findings.Refuse) :
    profile.adviceEvents findings = [] :=
  List.map_eq_nil_iff.mpr h.warnings_eq_nil

/-- The events of what is found on values in turn are those of each value in turn. -/
theorem adviceEvents_flatMap {α : Type} (values : List α) (find : α → Findings) :
    profile.adviceEvents (values.flatMap find) =
      values.flatMap fun value => profile.adviceEvents (find value) := by
  rw [adviceEvents, Findings.warnings_flatMap, List.map_flatMap]
  rfl

/-- The events of checking a leg are those of what is found on it: nothing but the address is
advised about. -/
theorem legEvents_eq (number : Nat) (leg : Leg) :
    profile.legEvents number leg = profile.adviceEvents (profile.checkLeg number leg) := by
  have hprotocol :
      profile.adviceEvents (profile.checkProtocol number leg) = profile.legEvents number leg := by
    unfold checkProtocol legEvents
    cases leg.protocol with
    | none => rfl
    | some protocol =>
      rw [adviceEvents_append,
        profile.adviceEvents_of_refuse (profile.checkSoapVersion_refuse number protocol),
        List.append_nil]
      rfl
  simp only [checkLeg_eq, adviceEvents_append, hprotocol,
    profile.adviceEvents_of_refuse (profile.checkBusiness_refuse number leg),
    profile.adviceEvents_of_refuse (profile.checkSecurity_refuse number leg),
    profile.adviceEvents_of_refuse (profile.checkErrorHandling_refuse number leg),
    List.append_nil]

/-- Of what is found on a mode, only what is found on the legs has events. -/
theorem adviceEvents_checkMode (mode : ProcessingMode) :
    profile.adviceEvents (profile.checkMode mode) = profile.legsEvents mode := by
  simp only [checkMode_eq, checkLegs, legsEvents, adviceEvents_append, adviceEvents_flatMap,
    legEvents_eq,
    profile.adviceEvents_of_refuse (profile.checkPattern_refuse mode),
    profile.adviceEvents_of_refuse (profile.checkBinding_refuse mode),
    profile.adviceEvents_of_refuse (checkLegsPresent_refuse mode),
    profile.adviceEvents_of_refuse (profile.checkReception_refuse mode),
    List.append_nil, List.nil_append]

/-- The events of a check that leads to some findings: one at the start, one for each warning in the
order of the findings, and one at the end with their number. -/
def checkTrace (profile : Profile) (mode : ProcessingMode) (findings : Findings) : List Event :=
  .checkingMode profile.id.text mode.id.text :: profile.adviceEvents findings ++
    [.modeChecked profile.id.text mode.id.text findings.length]

/-- The events of checking a mode are told by what is found on it. -/
theorem modeEvents_eq_checkTrace (mode : ProcessingMode) :
    profile.modeEvents mode = profile.checkTrace mode (profile.checkMode mode) := by
  rw [checkTrace, adviceEvents_checkMode]
  exact (profile.enterMode_adds mode).noted_eq

end Ebms.Profile
