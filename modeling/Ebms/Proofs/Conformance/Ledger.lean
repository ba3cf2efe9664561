import Ebms.Proofs.Conformance.Rules.Subject

/-!
# Checks only add to a ledger

A check on a ledger leaves what is there as it is and adds the same findings and events behind it,
whatever there was. What one profile adds is what it finds on the subject by itself, so profiles
that check a subject in turn add what each of them would find alone, one after the other. The
decision over the ledger then refuses exactly if something refused before or one of the profiles
refuses alone, and it hands back every finding in order either way.
-/

namespace Ebms.Subject

/-- A check only adds to a ledger, and what it adds does not depend on what is there: one profile
adds what it finds and notes on an empty ledger, and profiles in turn add what each of them finds
and notes there, one after the other. The decision over all findings lets them pass exactly if no
finding that was there before and no finding that a profile makes alone is an error. It hands all of
them back in order whether it lets them pass or not. -/
theorem checks_only_add (subject : Subject) (history : Ledger) (profiles : List Profile) :
    (∀ profile : Profile, (profile.enterSubject subject).after history =
      ⟨history.findings ++ ((profile.enterSubject subject).after {}).findings,
        history.events ++ ((profile.enterSubject subject).after {}).events⟩) ∧
    (subject.enterAll profiles).after history =
      ⟨history.findings ++ profiles.flatMap fun profile => profile.check subject,
        history.events ++ profiles.flatMap fun profile => profile.events subject⟩ ∧
    subject.checkAll history.findings profiles =
      history.findings ++ profiles.flatMap (fun profile => profile.check subject) ∧
    (Findings.verdict (subject.checkAll history.findings profiles) =
        .ok (subject.checkAll history.findings profiles) ↔
      (∀ finding ∈ history.findings, finding.severity ≠ .error) ∧
        ∀ profile ∈ profiles, ∀ finding ∈ profile.check subject, finding.severity ≠ .error) ∧
    (Findings.verdict (subject.checkAll history.findings profiles) =
        .ok (subject.checkAll history.findings profiles) ∨
      Findings.verdict (subject.checkAll history.findings profiles) =
        .error ⟨subject.checkAll history.findings profiles⟩) := by
  refine ⟨?one, ?inTurn, ?findings, ?passes, ?handsBack⟩
  case one => exact fun profile => profile.enterSubject_adds subject history
  case inTurn => exact subject.enterAll_adds profiles history
  case findings => exact subject.checkAll_eq_append history.findings profiles
  case passes =>
    rw [Findings.verdict_eq_ok_iff, checkAll_eq_append, List.forall_mem_append,
      List.forall_mem_flatMap]
  case handsBack => exact Findings.verdict_hands_back _

end Ebms.Subject
