import Ebms.Conformance.Subject
import Ebms.Proofs.Conformance.Rules.Message
import Ebms.Proofs.Conformance.Rules.Mode

/-!
# What profiles add that check a subject

A profile adds what it finds on a subject when nothing was there before, and profiles that check a
subject in turn add what each of them finds alone, one after the other.
-/

namespace Ebms

open LedgerCheck (Adds)

/-- A subject is checked by adding what is found on it and the events of the check. -/
theorem Profile.enterSubject_adds (profile : Profile) (subject : Subject) :
    (profile.enterSubject subject).Adds (profile.check subject) (profile.events subject) := by
  cases subject with
  | mode mode => exact (profile.enterMode_adds mode).alone
  | userMessage message => exact (profile.enterUserMessage_adds message).alone
  | signalMessage message => exact (profile.enterSignalMessage_adds message).alone

namespace Subject

variable (subject : Subject)

/-- Profiles that check a subject in turn add what each of them finds. -/
theorem enterAll_adds (profiles : List Profile) :
    (subject.enterAll profiles).Adds (profiles.flatMap fun profile => profile.check subject)
      (profiles.flatMap fun profile => profile.events subject) :=
  Adds.forM profiles fun profile => profile.enterSubject_adds subject

/-- What profiles find in turn stands behind what was found before. -/
theorem checkAll_eq_append (found : Findings) (profiles : List Profile) :
    subject.checkAll found profiles =
      found ++ profiles.flatMap fun profile => profile.check subject :=
  congrArg Ledger.findings (subject.enterAll_adds profiles { findings := found })

/-- What one profile finds stands behind what was found before. -/
theorem checkAll_singleton (found : Findings) (profile : Profile) :
    subject.checkAll found [profile] = found ++ profile.check subject := by
  rw [checkAll_eq_append, List.flatMap_singleton]

end Subject

end Ebms
