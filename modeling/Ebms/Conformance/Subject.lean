import Ebms.Conformance.Message
import Ebms.Conformance.Mode

/-!
# What is checked against profiles

A processing mode, a user message and a signal message are checked alike: a profile looks at one
subject and leaves findings and events on a ledger. Several profiles may look at one subject in
turn, on one ledger.
-/

namespace Ebms

/-- What a profile can be asked about. -/
inductive Subject where
  | mode (mode : ProcessingMode)
  | userMessage (message : UserMessage)
  | signalMessage (message : SignalMessage)

namespace Profile

/-- Checks a subject. -/
def enterSubject (profile : Profile) : Subject → LedgerCheck
  | .mode mode => profile.enterMode mode
  | .userMessage message => profile.enterUserMessage message
  | .signalMessage message => profile.enterSignalMessage message

/-- What is found on a subject. -/
def check (profile : Profile) (subject : Subject) : Findings :=
  (profile.enterSubject subject).found

/-- The events of checking a subject. -/
def events (profile : Profile) (subject : Subject) : List Event :=
  (profile.enterSubject subject).noted

/-- What is found on a subject is, for a processing mode, what is found on the mode. -/
theorem check_mode (profile : Profile) (mode : ProcessingMode) :
    profile.check (.mode mode) = profile.checkMode mode :=
  rfl

/-- What is found on a subject is, for a user message, what is found on the message. -/
theorem check_userMessage (profile : Profile) (message : UserMessage) :
    profile.check (.userMessage message) = profile.checkUserMessage message :=
  rfl

/-- What is found on a subject is, for a signal message, what is found on the message. -/
theorem check_signalMessage (profile : Profile) (message : SignalMessage) :
    profile.check (.signalMessage message) = profile.checkSignalMessage message :=
  rfl

end Profile

namespace Subject

/-- Has some profiles check a subject in turn on one ledger, the earliest first. -/
def enterAll (subject : Subject) (profiles : List Profile) : LedgerCheck :=
  profiles.forM fun profile => profile.enterSubject subject

/-- The findings after some profiles have checked a subject in turn, where some were there
before. -/
def checkAll (subject : Subject) (found : Findings) (profiles : List Profile) : Findings :=
  ((subject.enterAll profiles).after { findings := found }).findings

end Subject

end Ebms
