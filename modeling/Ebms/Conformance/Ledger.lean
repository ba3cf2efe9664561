import Ebms.Event
import Ebms.Finding

/-!
# Checks on a ledger

Whoever has subjects checked keeps one ledger for all of them: the findings so far and the events so
far. Every rule is a check that is made on this ledger. It gets the ledger with everything that is
there, and leaves another one.
-/

namespace Ebms

/-- The findings and the events so far. -/
structure Ledger where
  findings : Findings := []
  events : List Event := []
  deriving DecidableEq, Repr

/-- A check that is made on a ledger. -/
abbrev LedgerCheck := StateM Ledger Unit

namespace LedgerCheck

/-- Enters a finding behind those that are there. -/
def enter (finding : Finding) : LedgerCheck :=
  modify fun ledger => { ledger with findings := ledger.findings ++ [finding] }

/-- Notes an event behind those that are there. -/
def note (event : Event) : LedgerCheck :=
  modify fun ledger => { ledger with events := ledger.events ++ [event] }

/-- Makes a check, and then notes by how many findings the ledger has grown. -/
def counting (check : LedgerCheck) (last : Nat → Event) : LedgerCheck := do
  let before := (← get).findings.length
  check
  let grown := (← get).findings.length - before
  note (last grown)

/-- The ledger that a check leaves. -/
def after (check : LedgerCheck) (ledger : Ledger) : Ledger :=
  (check.run ledger).2

/-- What a check finds when nothing was there before. -/
def found (check : LedgerCheck) : Findings :=
  (check.after {}).findings

/-- The events of a check when nothing was there before. -/
def noted (check : LedgerCheck) : List Event :=
  (check.after {}).events

end LedgerCheck

end Ebms
