import Ebms.Conformance.Ledger

/-!
# What a check adds to a ledger

A check could do anything with the ledger that it gets. That it adds some findings and some events
means that it leaves what is there as it is, and that what it puts behind it does not depend on it.
Checks in a row, checks that are made under a condition, and checks that are made for values in turn
add what their parts add, so a rule adds something if its parts do.
-/

namespace Ebms

namespace LedgerCheck

/-- A check adds some findings and events behind those that are there, whatever these are. -/
def Adds (check : LedgerCheck) (findings : Findings) (events : List Event) : Prop :=
  ∀ ledger, check.after ledger = ⟨ledger.findings ++ findings, ledger.events ++ events⟩

/-- A check adds some findings and notes nothing. -/
abbrev Enters (check : LedgerCheck) (findings : Findings) : Prop :=
  check.Adds findings []

/-- To enter a finding is to add it. -/
theorem enters_enter (finding : Finding) : (enter finding).Enters [finding] := by
  intro ledger
  exact congrArg (Ledger.mk _) (List.append_nil _).symm

/-- To note an event is to add it. -/
theorem adds_note (event : Event) : (note event).Adds [] [event] := by
  intro ledger
  exact congrArg (Ledger.mk · _) (List.append_nil _).symm

/-- To do nothing is to add nothing. -/
theorem enters_pure : Enters (pure ()) [] := by
  intro ledger
  rw [List.append_nil, List.append_nil]
  rfl

namespace Adds

variable {check next : LedgerCheck} {findings later : Findings} {events laterEvents : List Event}

/-- What a check adds is what it finds and notes when nothing was there before. -/
theorem found_eq (h : check.Adds findings events) : check.found = findings :=
  congrArg Ledger.findings (h {})

/-- What a check adds is what it finds and notes when nothing was there before. -/
theorem noted_eq (h : check.Adds findings events) : check.noted = events :=
  congrArg Ledger.events (h {})

/-- A check that adds anything adds what it finds and notes when nothing was there before. -/
theorem alone (h : check.Adds findings events) : check.Adds check.found check.noted := by
  rwa [h.found_eq, h.noted_eq]

/-- Two checks in a row add what each of them adds. -/
theorem seq (h : check.Adds findings events) (h' : next.Adds later laterEvents) :
    LedgerCheck.Adds (do check; next) (findings ++ later) (events ++ laterEvents) := by
  intro ledger
  calc after (do check; next) ledger
    _ = next.after (check.after ledger) := rfl
    _ = _ := by rw [h, h', List.append_assoc, List.append_assoc]

/-- Checks that are made for values in turn add what each of them adds. -/
theorem forM {α : Type} (values : List α) {check : α → LedgerCheck} {find : α → Findings}
    {log : α → List Event} (h : ∀ value, (check value).Adds (find value) (log value)) :
    LedgerCheck.Adds (values.forM check) (values.flatMap find) (values.flatMap log) := by
  induction values with
  | nil => exact enters_pure
  | cons value values ih => exact (h value).seq ih

/-- A check that counts its findings adds their number as its last event. -/
theorem counting (h : check.Adds findings events) (last : Nat → Event) :
    (check.counting last).Adds findings (events ++ [last findings.length]) := by
  intro ledger
  calc (check.counting last).after ledger
    _ = ⟨(check.after ledger).findings, (check.after ledger).events ++
          [last ((check.after ledger).findings.length - ledger.findings.length)]⟩ := rfl
    _ = _ := by simp [h ledger]

end Adds

namespace Enters

variable {check next : LedgerCheck} {findings later : Findings}

/-- Two checks in a row enter what each of them enters. -/
theorem seq (h : check.Enters findings) (h' : next.Enters later) :
    LedgerCheck.Enters (do check; next) (findings ++ later) :=
  Adds.seq h h'

/-- A check that is made where something holds enters its findings there. -/
theorem when {condition : Prop} [Decidable condition] (h : check.Enters findings) :
    LedgerCheck.Enters (if condition then check else pure ())
      (if condition then findings else []) := by
  split
  · exact h
  · exact enters_pure

/-- A check that is made unless something holds enters its findings where it does not. -/
theorem whenNot {condition : Prop} [Decidable condition] (h : check.Enters findings) :
    LedgerCheck.Enters (if condition then pure () else check)
      (if condition then [] else findings) := by
  split
  · exact enters_pure
  · exact h

/-- Checks that are made for values in turn enter what each of them enters. -/
theorem forM {α : Type} (values : List α) {check : α → LedgerCheck} {find : α → Findings}
    (h : ∀ value, (check value).Enters (find value)) :
    LedgerCheck.Enters (values.forM check) (values.flatMap find) := by
  have hnone : values.flatMap (fun _ => ([] : List Event)) = [] :=
    List.flatMap_eq_nil_iff.mpr fun _ _ => rfl
  have hall := Adds.forM values h
  rwa [hnone] at hall

end Enters

end LedgerCheck

end Ebms
