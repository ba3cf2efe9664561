import Ebms.Finding
import Mathlib.Data.List.Nodup

/-!
# What lists of findings say

Findings that are collected in a row refuse when any part of the row does. A check is made of
rules, and a rule is about one place: where it is kept nothing is found, and where it is broken
there is a single finding, whose severity and path are known beforehand.

A check is described once, by the rules it is made of. Whether it finds nothing, whether it
refuses, where its findings are and how severe they are all follow from that description.

Findings that refuse are told from advice twice, by their severity and by the kind of their rule.
-/

namespace Ebms.Findings

/-- Where nothing is found, nothing refuses. -/
@[simp] theorem hasErrors_nil : hasErrors [] = false := rfl

/-- Findings in a row refuse when either part does. -/
@[simp] theorem hasErrors_append (earlier later : Findings) :
    hasErrors (earlier ++ later) = (hasErrors earlier || hasErrors later) :=
  List.any_append

/-- A single error refuses. -/
@[simp] theorem hasErrors_error (category : Category) (field message : String) :
    hasErrors [.error category field message] = true := rfl

/-- Findings refuse nothing exactly when none of them is an error. -/
theorem hasErrors_eq_false_iff (findings : Findings) :
    hasErrors findings = false ↔ ∀ finding ∈ findings, finding.severity ≠ .error := by
  simp [hasErrors, Finding.isError]

/-- The decision lets findings pass exactly when none of them is an error. -/
theorem verdict_eq_ok_iff (findings : Findings) :
    verdict findings = .ok findings ↔ ∀ finding ∈ findings, finding.severity ≠ .error := by
  rw [← hasErrors_eq_false_iff, verdict]
  cases hasErrors findings <;> simp

/-- The decision hands every finding back, whatever it is. -/
theorem verdict_hands_back (findings : Findings) :
    verdict findings = .ok findings ∨ verdict findings = .error ⟨findings⟩ := by
  rw [verdict]
  cases hasErrors findings
  · exact .inl rfl
  · exact .inr rfl

/-- A collection of findings refuses nothing exactly when no part of it does. -/
theorem hasErrors_flatMap {α : Type} (values : List α) (check : α → Findings) :
    hasErrors (values.flatMap check) = false ↔
      ∀ value ∈ values, hasErrors (check value) = false := by
  induction values with
  | nil => simp
  | cons value values ih => simp [ih]

/-- A check that looks at values in turn and leaves one finding for some of them leaves the findings
of those values. -/
theorem flatMap_eq_map_filter {α : Type} {check : α → Findings} {p : α → Bool} {f : α → Finding}
    (h : ∀ value, check value = if p value then [f value] else []) (values : List α) :
    values.flatMap check = (values.filter p).map f := by
  induction values with
  | nil => rfl
  | cons value values ih =>
    rw [List.flatMap_cons, ih, h, List.filter_cons]
    cases p value <;> rfl

/-- Of the findings of checks in turn, those that are kept are the findings of the checks that are
kept, if each check has its findings kept or dropped all together. -/
theorem filter_flatMap {α : Type} {values : List α} {check : α → Findings} {p : Finding → Bool}
    {q : α → Bool} (h : ∀ value ∈ values, ∀ finding ∈ check value, p finding = q value) :
    (values.flatMap check).filter p = (values.filter q).flatMap check := by
  induction values with
  | nil => rfl
  | cons value values ih =>
    obtain ⟨hvalue, hvalues⟩ := List.forall_mem_cons.mp h
    rw [List.flatMap_cons, List.filter_append, ih hvalues, List.filter_cons]
    cases hq : q value with
    | true =>
      have hall : (check value).filter p = check value :=
        List.filter_eq_self.mpr fun finding hfinding => (hvalue finding hfinding).trans hq
      rw [hall, if_pos rfl, List.flatMap_cons]
    | false =>
      have hnone : (check value).filter p = [] :=
        List.filter_eq_nil_iff.mpr fun finding hfinding => by
          rw [hvalue finding hfinding, hq]
          exact Bool.false_ne_true
      rw [hnone, if_neg Bool.false_ne_true, List.nil_append]

/-- Checks that find nothing may be left out. -/
theorem flatMap_filter {α : Type} {values : List α} {check : α → Findings} {q : α → Bool}
    (h : ∀ value ∈ values, q value = false → check value = []) :
    (values.filter q).flatMap check = values.flatMap check := by
  induction values with
  | nil => rfl
  | cons value values ih =>
    obtain ⟨hvalue, hvalues⟩ := List.forall_mem_cons.mp h
    rw [List.filter_cons, List.flatMap_cons, ← ih hvalues]
    cases hq : q value with
    | true => rw [if_pos rfl, List.flatMap_cons]
    | false => rw [if_neg Bool.false_ne_true, hvalue hq, List.nil_append]

/-- The findings at a place, of findings in a row, are those of each part of the row. -/
theorem forField_append (earlier later : Findings) (field : String) :
    forField (earlier ++ later) field = forField earlier field ++ forField later field :=
  List.filter_append ..

/-- The severities and the paths of some findings. -/
def marks (findings : Findings) : List (Severity × String) :=
  findings.map fun finding => (finding.severity, finding.field)

/-- Where nothing is found, there are no marks. -/
@[simp] theorem marks_nil : marks [] = [] := rfl

/-- The marks of findings in a row stand in a row. -/
@[simp] theorem marks_append (earlier later : Findings) :
    marks (earlier ++ later) = marks earlier ++ marks later :=
  List.map_append

/-- How severe the findings at a place are can be told from the marks. -/
theorem map_severity_forField (findings : Findings) (field : String) :
    (forField findings field).map Finding.severity =
      ((marks findings).filter fun mark => mark.2 == field).map Prod.fst := by
  rw [marks, List.filter_map, List.map_map]
  rfl

/-- Whether findings refuse can be told from the marks. -/
theorem hasErrors_eq_any_marks (findings : Findings) :
    hasErrors findings = (marks findings).any fun mark => mark.1 == .error := by
  rw [marks, List.any_map]
  rfl

/-- The findings of one rule about one place: none where the rule is kept, and a single one where
it is broken. -/
inductive OfRule (severity : Severity) (field : String) (kept : Prop) : Findings → Prop where
  | kept (h : kept) : OfRule severity field kept []
  | broken (h : ¬kept) (category : Category) (message : String) :
      OfRule severity field kept [⟨severity, category, field, message⟩]

namespace OfRule

variable {severity : Severity} {field : String} {kept : Prop} {findings : Findings}

/-- A check that reports a finding unless a condition holds is a rule that asks for it. -/
theorem ofUnless [Decidable kept] (category : Category) (message : String) :
    OfRule severity field kept (if kept then [] else [⟨severity, category, field, message⟩]) := by
  by_cases h : kept
  · rw [if_pos h]
    exact .kept h
  · rw [if_neg h]
    exact .broken h category message

/-- A check that reports a finding when a condition holds is a rule against it. -/
theorem ofWhen [Decidable kept] (category : Category) (message : String) :
    OfRule severity field (¬kept)
      (if kept then [⟨severity, category, field, message⟩] else []) := by
  by_cases h : kept
  · rw [if_pos h]
    exact .broken (not_not_intro h) category message
  · rw [if_neg h]
    exact .kept h

/-- A rule may be described by any condition that says the same. -/
theorem congr {kept' : Prop} (h : OfRule severity field kept findings) (hiff : kept ↔ kept') :
    OfRule severity field kept' findings := by
  cases h with
  | kept h => exact .kept (hiff.mp h)
  | broken h category message => exact .broken (fun h' => h (hiff.mpr h')) category message

/-- A rule finds nothing exactly where it is kept. -/
theorem eq_nil_iff (h : OfRule severity field kept findings) : findings = [] ↔ kept := by
  cases h with
  | kept h => exact iff_of_true rfl h
  | broken h => exact iff_of_false (List.cons_ne_nil _ _) h

/-- A rule refuses nothing exactly where it is kept or only advises. -/
theorem hasErrors_iff (h : OfRule severity field kept findings) :
    hasErrors findings = false ↔ kept ∨ severity = .warning := by
  cases h with
  | kept h => exact iff_of_true rfl (.inl h)
  | broken h => cases severity <;> simp [hasErrors, Finding.isError, h]

/-- A rule whose finding is an error refuses nothing exactly where it is kept. -/
theorem hasErrors_error_iff (h : OfRule .error field kept findings) :
    hasErrors findings = false ↔ kept := by
  simp [h.hasErrors_iff]

/-- The only mark that a rule leaves is its own. -/
theorem marks_eq [Decidable kept] (h : OfRule severity field kept findings) :
    marks findings = if kept then [] else [(severity, field)] := by
  cases h with
  | kept h => rw [if_pos h]; rfl
  | broken h => rw [if_neg h]; rfl

/-- A rule finds at most one thing. -/
theorem length_le_one (h : OfRule severity field kept findings) : findings.length ≤ 1 := by
  cases h with
  | kept => exact Nat.zero_le 1
  | broken => exact Nat.le_refl 1

/-- Two rules of which one is kept find at most one thing together. -/
theorem length_append_le_one {severity' : Severity} {field' : String} {kept' : Prop}
    {findings' : Findings} (h : OfRule severity field kept findings)
    (h' : OfRule severity' field' kept' findings') (hkept : kept ∨ kept') :
    (findings ++ findings').length ≤ 1 := by
  obtain hkept | hkept := hkept
  · rw [h.eq_nil_iff.mpr hkept, List.nil_append]
    exact h'.length_le_one
  · rw [h'.eq_nil_iff.mpr hkept, List.append_nil]
    exact h.length_le_one

/-- Whatever a rule finds is at its place and as severe as the rule, and the rule is broken. -/
theorem of_mem (h : OfRule severity field kept findings) {finding : Finding}
    (hfinding : finding ∈ findings) :
    finding.field = field ∧ finding.severity = severity ∧ ¬kept := by
  cases h with
  | kept => cases hfinding
  | broken h =>
    rw [List.mem_singleton.mp hfinding]
    exact ⟨rfl, rfl, h⟩

/-- Everything that a rule finds is at the place of the rule. -/
theorem forField_self (h : OfRule severity field kept findings) :
    forField findings field = findings :=
  List.filter_eq_self.mpr fun _ hfinding => beq_iff_eq.mpr (h.of_mem hfinding).1

/-- A rule finds nothing at any other place. -/
theorem forField_of_ne (h : OfRule severity field kept findings) {other : String}
    (hne : field ≠ other) : forField findings other = [] :=
  List.filter_eq_nil_iff.mpr fun _ hfinding heq =>
    hne ((h.of_mem hfinding).1.symm.trans (beq_iff_eq.mp heq))

end OfRule

section Rules

variable {α : Type} {values : List α} {check : α → Findings} {place : α → String}
  {severity : Severity} {kept : α → Prop}

/-- Of rules about different places, what is found at the place of one of them is what that one
finds. -/
theorem forField_flatMap_of_mem (hrule : ∀ value, OfRule severity (place value) (kept value)
    (check value)) (hplace : place.Injective) (hnodup : values.Nodup) {value : α}
    (hmem : value ∈ values) : forField (values.flatMap check) (place value) = check value := by
  classical
  have hkeep : ∀ other ∈ values, ∀ finding ∈ check other,
      (finding.field == place value) = decide (other = value) := by
    intro other _ finding hfinding
    rw [((hrule other).of_mem hfinding).1, Bool.eq_iff_iff, beq_iff_eq, decide_eq_true_iff]
    exact hplace.eq_iff
  calc forField (values.flatMap check) (place value)
    _ = (values.filter (· = value)).flatMap check := filter_flatMap hkeep
    _ = [value].flatMap check := by
      rw [List.filter_eq, List.count_eq_one_of_mem hnodup hmem, List.replicate_one]
    _ = check value := List.flatMap_singleton ..

/-- Rules about different places find at most one thing at each place. -/
theorem length_forField_flatMap_le_one (hrule : ∀ value, OfRule severity (place value) (kept value)
    (check value)) (hplace : place.Injective) (hnodup : values.Nodup) (field : String) :
    (forField (values.flatMap check) field).length ≤ 1 := by
  by_cases hfield : ∃ value ∈ values, place value = field
  · obtain ⟨value, hmem, rfl⟩ := hfield
    rw [forField_flatMap_of_mem hrule hplace hnodup hmem]
    exact (hrule value).length_le_one
  · have hnone : forField (values.flatMap check) field = [] := by
      refine List.filter_eq_nil_iff.mpr fun finding hfinding heq => hfield ?_
      obtain ⟨value, hmem, hvalue⟩ := List.mem_flatMap.mp hfinding
      exact ⟨value, hmem, ((hrule value).of_mem hvalue).1.symm.trans (beq_iff_eq.mp heq)⟩
    rw [hnone]
    exact Nat.zero_le 1

end Rules

/-- The findings that only advise. -/
def warnings (findings : Findings) : Findings :=
  findings.filter fun finding => finding.severity == .warning

/-- Warnings are the findings of the kind that advises. -/
def Graded (findings : Findings) : Prop :=
  ∀ finding ∈ findings, finding.severity = .warning ↔ finding.category = .advisory

/-- All of some findings refuse, and none of them is of the kind that advises. -/
def Refuse (findings : Findings) : Prop :=
  ∀ finding ∈ findings, finding.severity = .error ∧ finding.category ≠ .advisory

/-- The warnings are the findings that are warnings. -/
@[simp] theorem mem_warnings {finding : Finding} {findings : Findings} :
    finding ∈ warnings findings ↔ finding ∈ findings ∧ finding.severity = .warning := by
  simp [warnings]

/-- The warnings of findings in a row stand in a row. -/
theorem warnings_append (earlier later : Findings) :
    warnings (earlier ++ later) = warnings earlier ++ warnings later :=
  List.filter_append ..

/-- The warnings of what is found on values in turn are those of each value in turn. -/
theorem warnings_flatMap {α : Type} (values : List α) (find : α → Findings) :
    warnings (values.flatMap find) = values.flatMap fun value => warnings (find value) :=
  List.filter_flatMap ..

/-- Of what a rule finds, there are warnings where the rule is broken and only advises. -/
theorem OfRule.warnings {severity : Severity} {field : String} {kept : Prop} {findings : Findings}
    (h : OfRule severity field kept findings) :
    OfRule .warning field (kept ∨ severity = .error) (Findings.warnings findings) := by
  cases h with
  | kept h => exact .kept (.inl h)
  | broken h category message =>
    cases severity with
    | warning => exact .broken (by simp [h]) category message
    | error => exact .kept (.inr rfl)

namespace Refuse

variable {category : Category} {field message : String} {findings later : Findings}

/-- Where nothing is found, there is no advice. -/
theorem nil : Refuse [] := by
  intro finding hfinding
  cases hfinding

/-- A single error of another kind is no advice. -/
theorem single (h : category ≠ .advisory) : Refuse [.error category field message] := by
  intro finding hfinding
  rw [List.mem_singleton.mp hfinding]
  exact ⟨rfl, h⟩

/-- An error that is found unless a condition holds is no advice. -/
theorem ofUnless (kept : Prop) [Decidable kept] (h : category ≠ .advisory) :
    Refuse (if kept then [] else [.error category field message]) := by
  split
  · exact nil
  · exact single h

/-- An error that is found when a condition holds is no advice. -/
theorem ofWhen (broken : Prop) [Decidable broken] (h : category ≠ .advisory) :
    Refuse (if broken then [.error category field message] else []) := by
  split
  · exact single h
  · exact nil

/-- Findings in a row hold no advice exactly if neither part does. -/
theorem append_iff : Refuse (findings ++ later) ↔ Refuse findings ∧ Refuse later :=
  List.forall_mem_append

/-- Findings that hold no advice are graded. -/
theorem graded (h : Refuse findings) : Graded findings := by
  intro finding hfinding
  obtain ⟨hseverity, hcategory⟩ := h finding hfinding
  simp [hseverity, hcategory]

/-- Without advice there are no warnings. -/
theorem warnings_eq_nil (h : Refuse findings) : warnings findings = [] := by
  refine List.filter_eq_nil_iff.mpr fun finding hfinding => ?_
  simp [(h finding hfinding).1]

end Refuse

end Ebms.Findings
