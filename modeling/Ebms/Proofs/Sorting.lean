import Mathlib.Data.List.Perm.Basic
import Mathlib.Logic.Function.Basic

/-!
# Sorting by a text

Identifiers are listed in the order of their texts, and an identifier is told by its text. There is
then one list of given identifiers in ascending order, so it does not show in which order they were
enumerated.
-/

namespace Ebms

variable {α : Type}

/-- Values in the ascending order of a text of theirs. -/
def sortedBy (text : α → String) (values : List α) : List α :=
  values.mergeSort fun value other => decide (text value ≤ text other)

variable {text : α → String}

/-- Sorted values are in ascending order. -/
theorem pairwise_sortedBy (values : List α) :
    (sortedBy text values).Pairwise fun value other => text value ≤ text other := by
  have hpairwise : (sortedBy text values).Pairwise fun value other =>
      decide (text value ≤ text other) := by
    apply List.pairwise_mergeSort
    · intro first second third
      simpa using String.le_trans
    · intro first second
      simpa using String.le_total (text first) (text second)
  exact hpairwise.imp of_decide_eq_true

/-- Sorting gives the same values. -/
theorem sortedBy_perm (values : List α) : (sortedBy text values).Perm values :=
  List.mergeSort_perm values _

/-- Values in strictly ascending order are all different. -/
theorem nodup_of_ascending {values : List α}
    (h : values.Pairwise fun value other => text value < text other) : values.Nodup := by
  rw [List.nodup_iff_pairwise_ne]
  refine h.imp ?_
  rintro value other hlt rfl
  exact String.lt_irrefl _ hlt

section

variable (htext : Function.Injective text)
include htext

/-- Sorting gives the same values in ascending order, and there is one such list. -/
theorem sortedBy_eq_iff {values others : List α} :
    sortedBy text values = others ↔
      (others.Pairwise fun value other => text value ≤ text other) ∧ others.Perm values := by
  constructor
  · rintro rfl
    exact ⟨pairwise_sortedBy values, sortedBy_perm values⟩
  · rintro ⟨hascending, hperm⟩
    refine List.Perm.eq_of_pairwise ?_ (pairwise_sortedBy values) hascending
      ((sortedBy_perm values).trans hperm.symm)
    intro value other _ _ hle hge
    exact htext (String.le_antisymm hle hge)

/-- The order of the values before sorting does not matter. -/
theorem sortedBy_eq_of_perm {values others : List α} (h : values.Perm others) :
    sortedBy text values = sortedBy text others :=
  (sortedBy_eq_iff htext).mpr ⟨pairwise_sortedBy others, (sortedBy_perm others).trans h.symm⟩

/-- Values in strictly ascending order stay as they are. -/
theorem sortedBy_eq_self {values : List α}
    (h : values.Pairwise fun value other => text value < text other) :
    sortedBy text values = values := by
  refine (sortedBy_eq_iff htext).mpr ⟨h.imp fun hlt => String.not_lt.mp fun hgt => ?_, .rfl⟩
  exact String.lt_irrefl _ (String.lt_trans hlt hgt)

/-- Values that are listed in strictly ascending order are what comes of sorting them, however they
are enumerated. -/
theorem eq_sortedBy {listed enumerated : List α}
    (hascending : listed.Pairwise fun value other => text value < text other)
    (hnodup : enumerated.Nodup) (hmem : ∀ value, value ∈ enumerated ↔ value ∈ listed) :
    listed = sortedBy text enumerated := by
  have hperm : enumerated.Perm listed :=
    (List.perm_ext_iff_of_nodup hnodup (nodup_of_ascending hascending)).mpr hmem
  rw [sortedBy_eq_of_perm htext hperm, sortedBy_eq_self htext hascending]

end

end Ebms
