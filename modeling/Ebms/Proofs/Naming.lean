import Ebms.Naming
import Mathlib.Data.List.Basic

/-!
# Derived names tell pairs of parties apart

An escaped full identifier holds no hyphen, so the only hyphen of a derived name is the one between
its two parts, and the name can be split there again. Escaping loses nothing: no escaped character
is the beginning of another one, whatever the identifier looks like. A pair of full identifiers
therefore has a name that no other pair has.

Escaping writes two more characters for every percent sign and every hyphen and changes nothing
else, so the length of a name says whether anything in it is escaped. White space is not escaped: a
name has some around it if the full identifiers bring it along.
-/

namespace Ebms.Naming

/-- An escaped character is not nothing. -/
theorem escapeChar_ne_nil (c : Char) : escapeChar c ≠ [] := by
  unfold escapeChar
  split
  · exact List.cons_ne_nil _ _
  · split <;> exact List.cons_ne_nil _ _

/-- No escaped character is the beginning of another one. -/
theorem escapeChar_append_inj {c d : Char} {cs ds : List Char}
    (h : escapeChar c ++ cs = escapeChar d ++ ds) : c = d ∧ cs = ds := by
  unfold escapeChar at h
  split at h <;> split at h
  all_goals grind

/-- The characters of an escaped text can be told apart again. -/
theorem flatMap_escapeChar_inj {cs ds : List Char}
    (h : cs.flatMap escapeChar = ds.flatMap escapeChar) : cs = ds := by
  induction cs generalizing ds with
  | nil =>
    cases ds with
    | nil => rfl
    | cons d ds => simp [escapeChar_ne_nil] at h
  | cons c cs ih =>
    cases ds with
    | nil => simp [escapeChar_ne_nil] at h
    | cons d ds =>
      rw [List.flatMap_cons, List.flatMap_cons] at h
      obtain ⟨hchar, hrest⟩ := escapeChar_append_inj h
      rw [hchar, ih hrest]

/-- Escaping loses nothing, and nothing that looks escaped already is mistaken for it. -/
theorem escape_inj {s t : String} : escape s = escape t ↔ s = t := by
  constructor
  · intro h
    exact String.toList_inj.mp (flatMap_escapeChar_inj h)
  · intro h
    rw [h]

/-- A hyphen never comes from inside an escaped text. -/
theorem hyphen_not_mem_escape (s : String) : '-' ∉ escape s := by
  rw [escape, List.mem_flatMap]
  rintro ⟨c, -, hc⟩
  unfold escapeChar at hc
  split at hc
  · exact absurd hc (by decide)
  · split at hc
    · exact absurd hc (by decide)
    · rename_i hhyphen
      exact hhyphen (List.mem_singleton.mp hc).symm

/-- Escaping writes two more characters for every percent sign and every hyphen. -/
theorem length_escape (s : String) :
    (escape s).length = s.toList.length + 2 * (s.toList.count '%' + s.toList.count '-') := by
  unfold escape
  induction s.toList with
  | nil => rfl
  | cons c cs ih =>
    rw [List.flatMap_cons, List.length_append, ih, List.length_cons, List.count_cons,
      List.count_cons]
    unfold escapeChar
    by_cases hpercent : c = '%'
    · subst hpercent
      simp
      omega
    · by_cases hhyphen : c = '-'
      · subst hhyphen
        simp
        omega
      · simp [hpercent, hhyphen]
        omega

/-- A text without percent signs and hyphens is not changed by escaping. -/
theorem escape_of_plain {s : String} (hpercent : '%' ∉ s.toList) (hhyphen : '-' ∉ s.toList) :
    escape s = s.toList := by
  have hchar : ∀ c ∈ s.toList, escapeChar c = [c] := by
    intro c hc
    unfold escapeChar
    rw [if_neg, if_neg]
    · rintro rfl
      exact hhyphen hc
    · rintro rfl
      exact hpercent hc
  rw [escape, List.flatMap_congr hchar]
  exact List.flatMap_singleton' _

/-- Two derived texts are the same exactly when both full identifiers agree. -/
theorem derivedText_eq_iff (initiator responder initiator' responder' : Party) :
    derivedText initiator responder = derivedText initiator' responder' ↔
      initiator.fullId = initiator'.fullId ∧ responder.fullId = responder'.fullId := by
  rw [derivedText, derivedText, String.ofList_inj,
    List.append_cons_inj_of_notMem (hyphen_not_mem_escape _) (hyphen_not_mem_escape _),
    escape_inj, escape_inj]
  simp

/-- A derived text holds one hyphen. -/
theorem count_hyphen_derivedText (initiator responder : Party) :
    (derivedText initiator responder).toList.count '-' = 1 := by
  rw [derivedText, String.toList_ofList, List.count_append, List.count_cons_self,
    List.count_eq_zero.mpr (hyphen_not_mem_escape _),
    List.count_eq_zero.mpr (hyphen_not_mem_escape _)]

/-- A derived text is the two full identifiers with a hyphen between them exactly when there is
nothing to escape in either. -/
theorem derivedText_eq_join_iff (initiator responder : Party) :
    derivedText initiator responder = initiator.fullId ++ "-" ++ responder.fullId ↔
      ('%' ∉ initiator.fullId.toList ∧ '-' ∉ initiator.fullId.toList) ∧
        '%' ∉ responder.fullId.toList ∧ '-' ∉ responder.fullId.toList := by
  constructor
  · intro h
    have hlength := congrArg (fun s => s.toList.length) h
    simp only [derivedText, String.toList_ofList, String.toList_append, List.length_append,
      List.length_cons, length_escape] at hlength
    simp only [← List.count_eq_zero]
    simp at hlength
    omega
  · intro h
    obtain ⟨⟨hpercent, hhyphen⟩, hpercent', hhyphen'⟩ := h
    apply String.toList_inj.mp
    rw [derivedText, escape_of_plain hpercent hhyphen, escape_of_plain hpercent' hhyphen']
    simp

/-- What starts with an escaped character starts with white space if the character is some. -/
theorem any_head?_escapeChar (c : Char) (cs : List Char) :
    (escapeChar c ++ cs).head?.any Text.isSpace = Text.isSpace c := by
  unfold escapeChar
  split
  · rename_i hpercent
    rw [hpercent]
    rfl
  · split
    · rename_i hhyphen
      rw [hhyphen]
      rfl
    · rfl

/-- What ends with an escaped character ends with white space if the character is some. -/
theorem any_getLast?_escapeChar (c : Char) (cs : List Char) :
    (cs ++ escapeChar c).getLast?.any Text.isSpace = Text.isSpace c := by
  unfold escapeChar
  split
  · rename_i hpercent
    rw [hpercent, List.getLast?_append]
    rfl
  · split
    · rename_i hhyphen
      rw [hhyphen, List.getLast?_append]
      rfl
    · rw [List.getLast?_append]
      rfl

/-- A derived text starts with white space if its first full identifier does. -/
theorem any_head?_escape (s : String) (cs : List Char) :
    (escape s ++ '-' :: cs).head?.any Text.isSpace = s.toList.head?.any Text.isSpace := by
  unfold escape
  cases s.toList with
  | nil => rfl
  | cons c ds =>
    rw [List.flatMap_cons, List.append_assoc, any_head?_escapeChar]
    rfl

/-- A derived text ends with white space if its second full identifier does. -/
theorem any_getLast?_escape (s : String) (cs : List Char) :
    (cs ++ '-' :: escape s).getLast?.any Text.isSpace = s.toList.getLast?.any Text.isSpace := by
  unfold escape
  obtain hnil | ⟨ds, d, hds⟩ := s.toList.eq_nil_or_concat'
  · rw [hnil, List.flatMap_nil, List.getLast?_append]
    rfl
  · rw [hds, List.flatMap_append, List.flatMap_singleton, ← List.cons_append,
      ← List.append_assoc, any_getLast?_escapeChar, List.getLast?_concat]
    rfl

/-- There is no white space around a derived text exactly if the full identifier in front does not
start with any and the one at the end does not end with any. -/
theorem trim_derivedText_eq_self_iff (initiator responder : Party) :
    Text.trim (derivedText initiator responder) = derivedText initiator responder ↔
      initiator.fullId.toList.head?.any Text.isSpace = false ∧
        responder.fullId.toList.getLast?.any Text.isSpace = false := by
  rw [Text.trim_eq_self_iff, derivedText, String.toList_ofList, any_head?_escape,
    any_getLast?_escape]

/-- Derived names tell pairs of parties apart by their full identifiers and by nothing else: two
pairs have the same name exactly when both full identifiers agree, and roles play no part. A derived
name holds one hyphen, is not blank, and is the two full identifiers with that hyphen between them
exactly when neither holds a percent sign or a hyphen. -/
theorem derived_tells_pairs_apart (initiator responder : Party) :
    (∀ initiator' responder' : Party,
      derived initiator responder = derived initiator' responder' ↔
        initiator.fullId = initiator'.fullId ∧ responder.fullId = responder'.fullId) ∧
    (∀ role role' : String,
      derived { initiator with role } { responder with role := role' } =
        derived initiator responder) ∧
    (derived initiator responder).text.toList.count '-' = 1 ∧
    Text.isBlank (derived initiator responder).text = false ∧
    ((derived initiator responder).text = initiator.fullId ++ "-" ++ responder.fullId ↔
      ('%' ∉ initiator.fullId.toList ∧ '-' ∉ initiator.fullId.toList) ∧
        '%' ∉ responder.fullId.toList ∧ '-' ∉ responder.fullId.toList) := by
  refine ⟨?pairs, ?roles, count_hyphen_derivedText initiator responder,
    isBlank_derivedText initiator responder, derivedText_eq_join_iff initiator responder⟩
  case pairs =>
    intro initiator' responder'
    rw [← derivedText_eq_iff, derived, derived, ModeId.mk.injEq]
  case roles =>
    intro role role'
    rfl

end Ebms.Naming
