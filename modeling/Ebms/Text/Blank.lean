/-!
# White space and trimming

Identifiers, types and addresses are compared after the white space around them is removed. White
space is the Unicode property `White_Space`; a zero-width space or a byte order mark is not in it.
Trimming keeps the first and the last character that is no white space and everything between
them, so a text is blank exactly when nothing is left of it.
-/

namespace Ebms.Text

/-- Membership in the Unicode property `White_Space`. -/
def isSpace (c : Char) : Bool :=
  let n := c.toNat
  (0x09 ≤ n && n ≤ 0x0D) || n == 0x20 || n == 0x85 || n == 0xA0 || n == 0x1680 ||
    (0x2000 ≤ n && n ≤ 0x200A) || n == 0x2028 || n == 0x2029 || n == 0x202F || n == 0x205F ||
    n == 0x3000

/-- The characters left when white space is dropped from both ends. -/
def trimChars (cs : List Char) : List Char :=
  ((cs.dropWhile isSpace).reverse.dropWhile isSpace).reverse

/-- A text without the white space around it. -/
def trim (s : String) : String :=
  String.ofList (trimChars s.toList)

/-- A blank text holds white space only. -/
def isBlank (s : String) : Bool :=
  s.toList.all isSpace

/-- Dropping leading white space does not change whether a text is blank. -/
theorem all_isSpace_dropWhile (cs : List Char) :
    (cs.dropWhile isSpace).all isSpace = cs.all isSpace := by
  induction cs with
  | nil => rfl
  | cons c cs ih => by_cases h : isSpace c <;> simp [h, ih]

/-- Trimming does not change whether a text is blank. -/
theorem all_isSpace_trimChars (cs : List Char) :
    (trimChars cs).all isSpace = cs.all isSpace := by
  rw [trimChars, List.all_reverse, all_isSpace_dropWhile, List.all_reverse,
    all_isSpace_dropWhile]

/-- Trimming does not change whether a text is blank. -/
@[simp] theorem isBlank_trim (s : String) : isBlank (trim s) = isBlank s := by
  simp [isBlank, trim, all_isSpace_trimChars]

/-- A second pass of dropping leading white space finds nothing to drop. -/
theorem dropWhile_dropWhile_isSpace (cs : List Char) :
    (cs.dropWhile isSpace).dropWhile isSpace = cs.dropWhile isSpace := by
  induction cs with
  | nil => rfl
  | cons c cs ih => by_cases h : isSpace c <;> simp [h, ih]

/-- Dropping trailing white space leaves a text that starts with no white space as it starts. -/
theorem dropWhile_reverse_dropWhile {cs : List Char} (h : cs.dropWhile isSpace = cs) :
    ((cs.reverse.dropWhile isSpace).reverse).dropWhile isSpace =
      (cs.reverse.dropWhile isSpace).reverse := by
  cases cs with
  | nil => rfl
  | cons c cs =>
    have hc : isSpace c = false := by
      cases hb : isSpace c with
      | false => rfl
      | true =>
        rw [List.dropWhile_cons, if_pos hb] at h
        have := congrArg List.length h
        have := (List.dropWhile_sublist (l := cs) isSpace).length_le
        simp at *
        omega
    rw [List.reverse_cons, List.dropWhile_append]
    split <;> simp [hc]

/-- Trimming twice is trimming once. -/
theorem trimChars_trimChars (cs : List Char) : trimChars (trimChars cs) = trimChars cs := by
  have h := dropWhile_reverse_dropWhile (dropWhile_dropWhile_isSpace cs)
  simp only [trimChars] at *
  rw [h, List.reverse_reverse, dropWhile_dropWhile_isSpace]

/-- Trimming twice is trimming once. -/
@[simp] theorem trim_trim (s : String) : trim (trim s) = trim s := by
  simp [trim, trimChars_trimChars]

/-- Nothing is dropped exactly from a text that does not start with white space. -/
theorem dropWhile_isSpace_eq_self_iff (cs : List Char) :
    cs.dropWhile isSpace = cs ↔ cs.head?.any isSpace = false := by
  cases cs with
  | nil => simp
  | cons c cs =>
    rw [List.dropWhile_cons, List.head?_cons, Option.any_some]
    split
    · rename_i hspace
      have hle := (List.dropWhile_sublist (l := cs) isSpace).length_le
      refine iff_of_false (fun h => ?_) (by simp [hspace])
      rw [h, List.length_cons] at hle
      omega
    · rename_i hspace
      simpa using hspace

/-- Trimming changes nothing exactly in a text that neither starts nor ends with white space. -/
theorem trimChars_eq_self_iff (cs : List Char) :
    trimChars cs = cs ↔ cs.head?.any isSpace = false ∧ cs.getLast?.any isSpace = false := by
  rw [← dropWhile_isSpace_eq_self_iff, ← List.head?_reverse, ← dropWhile_isSpace_eq_self_iff]
  constructor
  · intro h
    have hfront : (trimChars cs).dropWhile isSpace = trimChars cs :=
      dropWhile_reverse_dropWhile (dropWhile_dropWhile_isSpace cs)
    rw [h] at hfront
    rw [trimChars, hfront] at h
    exact ⟨hfront, List.reverse_eq_iff.mp h⟩
  · rintro ⟨hfront, hback⟩
    rw [trimChars, hfront, hback, List.reverse_reverse]

/-- Trimming changes nothing exactly in a text that neither starts nor ends with white space. -/
theorem trim_eq_self_iff (s : String) :
    trim s = s ↔ s.toList.head?.any isSpace = false ∧ s.toList.getLast?.any isSpace = false := by
  rw [← trimChars_eq_self_iff, trim, ← String.toList_inj, String.toList_ofList]

/-- Trimming changes nothing in characters of which neither the first nor the last is white
space. -/
theorem trim_ofList_eq_self {cs : List Char} (hfirst : cs.head?.any isSpace = false)
    (hlast : cs.getLast?.any isSpace = false) : trim (String.ofList cs) = String.ofList cs := by
  rw [trim_eq_self_iff, String.toList_ofList]
  exact ⟨hfirst, hlast⟩

/-- Trimming adds no characters. -/
theorem trimChars_sublist (cs : List Char) : (trimChars cs).Sublist cs := by
  have hback := (List.dropWhile_sublist (l := (cs.dropWhile isSpace).reverse) isSpace).reverse
  rw [List.reverse_reverse] at hback
  exact hback.trans (List.dropWhile_sublist isSpace)

/-- White space in front is trimmed away. -/
theorem trimChars_append_left {before : List Char} (h : before.all isSpace = true)
    (cs : List Char) : trimChars (before ++ cs) = trimChars cs := by
  rw [trimChars, List.dropWhile_append_of_pos (List.all_eq_true.mp h), trimChars]

/-- White space behind is trimmed away. -/
theorem trimChars_append_right {after : List Char} (h : after.all isSpace = true)
    (cs : List Char) : trimChars (cs ++ after) = trimChars cs := by
  have hspace : ∀ c ∈ after, isSpace c = true := List.all_eq_true.mp h
  rw [trimChars, List.dropWhile_append]
  split
  · rename_i hempty
    have hnone : (after ++ []).dropWhile isSpace = [].dropWhile isSpace :=
      List.dropWhile_append_of_pos hspace
    rw [List.append_nil, List.dropWhile_nil] at hnone
    rw [trimChars, List.isEmpty_iff.mp hempty, hnone]
  · have hreverse : ∀ c ∈ after.reverse, isSpace c = true := fun c hc =>
      hspace c (List.mem_reverse.mp hc)
    rw [List.reverse_append, List.dropWhile_append_of_pos hreverse, trimChars]

/-- A text is trimmed to the same whatever white space is around it. -/
theorem trim_surrounded {before after : String} (hbefore : isBlank before = true)
    (hafter : isBlank after = true) (s : String) : trim (before ++ s ++ after) = trim s := by
  rw [trim, String.toList_append, String.toList_append, trimChars_append_right hafter,
    trimChars_append_left hbefore, trim]

/-- Nothing is left exactly of a blank text. -/
theorem trim_eq_empty_iff (s : String) : trim s = "" ↔ isBlank s = true := by
  constructor
  · intro h
    rw [← isBlank_trim, h]
    rfl
  · intro h
    have hnone : trimChars ([] ++ s.toList) = [] := trimChars_append_right h []
    rw [trim, ← List.nil_append s.toList, hnone, String.ofList_nil]

end Ebms.Text
