import Ebms.Text.Blank

/-!
# ASCII letters, digits and case

Names that are compared without regard to case fold the twenty-six ASCII letters and nothing else:
a letter outside ASCII stays as it is, whatever case Unicode gives it. Folding therefore commutes
with trimming, and a folded text folds to itself.
-/

namespace Ebms.Text

/-- A text with its ASCII capitals made small. -/
def lower (s : String) : String :=
  String.ofList (s.toList.map Char.toLower)

/-- Equality that disregards the case of ASCII letters. -/
def equalsIgnoringCase (s t : String) : Bool :=
  lower s == lower t

/-- A decimal digit of ASCII. -/
def isDigit (c : Char) : Bool :=
  '0' ≤ c && c ≤ '9'

/-- A letter of ASCII. -/
def isLetter (c : Char) : Bool :=
  ('a' ≤ c && c ≤ 'z') || ('A' ≤ c && c ≤ 'Z')

/-- The number a decimal digit stands for. -/
def digitValue (c : Char) : Nat :=
  c.toNat - 48

/-- The number that a run of decimal digits stands for. -/
def digitsValue (cs : List Char) : Nat :=
  cs.foldl (fun n c => 10 * n + digitValue c) 0

/-- Folding adds 32 to the code of a capital and leaves every other code alone. -/
theorem toNat_toLower (c : Char) :
    c.toLower.toNat = if 65 ≤ c.toNat ∧ c.toNat ≤ 90 then c.toNat + 32 else c.toNat := by
  have key : (c.val ≥ 'A'.val ∧ c.val ≤ 'Z'.val) ↔ (65 ≤ c.toNat ∧ c.toNat ≤ 90) := by
    simp only [ge_iff_le, UInt32.le_iff_toNat_le, Char.toNat_val]
    exact Iff.rfl
  unfold Char.toLower
  split
  · rename_i h
    have h' := key.1 h
    rw [if_pos h']
    change (c.val + ('a'.val - 'A'.val)).toNat = _
    rw [UInt32.toNat_add, Char.toNat_val]
    have : ('a'.val - 'A'.val).toNat = 32 := by decide
    omega
  · rename_i h
    rw [if_neg (fun h' => h (key.2 h'))]

/-- Folding case turns no character into white space and no white space into something else. -/
@[simp] theorem isSpace_toLower (c : Char) : isSpace c.toLower = isSpace c := by
  simp only [isSpace, toNat_toLower]
  split
  · rw [Bool.eq_iff_iff]
    simp
    omega
  · rfl

/-- Folding case twice is folding it once. -/
@[simp] theorem toLower_toLower (c : Char) : c.toLower.toLower = c.toLower := by
  apply Char.ext
  apply UInt32.toNat_inj.1
  simp only [Char.toNat_val, toNat_toLower]
  by_cases h : 65 ≤ c.toNat ∧ c.toNat ≤ 90
  · rw [if_pos h, if_neg (by omega)]
  · rw [if_neg h, if_neg h]

/-- Folding case twice is folding it once. -/
@[simp] theorem lower_lower (s : String) : lower (lower s) = lower s := by
  apply String.toList_inj.1
  simp [lower, Function.comp_def]

/-- The letters of ASCII by their codes. -/
theorem isLetter_iff_toNat (c : Char) :
    isLetter c = true ↔ 97 ≤ c.toNat ∧ c.toNat ≤ 122 ∨ 65 ≤ c.toNat ∧ c.toNat ≤ 90 := by
  simp only [isLetter, Bool.or_eq_true, Bool.and_eq_true, decide_eq_true_eq]
  exact Iff.rfl

/-- Folding case turns letters into letters and nothing else into them. -/
@[simp] theorem isLetter_toLower (c : Char) : isLetter c.toLower = isLetter c := by
  rw [Bool.eq_iff_iff, isLetter_iff_toNat, isLetter_iff_toNat, toNat_toLower]
  split <;> omega

/-- Folding case leaves what is no letter alone. -/
theorem toLower_of_not_letter {c : Char} (h : isLetter c = false) : c.toLower = c := by
  have hcapital : ¬(65 ≤ c.toNat ∧ c.toNat ≤ 90) := by
    intro hcapital
    rw [(isLetter_iff_toNat c).mpr (.inr hcapital)] at h
    cases h
  apply Char.ext
  apply UInt32.toNat_inj.1
  simp only [Char.toNat_val, toNat_toLower, if_neg hcapital]

/-- What is no letter is the folded form of itself alone. -/
theorem toLower_eq_iff {d : Char} (hd : isLetter d = false) (c : Char) :
    c.toLower = d ↔ c = d := by
  constructor
  · intro h
    have hc : isLetter c = false := by rw [← isLetter_toLower, h, hd]
    rwa [toLower_of_not_letter hc] at h
  · intro h
    rw [h, toLower_of_not_letter hd]

/-- Folding case keeps the number of characters. -/
@[simp] theorem length_lower (s : String) : (lower s).length = s.length := by
  rw [lower, String.length_ofList, List.length_map, String.length_toList]

/-- Texts in a row are folded one by one. -/
theorem lower_append (s t : String) : lower (s ++ t) = lower s ++ lower t := by
  rw [lower, String.toList_append, List.map_append, String.ofList_append, lower, lower]

/-- Case and surrounding white space can be removed in either order. -/
theorem trim_lower (s : String) : trim (lower s) = lower (trim s) := by
  have h : isSpace ∘ Char.toLower = isSpace := funext isSpace_toLower
  apply String.toList_inj.1
  simp [trim, lower, trimChars, List.dropWhile_map, ← List.map_reverse, h]

/-- Folding case does not change whether a text is blank. -/
@[simp] theorem isBlank_lower (s : String) : isBlank (lower s) = isBlank s := by
  simp [isBlank, lower, Function.comp_def]

end Ebms.Text
