import Ebms.Leg
import Ebms.Profile.Basic

/-!
# The scheme of an address

An address has a scheme when, without the white space around it, it starts with a letter, goes on
with letters, digits, plus signs, hyphens and points, and then comes to a colon. A colon is none
of these, so the first colon ends the scheme and an address has at most one. The recogniser, which
splits at the first colon and looks at what is before it, finds exactly this scheme.
-/

namespace Ebms

open Text (isLetter trimChars)

/-- An address starts with a scheme and a colon, white space around it aside. -/
def HasScheme (address scheme : String) : Prop :=
  (∃ first rest, scheme.toList = first :: rest ∧ isLetter first = true ∧
    ∀ c ∈ rest, Protocol.isSchemeChar c = true) ∧
  ∃ path, trimChars address.toList = scheme.toList ++ ':' :: path

namespace Protocol

/-- A letter may stand anywhere in a scheme. -/
theorem isSchemeChar_of_isLetter {c : Char} (h : isLetter c = true) : isSchemeChar c = true := by
  simp [isSchemeChar, h]

/-- A colon stands nowhere in a scheme. -/
theorem ne_colon_of_isSchemeChar {c : Char} (h : isSchemeChar c = true) : c ≠ ':' := by
  intro hc
  subst hc
  exact absurd h (by decide)

/-- Where there is no colon before a colon, what is before it ends at it. -/
theorem takeWhile_ne_colon_append {before : List Char} (h : ∀ c ∈ before, c ≠ ':')
    (path : List Char) : (before ++ ':' :: path).takeWhile (· != ':') = before := by
  rw [List.takeWhile_append_of_pos fun c hc => bne_iff_ne.mpr (h c hc)]
  simp

/-- A text that is longer than what is before its first colon has a colon there. -/
theorem exists_path_of_takeWhile_lt {cs : List Char}
    (h : (cs.takeWhile (· != ':')).length < cs.length) :
    ∃ path, cs = cs.takeWhile (· != ':') ++ ':' :: path := by
  induction cs with
  | nil => exact absurd h (Nat.lt_irrefl 0)
  | cons c cs ih =>
    by_cases hc : c = ':'
    · subst hc
      exact ⟨cs, rfl⟩
    · have hcons : (c :: cs).takeWhile (· != ':') = c :: cs.takeWhile (· != ':') := by
        simp [hc]
      rw [hcons] at h ⊢
      obtain ⟨path, hpath⟩ := ih (Nat.lt_of_succ_lt_succ h)
      exact ⟨path, by rw [List.cons_append, ← hpath]⟩

/-- The characters of a scheme are found in front of a colon and nowhere else. -/
theorem schemeChars?_eq_some_iff (cs scheme : List Char) :
    schemeChars? cs = some scheme ↔
      (∃ first rest, scheme = first :: rest ∧ isLetter first = true ∧
        ∀ c ∈ rest, isSchemeChar c = true) ∧
      ∃ path, cs = scheme ++ ':' :: path := by
  constructor
  · intro h
    rw [schemeChars?] at h
    split at h
    · rename_i hscheme
      obtain ⟨hlength, hfirst, hall⟩ := hscheme
      cases h
      refine ⟨?_, exists_path_of_takeWhile_lt hlength⟩
      cases hcs : cs.takeWhile (· != ':') with
      | nil => simp [hcs] at hfirst
      | cons first rest =>
        rw [hcs] at hfirst hall
        refine ⟨first, rest, rfl, by simpa using hfirst, fun c hc => ?_⟩
        exact List.all_eq_true.mp hall c (List.mem_cons_of_mem _ hc)
    · cases h
  · intro h
    obtain ⟨⟨first, rest, rfl, hfirst, hrest⟩, path, rfl⟩ := h
    have hall : ∀ c ∈ first :: rest, isSchemeChar c = true := by
      intro c hc
      obtain rfl | hc := List.mem_cons.mp hc
      · exact isSchemeChar_of_isLetter hfirst
      · exact hrest c hc
    have hbefore := takeWhile_ne_colon_append
      (fun c hc => ne_colon_of_isSchemeChar (hall c hc)) path
    rw [schemeChars?, if_pos]
    · rw [hbefore]
    · rw [hbefore]
      exact ⟨by simp, by simpa using hfirst, List.all_eq_true.mpr hall⟩

/-- The scheme of a protocol block is the one its address has. -/
theorem scheme?_eq_some_iff (protocol : Protocol) (scheme : String) :
    protocol.scheme? = some scheme ↔
      ∃ address, protocol.address = some address ∧ HasScheme address scheme := by
  unfold scheme?
  cases haddress : protocol.address with
  | none => simp
  | some address =>
    have hchars : (schemeChars? (trimChars address.toList)).map String.ofList = some scheme ↔
        schemeChars? (trimChars address.toList) = some scheme.toList := by
      rw [Option.map_eq_some_iff]
      constructor
      · intro h
        obtain ⟨cs, hcs, rfl⟩ := h
        rw [hcs, String.toList_ofList]
      · intro hcs
        exact ⟨scheme.toList, hcs, String.ofList_toList⟩
    have hscheme := hchars.trans (schemeChars?_eq_some_iff (trimChars address.toList) scheme.toList)
    simpa [HasScheme, Option.map_eq_bind, Function.comp_def] using hscheme

end Protocol

/-- An address that has a scheme has a colon behind it, so it is not blank. -/
theorem HasScheme.isBlank_eq_false {address scheme : String} (h : HasScheme address scheme) :
    Text.isBlank address = false := by
  obtain ⟨-, path, hpath⟩ := h
  refine Bool.eq_false_iff.mpr fun hblank => ?_
  rw [Text.isBlank, ← Text.all_isSpace_trimChars, hpath, List.all_eq_true] at hblank
  exact absurd (hblank ':' (by simp)) (by decide)

end Ebms
