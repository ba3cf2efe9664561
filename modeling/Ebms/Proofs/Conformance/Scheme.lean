import Ebms.Proofs.Conformance.Address
import Ebms.Proofs.Conformance.Part

/-!
# Which schemes are told apart

The scheme of an address is read by the grammar: a letter, and then letters, digits, plus signs,
hyphens and points, up to a colon. Nothing but ASCII is a letter or a digit here, and white space
around the address is no part of it.

A profile compares schemes whatever their case. Two addresses that are the same once the white space
around them is gone and the capitals are small therefore have the same scheme up to case, or none
both, and the findings on two legs that differ in nothing else are at the same places and equally
severe.
-/

namespace Ebms

open Findings (marks marks_append)
open Protocol (isSchemeChar)

/-- A character of a scheme, by the grammar. -/
def InScheme (c : Char) : Prop :=
  c.isAlphanum = true ∨ c = '+' ∨ c = '-' ∨ c = '.'

/-- A scheme, by the grammar: a letter and then any characters of schemes. -/
def IsScheme (s : String) : Prop :=
  ∃ first rest, s.toList = first :: rest ∧ first.isAlpha = true ∧ ∀ c ∈ rest, InScheme c

/-- The letters are those of ASCII. -/
theorem isAlpha_iff (c : Char) : c.isAlpha = true ↔ Text.isLetter c = true := by
  have hupper : c.isUpper = true ↔ 'A' ≤ c ∧ c ≤ 'Z' := decide_eq_true_iff
  have hlower : c.isLower = true ↔ 'a' ≤ c ∧ c ≤ 'z' := by
    change (decide _ && decide _) = true ↔ _
    rw [Bool.and_eq_true, decide_eq_true_eq, decide_eq_true_eq]
    exact Iff.rfl
  change (c.isUpper || c.isLower) = true ↔ _
  rw [Bool.or_eq_true, hupper, hlower, or_comm]
  simp [Text.isLetter]

/-- The characters of schemes are those that the recogniser takes. -/
theorem inScheme_iff (c : Char) : InScheme c ↔ isSchemeChar c = true := by
  simp only [InScheme, isSchemeChar, Char.isAlphanum, Bool.or_eq_true, beq_iff_eq, isAlpha_iff,
    or_assoc]
  simp [Char.isDigit, Text.isDigit, Char.le_def]

/-- The first letter of a scheme is a character of schemes as well. -/
theorem IsScheme.inScheme {s : String} (h : IsScheme s) : ∀ c ∈ s.toList, InScheme c := by
  obtain ⟨first, rest, hs, hfirst, hrest⟩ := h
  rw [hs, List.forall_mem_cons]
  exact ⟨.inl (by simp [Char.isAlphanum, hfirst]), hrest⟩

/-- There is no colon in a scheme. -/
theorem IsScheme.colon_notMem {s : String} (h : IsScheme s) : ':' ∉ s.toList := by
  intro hcolon
  exact Protocol.ne_colon_of_isSchemeChar ((inScheme_iff _).mp (h.inScheme _ hcolon)) rfl

/-- An address has a scheme if it starts with one and a colon, white space around it aside. -/
theorem hasScheme_iff (address scheme : String) :
    HasScheme address scheme ↔
      IsScheme scheme ∧ ∃ rest, Text.trim address = scheme ++ ":" ++ rest := by
  have hpath : (∃ path, Text.trimChars address.toList = scheme.toList ++ ':' :: path) ↔
      ∃ rest, Text.trim address = scheme ++ ":" ++ rest := by
    simp only [Text.trim, ← String.toList_inj, String.toList_ofList, String.toList_append]
    constructor
    · intro h
      obtain ⟨path, h⟩ := h
      exact ⟨String.ofList path, by simp [h]⟩
    · intro h
      obtain ⟨rest, h⟩ := h
      exact ⟨rest.toList, by simp [h]⟩
  rw [HasScheme, hpath]
  simp only [IsScheme, isAlpha_iff, inScheme_iff]

/-- Two addresses differ at most in the white space around them and in the case of their schemes. -/
def AlikeAddresses (address other : String) : Prop :=
  Text.trim address = Text.trim other ∨
    ∃ scheme otherScheme rest, IsScheme scheme ∧ IsScheme otherScheme ∧
      Text.lower scheme = Text.lower otherScheme ∧
      Text.trim address = scheme ++ ":" ++ rest ∧ Text.trim other = otherScheme ++ ":" ++ rest

/-- Addresses that differ at most in white space around them and in the case of their schemes are
the same once trimmed and folded. -/
theorem AlikeAddresses.lower_trim_eq {address other : String} (h : AlikeAddresses address other) :
    Text.lower (Text.trim address) = Text.lower (Text.trim other) := by
  obtain h | ⟨scheme, otherScheme, rest, -, -, hlower, haddress, hother⟩ := h
  · rw [h]
  · rw [haddress, hother, Text.lower_append, Text.lower_append, hlower, Text.lower_append,
      Text.lower_append]

/-- Folding case leaves characters of schemes what they are. -/
theorem isSchemeChar_toLower (c : Char) : isSchemeChar c.toLower = isSchemeChar c := by
  cases h : Text.isLetter c with
  | true => simp [isSchemeChar, h]
  | false => rw [Text.toLower_of_not_letter h]

/-- Characters that are folded to those of a scheme form a scheme themselves. -/
theorem IsScheme.of_map_toLower_eq {scheme : String} (h : IsScheme scheme) {cs : List Char}
    (heq : cs.map Char.toLower = scheme.toList.map Char.toLower) : IsScheme (String.ofList cs) := by
  obtain ⟨first, rest, hscheme, hfirst, hrest⟩ := h
  rw [hscheme, List.map_cons, List.map_eq_cons_iff] at heq
  obtain ⟨c, behind, rfl, hc, hbehind⟩ := heq
  refine ⟨c, behind, String.toList_ofList, ?first, ?rest⟩
  case first =>
    rwa [isAlpha_iff, ← Text.isLetter_toLower, hc, Text.isLetter_toLower, ← isAlpha_iff]
  case rest =>
    intro d hd
    have hfolded : d.toLower ∈ rest.map Char.toLower := hbehind ▸ List.mem_map_of_mem hd
    obtain ⟨e, he, heq⟩ := List.mem_map.mp hfolded
    rw [inScheme_iff, ← isSchemeChar_toLower, ← heq, isSchemeChar_toLower, ← inScheme_iff]
    exact hrest e he

/-- Addresses that are the same once trimmed and folded have the same schemes up to case. -/
theorem HasScheme.of_lower_trim_eq {address other scheme : String} (h : HasScheme address scheme)
    (heq : Text.lower (Text.trim address) = Text.lower (Text.trim other)) :
    ∃ otherScheme, HasScheme other otherScheme ∧ Text.lower otherScheme = Text.lower scheme := by
  obtain ⟨hscheme, rest, hrest⟩ := (hasScheme_iff address scheme).mp h
  have hfolded : (Text.trim other).toList.map Char.toLower =
      scheme.toList.map Char.toLower ++ ':'.toLower :: rest.toList.map Char.toLower := by
    rw [hrest, Text.lower, Text.lower, ← String.toList_inj, String.toList_ofList,
      String.toList_ofList] at heq
    simpa using heq.symm
  obtain ⟨cs, behind, hother, hcs, hbehind⟩ := List.map_eq_append_iff.mp hfolded
  obtain ⟨c, path, rfl, hc, -⟩ := List.map_eq_cons_iff.mp hbehind
  -- a colon is folded to itself, and nothing else is folded to it
  obtain rfl : c = ':' := (Text.toLower_eq_iff (by decide) c).mp hc
  refine ⟨String.ofList cs, (hasScheme_iff other _).mpr ⟨hscheme.of_map_toLower_eq hcs, ?_⟩, ?_⟩
  · refine ⟨String.ofList path, ?_⟩
    rw [← String.toList_inj, hother]
    simp
  · rw [Text.lower, Text.lower, String.toList_ofList, hcs]

/-- A leg whose protocol block, if it has one, has some address. -/
def Leg.withAddress (leg : Leg) (address : String) : Leg :=
  { leg with
    protocol := leg.protocol.map fun protocol => { protocol with address := some address } }

namespace Profile

variable (profile : Profile)

/-- Whether an address is standard does not depend on white space around it and on case. -/
theorem standardAddress_congr {address other : String}
    (h : Text.lower (Text.trim address) = Text.lower (Text.trim other)) :
    profile.StandardAddress address ↔ profile.StandardAddress other := by
  have himp {address other : String}
      (h : Text.lower (Text.trim address) = Text.lower (Text.trim other))
      (hstandard : profile.StandardAddress address) : profile.StandardAddress other := by
    obtain ⟨scheme, hscheme, hallowed⟩ := hstandard
    obtain ⟨otherScheme, hother, hlower⟩ := hscheme.of_lower_trim_eq h
    exact ⟨otherScheme, hother, by rwa [hlower]⟩
  exact ⟨himp h, himp h.symm⟩

/-- The marks of a leg do not depend on white space around its address and on case. -/
theorem marks_checkLeg_withAddress (number : Nat) (leg : Leg) {address other : String}
    (h : Text.lower (Text.trim address) = Text.lower (Text.trim other)) :
    marks (profile.checkLeg number (leg.withAddress address)) =
      marks (profile.checkLeg number (leg.withAddress other)) := by
  have hprotocol : marks (profile.checkProtocol number (leg.withAddress address)) =
      marks (profile.checkProtocol number (leg.withAddress other)) := by
    unfold checkProtocol Leg.withAddress
    cases leg.protocol with
    | none => rfl
    | some protocol =>
      have hmarks (address : String) := profile.marks_checkAddress number
        (rfl : Protocol.address { protocol with address := some address } = some address)
      have hsoap : profile.checkSoapVersion number { protocol with address := some address } =
          profile.checkSoapVersion number { protocol with address := some other } := rfl
      simp only [Option.map_some, marks_append, hsoap, hmarks, profile.standardAddress_congr h]
  simp only [checkLeg_eq, marks_append, hprotocol]
  rfl

/-- The marks of a mode do not depend on white space around the address of a leg and on case. -/
theorem marks_checkMode_withAddress (mode : ProcessingMode) (position : LegPosition) (leg : Leg)
    {address other : String} (h : Text.lower (Text.trim address) = Text.lower (Text.trim other)) :
    marks (profile.checkMode (mode.withLeg (leg.withAddress address) position)) =
      marks (profile.checkMode (mode.withLeg (leg.withAddress other) position)) := by
  have hleg := profile.marks_checkLeg_withAddress position.number leg h
  have hlegs : marks (profile.checkLegs (mode.withLeg (leg.withAddress address) position)) =
      marks (profile.checkLegs (mode.withLeg (leg.withAddress other) position)) := by
    simp only [checkLegs_eq_append, flatMap_checkGroup_blocks, marks_append,
      ProcessingMode.leg?_withLeg]
    cases position with
    | first => exact congrArg (· ++ _) hleg
    | second => exact congrArg (_ ++ ·) hleg
  simp only [checkMode_eq, marks_append, hlegs]
  cases position <;> rfl

/-- Whether a mode is accepted does not depend on white space around the address of a leg and on
case. -/
theorem accepts_withAddress_iff (mode : ProcessingMode) (position : LegPosition) (leg : Leg)
    {address other : String} (h : Text.lower (Text.trim address) = Text.lower (Text.trim other)) :
    profile.Accepts (mode.withLeg (leg.withAddress address) position) ↔
      profile.Accepts (mode.withLeg (leg.withAddress other) position) := by
  simp only [Accepts, Findings.hasErrors_eq_any_marks,
    profile.marks_checkMode_withAddress mode position leg h]

end Profile

namespace Protocol

/-- A protocol block has the scheme at the front of its address, as the grammar has it. -/
theorem scheme?_eq_some_iff_isScheme (protocol : Protocol) (scheme : String) :
    protocol.scheme? = some scheme ↔
      IsScheme scheme ∧ ∃ address rest, protocol.address = some address ∧
        Text.trim address = scheme ++ ":" ++ rest := by
  simp only [scheme?_eq_some_iff, hasScheme_iff]
  constructor
  · intro h
    obtain ⟨address, haddress, hscheme, rest, hrest⟩ := h
    exact ⟨hscheme, address, rest, haddress, hrest⟩
  · intro h
    obtain ⟨hscheme, address, rest, haddress, hrest⟩ := h
    exact ⟨address, haddress, hscheme, rest, hrest⟩

/-- An address without a scheme: it is not there, it is blank, no colon is in it, or some other
character that stands in no scheme comes before the first colon. -/
inductive NoScheme : Option String → Prop where
  | absent : NoScheme none
  | blank {address : String} (h : Text.isBlank address = true) : NoScheme (some address)
  | noColon {address : String} (h : ':' ∉ address.toList) : NoScheme (some address)
  | otherChar {address : String} {c : Char}
      (h : c ∈ (Text.trim address).toList.takeWhile (· != ':')) (hc : ¬InScheme c) :
      NoScheme (some address)

/-- A protocol block whose address has no scheme has none. -/
theorem scheme?_of_noScheme {protocol : Protocol} (h : NoScheme protocol.address) :
    protocol.scheme? = none := by
  refine Option.eq_none_iff_forall_ne_some.mpr fun scheme hsome => ?_
  obtain ⟨hscheme, address, rest, haddress, hrest⟩ :=
    (protocol.scheme?_eq_some_iff_isScheme scheme).mp hsome
  have hchars : (Text.trim address).toList = scheme.toList ++ ':' :: rest.toList := by
    simp [hrest]
  rw [haddress] at h
  cases h with
  | blank hblank =>
    rw [scheme?_of_blank haddress hblank] at hsome
    cases hsome
  | noColon hcolon =>
    rw [Text.trim, String.toList_ofList] at hchars
    exact hcolon ((Text.trimChars_sublist address.toList).mem (by simp [hchars]))
  | otherChar hc hother =>
    have hcolon : ∀ d ∈ scheme.toList, d ≠ ':' := by
      intro d hd hcolon
      exact hscheme.colon_notMem (hcolon ▸ hd)
    rw [hchars, takeWhile_ne_colon_append hcolon] at hc
    exact hother (hscheme.inScheme _ hc)

/-- The scheme of an address is read by the grammar, and only its folded form matters. A protocol
block has a scheme exactly if its address, without white space around it, is that scheme, a colon
and anything else; the scheme ends at the first colon; and there is none otherwise. Legs whose
addresses differ at most in white space around them and in the case of their schemes have findings
at the same places that are equally severe, in particular at the place of the address, and a mode
is accepted with the one exactly if it is accepted with the other. -/
theorem scheme_read_by_grammar :
    (∀ (protocol : Protocol) (scheme : String), protocol.scheme? = some scheme ↔
      IsScheme scheme ∧ ∃ address rest, protocol.address = some address ∧
        Text.trim address = scheme ++ ":" ++ rest) ∧
    (∀ scheme, IsScheme scheme → ':' ∉ scheme.toList) ∧
    (∀ protocol : Protocol, protocol.scheme? = none ↔
      ∀ address scheme rest, protocol.address = some address →
        Text.trim address = scheme ++ ":" ++ rest → ¬IsScheme scheme) ∧
    (∀ protocol : Protocol, NoScheme protocol.address → protocol.scheme? = none) ∧
    ∀ (profile : Profile) (leg : Leg) (address other : String), AlikeAddresses address other →
      (∀ number,
        marks (profile.checkLeg number (leg.withAddress address)) =
          marks (profile.checkLeg number (leg.withAddress other)) ∧
        ((profile.checkLeg number (leg.withAddress address)).forField
            (legField number "protocol.address")).map Finding.severity =
          ((profile.checkLeg number (leg.withAddress other)).forField
            (legField number "protocol.address")).map Finding.severity) ∧
      ∀ (mode : ProcessingMode) (position : LegPosition),
        marks (profile.checkMode (mode.withLeg (leg.withAddress address) position)) =
          marks (profile.checkMode (mode.withLeg (leg.withAddress other) position)) ∧
        (profile.Accepts (mode.withLeg (leg.withAddress address) position) ↔
          profile.Accepts (mode.withLeg (leg.withAddress other) position)) := by
  refine ⟨scheme?_eq_some_iff_isScheme, fun _ => IsScheme.colon_notMem, ?none,
    fun _ => scheme?_of_noScheme, ?alike⟩
  case none =>
    intro protocol
    simp only [Option.eq_none_iff_forall_ne_some, Ne, scheme?_eq_some_iff_isScheme]
    constructor
    · intro h address scheme rest haddress hrest hscheme
      exact h scheme ⟨hscheme, address, rest, haddress, hrest⟩
    · intro h scheme hsome
      obtain ⟨hscheme, address, rest, haddress, hrest⟩ := hsome
      exact h address scheme rest haddress hrest hscheme
  case alike =>
    intro profile leg address other halike
    have h := halike.lower_trim_eq
    refine ⟨fun number => ?leg, fun mode position => ?mode⟩
    case leg =>
      have hmarks := profile.marks_checkLeg_withAddress number leg h
      exact ⟨hmarks, by rw [Findings.map_severity_forField, hmarks, Findings.map_severity_forField]⟩
    case mode =>
      exact ⟨profile.marks_checkMode_withAddress mode position leg h,
        profile.accepts_withAddress_iff mode position leg h⟩

end Protocol

end Ebms
