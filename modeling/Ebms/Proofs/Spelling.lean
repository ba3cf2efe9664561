import Ebms.Algorithm
import Ebms.Exchange
import Ebms.Leg
import Mathlib.Data.List.Nodup

/-!
# What spells the values of an enumeration

Values are spelled in one of three ways. A version or an algorithm is spelled by its identifier,
exactly as it is. A pattern or a binding is spelled by its address, exactly as it is, or by its
short text in any case. A flag or a way back is spelled by its word in any case, and an undefined
flag by a blank text as well.

No text spells two values of one enumeration, whatever its case. So it does not matter in which
order the values are tried: a text is read as a value exactly if it spells that value, white space
around it aside.
-/

namespace Ebms

section Spellings

variable {α : Type}

/-- A text spells a value if it is the identifier of the value, case included. -/
def ByIdentifier (identifier : α → String) (value : α) (text : String) : Prop :=
  text = identifier value

/-- A text spells a value if it is the word for the value, the case of ASCII letters aside. -/
def ByWord (word : α → String) (value : α) (text : String) : Prop :=
  Text.lower text = Text.lower (word value)

/-- A text spells a value if it is the address of the value, case included, or its short text, the
case of ASCII letters aside. -/
def ByAddressOrWord (address short : α → String) (value : α) (text : String) : Prop :=
  ByIdentifier address value text ∨ ByWord short value text

end Spellings

/-- A text spells a flag if it is the word for the flag, the case of ASCII letters aside; a blank
text spells the undefined one. -/
def Flag.SpelledBy (flag : Flag) (text : String) : Prop :=
  ByWord Flag.word flag text ∨ flag = .undefined ∧ Text.isBlank text = true

/-- An enumeration is read by some spellings. A text is read as a value exactly if it spells the
value, white space around it aside, and no text spells two values; the text for a value is read as
that value whatever white space is around it. All other texts are refused, and no text that spells a
value is; what is handed back is what kind of value was wanted and the text as it was given. -/
structure ReadBy (α : Type) [Spelled α] (kind : String) (spelling : α → String → Prop) : Prop where
  reads : ∀ (s : String) (value : α), Spelled.ofText s = .ok value ↔ spelling value (Text.trim s)
  apart : ∀ (text : String) (value other : α),
    spelling value text → spelling other text → value = other
  text : ∀ (value : α) (before after : String),
    Text.isBlank before = true → Text.isBlank after = true →
      Spelled.ofText (before ++ Spelled.text value ++ after) = .ok value
  refuses : ∀ (s : String) (refused : UnknownSpelling),
    (Spelled.ofText s : Except UnknownSpelling α) = .error refused ↔
      (∀ value : α, ¬spelling value (Text.trim s)) ∧ refused = ⟨kind, s⟩

/-- The first value with some property is any value that has it, if no other value does. -/
theorem find?_eq_some_iff_of_unique {α : Type} {values : List α} {p : α → Bool}
    (hall : ∀ value, value ∈ values)
    (hunique : ∀ value other, p value = true → p other = true → value = other) (value : α) :
    values.find? p = some value ↔ p value = true := by
  constructor
  · exact List.find?_some
  · intro hvalue
    cases hfound : values.find? p with
    | none => exact absurd hvalue (List.find?_eq_none.mp hfound value (hall value))
    | some found => rw [hunique value found hvalue (List.find?_some hfound)]

/-- Characters in a row make a text of their number. -/
theorem Text.lt_length_ofList {n : Nat} {cs : List Char} (h : n < cs.length) :
    n < (String.ofList cs).length := by
  rwa [String.length_ofList]

namespace ReadBy

variable {α : Type} [Spelled α] {spelling : α → String → Prop}

/-- If the identifiers of the values are different, then no text is the identifier of two of
them. -/
theorem byIdentifier_apart {identifier : α → String}
    (hall : ∀ value : α, value ∈ (Enumerated.all : List α))
    (hnodup : ((Enumerated.all : List α).map identifier).Nodup) {text : String} {value other : α}
    (h : ByIdentifier identifier value text) (h' : ByIdentifier identifier other text) :
    value = other :=
  List.inj_on_of_nodup_map hnodup (hall value) (hall other) (h.symm.trans h')

/-- If the words for the values are different, whatever their case, then no text is the word for two
of them. -/
theorem byWord_apart {word : α → String}
    (hall : ∀ value : α, value ∈ (Enumerated.all : List α))
    (hnodup : ((Enumerated.all : List α).map fun value => Text.lower (word value)).Nodup)
    {text : String} {value other : α} (h : ByWord word value text) (h' : ByWord word other text) :
    value = other :=
  List.inj_on_of_nodup_map hnodup (hall value) (hall other) (h.symm.trans h')

/-- An enumeration is read by the spellings that it looks for, if it lists all its values, no text
spells two of them, and the text for each value spells it and has no white space around it. -/
theorem of_apart (hall : ∀ value : α, value ∈ (Enumerated.all : List α))
    (hspells : ∀ (value : α) (s : String),
      Spelled.spells value (Text.trim s) = true ↔ spelling value (Text.trim s))
    (hapart : ∀ (text : String) (value other : α),
      spelling value text → spelling other text → value = other)
    (htext : ∀ value : α, spelling value (Spelled.text value))
    (htrim : ∀ value : α, Text.trim (Spelled.text value) = Spelled.text value) :
    ReadBy α (Spelled.kind α) spelling := by
  have hfind (s : String) (value : α) :
      (Enumerated.all : List α).find? (fun value => Spelled.spells value (Text.trim s)) =
        some value ↔ spelling value (Text.trim s) := by
    rw [find?_eq_some_iff_of_unique hall, hspells]
    intro value other hvalue hother
    exact hapart _ value other ((hspells value s).mp hvalue) ((hspells other s).mp hother)
  have hreads (s : String) (value : α) :
      Spelled.ofText s = .ok value ↔ spelling value (Text.trim s) := by
    rw [← hfind, Spelled.ofText]
    split
    · rename_i found hfound
      rw [hfound, Except.ok.injEq, Option.some.injEq]
    · rename_i hnone
      rw [hnone]
      exact iff_of_false nofun nofun
  refine ⟨hreads, hapart, ?text, ?refuses⟩
  case text =>
    intro value before after hbefore hafter
    rw [hreads, Text.trim_surrounded hbefore hafter, htrim]
    exact htext value
  case refuses =>
    intro s refused
    have hnone : (∀ value : α, ¬spelling value (Text.trim s)) ↔
        (Enumerated.all : List α).find? (fun value => Spelled.spells value (Text.trim s)) =
          none := by
      rw [Option.eq_none_iff_forall_ne_some]
      exact forall_congr' fun value => not_congr (hfind s value).symm
    rw [hnone, Spelled.ofText]
    split
    · rename_i found hfound
      rw [hfound]
      exact iff_of_false nofun fun h => nomatch h.1
    · rename_i hnothing
      rw [hnothing, Except.error.injEq, eq_comm]
      exact (and_iff_right rfl).symm

/-- An enumeration that looks for the identifiers of its values is read by them, if they are
different and have no white space around them. -/
theorem of_identifiers {identifier : α → String}
    (hall : ∀ value : α, value ∈ (Enumerated.all : List α))
    (hspells : ∀ (value : α) (text : String),
      Spelled.spells value text = (identifier value == text))
    (htext : ∀ value : α, Spelled.text value = identifier value)
    (hnodup : ((Enumerated.all : List α).map identifier).Nodup)
    (htrim : ∀ value : α, Text.trim (Spelled.text value) = Spelled.text value) :
    ReadBy α (Spelled.kind α) (ByIdentifier identifier) := by
  refine of_apart hall (fun value s => ?_) (fun _ _ _ => byIdentifier_apart hall hnodup) htext htrim
  rw [hspells, beq_iff_eq, ByIdentifier, eq_comm]

/-- An enumeration that looks for the addresses of its values and for their short texts is read by
them, if all addresses are different, all short texts are, whatever their case, and every short text
is shorter than every address. -/
theorem of_addresses {address short : α → String} (limit : Nat)
    (hall : ∀ value : α, value ∈ (Enumerated.all : List α))
    (hspells : ∀ (value : α) (text : String), Spelled.spells value text =
      (address value == text || Text.equalsIgnoringCase (short value) text))
    (htext : ∀ value : α, Spelled.text value = short value)
    (haddress : ((Enumerated.all : List α).map address).Nodup)
    (hshort : ((Enumerated.all : List α).map fun value => Text.lower (short value)).Nodup)
    (hlimit : ∀ value : α, (short value).length ≤ limit ∧ limit < (address value).length)
    (htrim : ∀ value : α, Text.trim (Spelled.text value) = Spelled.text value) :
    ReadBy α (Spelled.kind α) (ByAddressOrWord address short) := by
  refine of_apart hall ?spells ?apart (fun value => .inr (congrArg Text.lower (htext value))) htrim
  case spells =>
    intro value s
    rw [hspells, Bool.or_eq_true, beq_iff_eq, Text.equalsIgnoringCase, beq_iff_eq,
      ByAddressOrWord, ByIdentifier, ByWord, eq_comm, @eq_comm _ (Text.lower (short value))]
  case apart =>
    intro text value other h h'
    have hlength {value : α} (h : ByWord short value text) : text.length ≤ limit := by
      rw [← Text.length_lower, h, Text.length_lower]
      exact (hlimit value).1
    obtain h | h := h <;> obtain h' | h' := h'
    · exact byIdentifier_apart hall haddress h h'
    · exact absurd (hlimit value).2 (Nat.not_lt.mpr (h ▸ hlength h'))
    · exact absurd (hlimit other).2 (Nat.not_lt.mpr (h' ▸ hlength h))
    · exact byWord_apart hall hshort h h'

end ReadBy

/-- Ways back are read by their words, in any case. -/
theorem ReplyPattern.readBy :
    ReadBy ReplyPattern "receipt reply pattern" (ByWord ReplyPattern.word) := by
  have hall : ∀ pattern : ReplyPattern, pattern ∈ (Enumerated.all : List ReplyPattern) := by
    intro pattern
    cases pattern <;> decide
  refine .of_apart hall ?spells (fun _ _ _ => ReadBy.byWord_apart hall (by decide)) (fun _ => rfl)
    fun pattern => by cases pattern <;> exact Text.trim_ofList_eq_self rfl rfl
  intro pattern s
  have hlower : Text.lower pattern.word = pattern.word := by cases pattern <;> decide
  rw [ByWord, hlower]
  exact beq_iff_eq

/-- Flags are read by their words, in any case, and a blank text is read as the undefined flag. -/
theorem Flag.readBy : ReadBy Flag "tri-state" Flag.SpelledBy := by
  have hall : ∀ flag : Flag, flag ∈ (Enumerated.all : List Flag)
    | .set true | .set false | .undefined => by decide
  have hlower : ∀ flag : Flag, Text.lower flag.word = flag.word
    | .set true | .set false | .undefined => by decide
  have htrim : ∀ flag : Flag, Text.trim flag.word = flag.word
    | .set true | .set false | .undefined => by decide
  have hblank : ∀ flag : Flag, Text.isBlank flag.word = false
    | .set true | .set false | .undefined => by decide
  refine .of_apart hall ?spells ?apart (fun _ => .inl rfl) htrim
  case spells =>
    intro flag s
    have hempty : Text.trim s = "" ↔ Text.isBlank (Text.trim s) = true := by
      rw [Text.isBlank_trim, Text.trim_eq_empty_iff]
    rw [SpelledBy, ByWord, hlower, ← hempty]
    cases flag with
    | set value => simp [Spelled.spells]
    | undefined => simp [Spelled.spells, word]
  case apart =>
    intro text flag other h h'
    have hword {flag : Flag} (h : ByWord Flag.word flag text) : Text.isBlank text ≠ true := by
      rw [← Text.isBlank_lower, h, Text.isBlank_lower, hblank]
      exact Bool.noConfusion
    obtain h | ⟨rfl, hempty⟩ := h <;> obtain h' | ⟨rfl, hempty'⟩ := h'
    · exact ReadBy.byWord_apart hall (by decide) h h'
    · exact absurd hempty' (hword h)
    · exact absurd hempty (hword h')
    · rfl

/-- Patterns are read by their addresses, and by their short texts in any case. -/
theorem Pattern.readBy :
    ReadBy Pattern "MEP" (ByAddressOrWord Pattern.uri Pattern.shortText) := by
  refine .of_addresses 9 (fun pattern => ?all) (fun _ _ => rfl) (fun _ => rfl) (by decide)
    (by decide) (fun pattern => ?limit) (fun pattern => ?trim)
  case all => cases pattern <;> decide
  case limit => cases pattern <;> exact ⟨by decide, Text.lt_length_ofList (by decide)⟩
  case trim => cases pattern <;> exact Text.trim_ofList_eq_self rfl rfl

/-- Bindings are read by their addresses, and by their short texts in any case. -/
theorem Binding.readBy :
    ReadBy Binding "MEP binding" (ByAddressOrWord Binding.uri Binding.shortText) := by
  refine .of_addresses 9 (fun binding => ?all) (fun _ _ => rfl) (fun _ => rfl) (by decide)
    (by decide) (fun binding => ?limit) (fun binding => ?trim)
  case all => cases binding <;> decide
  case limit => cases binding <;> exact ⟨by decide, Text.lt_length_ofList (by decide)⟩
  case trim => cases binding <;> exact Text.trim_ofList_eq_self rfl rfl

/-- SOAP versions are read by their identifiers. -/
theorem SoapVersion.readBy :
    ReadBy SoapVersion "SOAP version" (ByIdentifier SoapVersion.identifier) := by
  refine .of_identifiers (fun version => ?all) (fun _ _ => rfl) (fun _ => rfl) (by decide)
    (fun version => ?trim)
  case all => cases version <;> decide
  case trim => cases version <;> exact Text.trim_ofList_eq_self rfl rfl

/-- WS-Security versions are read by their identifiers. -/
theorem WssVersion.readBy :
    ReadBy WssVersion "WSS version" (ByIdentifier WssVersion.identifier) := by
  refine .of_identifiers (fun version => ?all) (fun _ _ => rfl) (fun _ => rfl) (by decide)
    (fun version => ?trim)
  case all => cases version <;> decide
  case trim => cases version <;> exact Text.trim_ofList_eq_self rfl rfl

/-- Signature algorithms are read by their identifiers. -/
theorem SignatureAlgorithm.readBy :
    ReadBy SignatureAlgorithm "signature algorithm"
      (ByIdentifier SignatureAlgorithm.identifier) := by
  refine .of_identifiers (fun algorithm => ?all) (fun _ _ => rfl) (fun _ => rfl) (by decide)
    (fun algorithm => ?trim)
  case all => cases algorithm <;> decide
  case trim => cases algorithm <;> exact Text.trim_ofList_eq_self rfl rfl

/-- Digest algorithms are read by their identifiers. -/
theorem DigestAlgorithm.readBy :
    ReadBy DigestAlgorithm "digest algorithm" (ByIdentifier DigestAlgorithm.identifier) := by
  refine .of_identifiers (fun algorithm => ?all) (fun _ _ => rfl) (fun _ => rfl) (by decide)
    (fun algorithm => ?trim)
  case all => cases algorithm <;> decide
  case trim => cases algorithm <;> exact Text.trim_ofList_eq_self rfl rfl

/-- Encryption algorithms are read by their identifiers. -/
theorem EncryptionAlgorithm.readBy :
    ReadBy EncryptionAlgorithm "encryption algorithm"
      (ByIdentifier EncryptionAlgorithm.identifier) := by
  refine .of_identifiers (fun algorithm => ?all) (fun _ _ => rfl) (fun _ => rfl) (by decide)
    (fun algorithm => ?trim)
  case all => cases algorithm <;> decide
  case trim => cases algorithm <;> exact Text.trim_ofList_eq_self rfl rfl

/-- Every enumeration is read by its spellings and by nothing else: flags and ways back by their
words in any case, patterns and bindings by their addresses or by their short texts in any case,
versions and algorithms by their identifiers. -/
theorem Spelled.ofText_reads_spellings :
    ReadBy Flag "tri-state" Flag.SpelledBy ∧
    ReadBy Pattern "MEP" (ByAddressOrWord Pattern.uri Pattern.shortText) ∧
    ReadBy Binding "MEP binding" (ByAddressOrWord Binding.uri Binding.shortText) ∧
    ReadBy SoapVersion "SOAP version" (ByIdentifier SoapVersion.identifier) ∧
    ReadBy WssVersion "WSS version" (ByIdentifier WssVersion.identifier) ∧
    ReadBy SignatureAlgorithm "signature algorithm" (ByIdentifier SignatureAlgorithm.identifier) ∧
    ReadBy DigestAlgorithm "digest algorithm" (ByIdentifier DigestAlgorithm.identifier) ∧
    ReadBy EncryptionAlgorithm "encryption algorithm"
      (ByIdentifier EncryptionAlgorithm.identifier) ∧
    ReadBy ReplyPattern "receipt reply pattern" (ByWord ReplyPattern.word) :=
  ⟨Flag.readBy, Pattern.readBy, Binding.readBy, SoapVersion.readBy, WssVersion.readBy,
    SignatureAlgorithm.readBy, DigestAlgorithm.readBy, EncryptionAlgorithm.readBy,
    ReplyPattern.readBy⟩

end Ebms
