import Ebms.Json.Alternative

/-!
# Codecs that restore what they write

What a codec writes for a value is read as that value, or as the value in a settled form when some
of it is not kept. What is read is settled already, so writing it and reading it again changes
nothing. A value is never written as `null`, which is left to values that are absent.
-/

namespace Ebms.Json

section Results

variable {ε α β : Type} {result : Except ε α}

/-- A step behind another one succeeds if both do. -/
theorem bind_eq_ok {next : α → Except ε β} {found : β} :
    result >>= next = .ok found ↔ ∃ value, result = .ok value ∧ next value = .ok found := by
  cases result with
  | error mistake => exact ⟨nofun, nofun⟩
  | ok value => exact ⟨fun h => ⟨value, rfl, h⟩, fun ⟨_, rfl, h⟩ => h⟩

/-- A converted result is a success if the result is. -/
theorem map_eq_ok {convert : α → β} {found : β} :
    result.map convert = .ok found ↔ ∃ value, result = .ok value ∧ convert value = found := by
  cases result with
  | error mistake => exact ⟨nofun, nofun⟩
  | ok value => simp [Except.map]

end Results

/-- A document is read as a value exactly if what it begins with is read as that value and nothing
follows. -/
theorem Codec.decodeDocument_eq_ok_iff {α : Type} {codec : Codec α} {document : Document}
    {value : α} :
    codec.decodeDocument document = .ok value ↔
      codec.decode document.root = .ok value ∧ document.trailing = false := by
  rw [decodeDocument, bind_eq_ok]
  constructor
  · rintro ⟨found, hfound, hwhole⟩
    split at hwhole
    · cases hwhole
    · rename_i htrailing
      cases hwhole
      exact ⟨hfound, by simpa using htrailing⟩
  · rintro ⟨hread, htrailing⟩
    exact ⟨value, hread, by rw [htrailing]; rfl⟩

/-- A codec restores values up to a settled form: what is written for a value is read as its settled
form, what is read is settled, and no value is written like an absent one. -/
structure Codec.Restores {α : Type} (codec : Codec α) (settle : α → α) : Prop where
  decode_encode : ∀ value, codec.decode (.ofJson (codec.encode value)) = .ok (settle value)
  settled : ∀ reading value, codec.decode reading = .ok value → settle value = value
  encode_ne_null : ∀ value, codec.encode value ≠ .null

namespace Codec

variable {α : Type} {codec : Codec α}

/-- A natural number within its limit is read from its numeral. -/
theorem decodeNat_num {limit : Nat} {n : UInt64} (h : n.toNat ≤ limit) :
    decodeNat limit (.ofJson (.num n)) = .ok n.toNat := by
  have hbounds : (0 : Int) ≤ n.toNat ∧ (n.toNat : Int) ≤ limit := by omega
  rw [Reading.ofJson, decodeNat, if_pos hbounds, Int.toNat_natCast]

/-- A reader sees `null` only where it is written. -/
theorem ofJson_ne_null {value : Json} (h : value ≠ .null) :
    Reading.ofJson value ≠ .scalar .null := by
  cases value with
  | null => exact absurd rfl h
  | bool | num | str | arr | obj => simp [Reading.ofJson]

/-- Whatever is not `null` is read as a value that is there. -/
theorem decode_option {reading : Reading} (h : reading ≠ .scalar .null) :
    codec.option.decode reading = (codec.decode reading).map some := by
  cases reading with
  | scalar value =>
    cases value with
    | null => exact absurd rfl h
    | bool | number | str | garbled => rfl
  | arr | obj | broken => rfl

end Codec

namespace Codec.Restores

variable {α : Type} {codec : Codec α} {settle : α → α}

/-- Texts are restored. -/
theorem text : Codec.text.Restores id where
  decode_encode _ := rfl
  settled _ _ _ := rfl
  encode_ne_null _ := Json.noConfusion

/-- Truth values are restored. -/
theorem bool : Codec.bool.Restores id where
  decode_encode _ := rfl
  settled _ _ _ := rfl
  encode_ne_null _ := Json.noConfusion

/-- Words of 64 bits are restored. -/
theorem word64 : Codec.word64.Restores id where
  decode_encode n := by
    have hlimit : n.toNat ≤ UInt64.size - 1 := Nat.le_sub_one_of_lt n.toNat_lt_size
    change (decodeNat _ (.ofJson (.num n))).map UInt64.ofNat = _
    rw [decodeNat_num hlimit, Except.map, UInt64.ofNat_toNat]
    rfl
  settled _ _ _ := rfl
  encode_ne_null _ := Json.noConfusion

/-- Words of 32 bits are restored. -/
theorem word32 : Codec.word32.Restores id where
  decode_encode n := by
    have hlimit : n.toUInt64.toNat ≤ UInt32.size - 1 := by
      rw [UInt32.toNat_toUInt64]
      exact Nat.le_sub_one_of_lt n.toNat_lt_size
    change (decodeNat _ (.ofJson (.num n.toUInt64))).map UInt32.ofNat = _
    rw [decodeNat_num hlimit, Except.map, UInt32.toNat_toUInt64, UInt32.ofNat_toNat]
    rfl
  settled _ _ _ := rfl
  encode_ne_null _ := Json.noConfusion

/-- Values of a closed enumeration are restored if every value is the one that its name finds. -/
theorem named [Enumerated α]
    (hnames : ∀ value : α, Enumerated.find? (Enumerated.name value) = some value) :
    (Codec.named : Codec α).Restores id where
  decode_encode value := by
    have hmem : Enumerated.name value ∈ Enumerated.names α :=
      List.mem_map_of_mem (List.mem_of_find?_eq_some (hnames value))
    have hname : (decodeName (Enumerated.name value) : Except Mistake α) = .ok value := by
      rw [decodeName, hnames]
    exact (if_pos hmem).trans hname
  settled _ _ _ := rfl
  encode_ne_null _ := Json.noConfusion

/-- What is read item by item is settled item by item. -/
theorem settled_items (h : codec.Restores settle) {items : List Reading} {values : List α}
    (hitems : decodeItems codec items = .ok values) : values.map settle = values := by
  induction items generalizing values with
  | nil =>
    cases hitems
    rfl
  | cons item items ih =>
    obtain ⟨value, hvalue, hitems⟩ := bind_eq_ok.mp hitems
    obtain ⟨rest, hrest, hitems⟩ := bind_eq_ok.mp hitems
    cases hitems
    rw [List.map_cons, h.settled item value hvalue, ih hrest]

/-- Written items are read as their settled forms. -/
theorem decodeItems_ofItems (h : codec.Restores settle) (values : List α) :
    decodeItems codec (Reading.ofItems (values.map codec.encode)) = .ok (values.map settle) := by
  induction values with
  | nil => rw [List.map_nil, Reading.ofItems, decodeItems, List.map_nil]
  | cons value values ih =>
    rw [List.map_cons, Reading.ofItems, decodeItems, h.decode_encode, ih]
    rfl

/-- Lists are restored item by item. -/
theorem list (h : codec.Restores settle) : codec.list.Restores (List.map settle) where
  decode_encode values := by
    change codec.list.decode (Reading.ofJson (.arr (values.map codec.encode))) = _
    rw [Reading.ofJson]
    change decodeItems codec (Reading.ofItems (values.map codec.encode)) >>= _ = _
    rw [h.decodeItems_ofItems]
    rfl
  settled reading values hvalues := by
    cases reading with
    | arr items closed =>
      obtain ⟨found, hfound, hclosed⟩ := bind_eq_ok.mp hvalues
      cases closed with
      | false => cases hclosed
      | true =>
        cases hclosed
        exact h.settled_items hfound
    | scalar | obj | broken => cases hvalues
  encode_ne_null _ := Json.noConfusion

/-- Lists of values that are restored unchanged are restored unchanged. -/
theorem items (h : codec.Restores id) : codec.list.Restores id := by
  simpa only [List.map_id_fun] using h.list

/-- A value that is written as something else and read through a conversion is restored if the
conversion leads back to it. -/
theorem map {β : Type} {settle' : β → β} (h : codec.Restores settle) {part : β → α} {whole : α → β}
    (hsettle : ∀ value, whole (settle (part value)) = settle' value)
    (hpart : ∀ value, part (whole value) = value) :
    ({ encode := fun value => codec.encode (part value)
       decode := fun reading => (codec.decode reading).map whole } : Codec β).Restores settle' where
  decode_encode value := by
    change (codec.decode (.ofJson (codec.encode (part value)))).map whole = _
    rw [h.decode_encode, Except.map, hsettle]
  settled reading value hvalue := by
    obtain ⟨found, hfound, hwhole⟩ := map_eq_ok.mp hvalue
    rw [← hsettle, ← hwhole, hpart, h.settled reading found hfound]
  encode_ne_null value := h.encode_ne_null (part value)

/-- An absent value is read as absent, and a value that is there as its settled form. -/
theorem decode_encode_option (h : codec.Restores settle) (value : Option α) :
    codec.option.decode (.ofJson (codec.option.encode value)) = .ok (value.map settle) := by
  cases value with
  | none => rfl
  | some value =>
    change codec.option.decode (.ofJson (codec.encode value)) = _
    rw [decode_option (ofJson_ne_null (h.encode_ne_null value)), h.decode_encode]
    rfl

/-- What is read where a value may be absent is settled if it is there. -/
theorem settled_option (h : codec.Restores settle) (reading : Reading) (value : Option α)
    (hvalue : codec.option.decode reading = .ok value) : value.map settle = value := by
  by_cases hnull : reading = .scalar .null
  · subst hnull
    cases hvalue
    rfl
  · rw [decode_option hnull] at hvalue
    obtain ⟨found, hfound, rfl⟩ := map_eq_ok.mp hvalue
    rw [Option.map_some, h.settled reading found hfound]

end Codec.Restores

end Ebms.Json
