import Ebms.Proofs.Json.Document
import Ebms.Proofs.Json.Record

/-!
# Documents with members left out

A document may leave out members of its objects, at any depth, as long as it keeps those that are
needed. What is left out is said by the path of each member from the root. The members that remain
may come in any order.

A codec tolerates omission if what remains of a written value is read as the value with the left out
parts reset. A record tolerates it when each of its members does: a member that is left out is read
as what a missing member holds, whatever the value held.
-/

namespace Ebms.Json

/-- Which members of a document are left out, each by its path. A member with one of the needed
names is never left out. -/
structure Omission (needed : List String) where
  gone : List String → Bool
  spares : ∀ path, ∀ name ∈ needed, gone (path ++ [name]) = false

namespace Omission

variable {needed : List String}

/-- What is left out within the member of some name. -/
def below (omission : Omission needed) (name : String) : Omission needed where
  gone path := omission.gone (name :: path)
  spares path := omission.spares (name :: path)

/-- Nothing is left out. -/
def nothing : Omission needed where
  gone _ := false
  spares _ _ _ := rfl

/-- The members at some paths are left out, none of which is needed. -/
def ofPaths (paths : List (List String))
    (h : ∀ path ∈ paths, ∀ name ∈ path.getLast?, name ∉ needed) : Omission needed where
  gone path := decide (path ∈ paths)
  spares _ name hname :=
    decide_eq_false fun hpath => h _ hpath name List.getLast?_concat hname

/-- What is read for a member: the value that it holds, or another one if it is left out. -/
def held {α : Type} (omission : Omission needed) (name : String) (absent value : α) : α :=
  if omission.gone [name] then absent else value

/-- A member that is there is read as the value that it holds. -/
theorem held_of_kept {α : Type} {omission : Omission needed} {name : String}
    (h : omission.gone [name] = false) (absent value : α) :
    omission.held name absent value = value :=
  if_neg (by rw [h]; exact Bool.false_ne_true)

/-- A needed member of the root is there. -/
theorem kept_of_needed (omission : Omission needed) {name : String} (h : name ∈ needed) :
    omission.gone [name] = false :=
  omission.spares [] name h

/-- Some blocks, each within the one before it, are all there. -/
def Keeps (omission : Omission needed) (blocks : List String) : Prop :=
  ∀ outer ≠ [], outer <+: blocks → omission.gone outer = false

/-- The members of the root are in no block that could be left out. -/
theorem keeps_nil (omission : Omission needed) : omission.Keeps [] :=
  fun _ hne hprefix => absurd (List.prefix_nil.mp hprefix) hne

/-- Blocks within another one are there exactly if that one is there and keeps them. -/
theorem keeps_cons {omission : Omission needed} {name : String} {blocks : List String} :
    omission.Keeps (name :: blocks) ↔
      omission.gone [name] = false ∧ (omission.below name).Keeps blocks := by
  constructor
  · intro h
    refine ⟨h [name] (List.cons_ne_nil _ _) (by simp), fun outer hne hprefix => ?_⟩
    exact h (name :: outer) (List.cons_ne_nil _ _) (List.cons_prefix_cons.mpr ⟨rfl, hprefix⟩)
  · rintro ⟨hkept, hbelow⟩ outer hne hprefix
    obtain ⟨head, outer, rfl⟩ := List.exists_cons_of_ne_nil hne
    obtain ⟨rfl, hrest⟩ := List.cons_prefix_cons.mp hprefix
    by_cases hinner : outer = []
    · rw [hinner]
      exact hkept
    · exact hbelow outer hinner hrest

end Omission

section Left

variable {needed : List String}

mutual

/-- What is left of a value: an object without the members that are left out, in any order, and any
other value as it is. -/
inductive LeftOf : Omission needed → Json → Json → Prop where
  | plain {omission : Omission needed} {value : Json} (h : ∀ members, value ≠ .obj members) :
      LeftOf omission value value
  | object {omission : Omission needed} {members kept ordered : List (String × Json)}
      (h : MembersLeftOf omission members kept) (hperm : ordered.Perm kept) :
      LeftOf omission (.obj members) (.obj ordered)

/-- What is left of the members of an object, in their order. -/
inductive MembersLeftOf :
    Omission needed → List (String × Json) → List (String × Json) → Prop where
  | nil {omission : Omission needed} : MembersLeftOf omission [] []
  | gone {omission : Omission needed} {name : String} {value : Json}
      {members kept : List (String × Json)} (hgone : omission.gone [name] = true)
      (hrest : MembersLeftOf omission members kept) :
      MembersLeftOf omission ((name, value) :: members) kept
  | kept {omission : Omission needed} {name : String} {value left : Json}
      {members kept : List (String × Json)} (hkept : omission.gone [name] = false)
      (hvalue : LeftOf (omission.below name) value left)
      (hrest : MembersLeftOf omission members kept) :
      MembersLeftOf omission ((name, value) :: members) ((name, left) :: kept)

end

mutual

/-- A value without the members that are left out, in the order of the value. -/
def left (omission : Omission needed) : Json → Json
  | .obj members => .obj (membersLeft omission members)
  | value => value

/-- The members of an object without those that are left out. -/
def membersLeft (omission : Omission needed) : List (String × Json) → List (String × Json)
  | [] => []
  | (name, value) :: members =>
      if omission.gone [name] then membersLeft omission members
      else (name, left (omission.below name) value) :: membersLeft omission members

end

mutual

/-- What is left in the order of the value is left of it. -/
theorem leftOf_left (omission : Omission needed) (value : Json) :
    LeftOf omission value (left omission value) := by
  cases value with
  | obj members =>
    rw [left]
    exact .object (membersLeftOf_membersLeft omission members) .rfl
  | null | bool | num | str | arr => exact .plain nofun

/-- The members that are left in the order of the object are left of it. -/
theorem membersLeftOf_membersLeft (omission : Omission needed) (members : List (String × Json)) :
    MembersLeftOf omission members (membersLeft omission members) := by
  match members with
  | [] =>
    rw [membersLeft]
    exact .nil
  | (name, value) :: members =>
    have hrest := membersLeftOf_membersLeft omission members
    rw [membersLeft]
    split
    · rename_i hgone
      exact .gone hgone hrest
    · rename_i hkept
      exact .kept (Bool.eq_false_iff.mpr hkept) (leftOf_left (omission.below name) value) hrest

end

mutual

/-- A value is left of itself where nothing is left out. -/
theorem leftOf_nothing (value : Json) : LeftOf (.nothing : Omission needed) value value := by
  cases value with
  | obj members => exact .object (membersLeftOf_nothing members) .rfl
  | null | bool | num | str | arr => exact .plain nofun

/-- Members are left of themselves where nothing is left out. -/
theorem membersLeftOf_nothing (members : List (String × Json)) :
    MembersLeftOf (.nothing : Omission needed) members members := by
  match members with
  | [] => exact .nil
  | (name, value) :: members =>
    exact .kept rfl (leftOf_nothing value) (membersLeftOf_nothing members)

end

variable {omission : Omission needed}

/-- A value that is no object is left as it is. -/
theorem LeftOf.eq_of_plain {value left : Json} (h : LeftOf omission value left)
    (hplain : ∀ members, value ≠ .obj members) : left = value := by
  cases h with
  | plain => rfl
  | object => exact absurd rfl (hplain _)

/-- What is left of a value is `null` only if the value is. -/
theorem LeftOf.ne_null {value left : Json} (h : LeftOf omission value left)
    (hnull : value ≠ .null) : left ≠ .null := by
  cases h with
  | plain => exact hnull
  | object => exact Json.noConfusion

/-- The names that are left come in the order of the object. -/
theorem MembersLeftOf.names_sublist {members kept : List (String × Json)}
    (h : MembersLeftOf omission members kept) :
    (kept.map Prod.fst).Sublist (members.map Prod.fst) := by
  induction members generalizing kept with
  | nil =>
    cases h
    exact .slnil
  | cons member members ih =>
    cases h with
    | gone hgone hrest => exact (ih hrest).cons _
    | kept hkept hvalue hrest => exact (ih hrest).cons_cons _

/-- An object with a single member stays as it is if the member is needed and holds no object. -/
theorem LeftOf.eq_of_single {name : String} {value left : Json}
    (h : LeftOf omission (.obj [(name, value)]) left) (hneeded : name ∈ needed)
    (hplain : ∀ members, value ≠ .obj members) : left = .obj [(name, value)] := by
  cases h with
  | plain => rfl
  | object hmembers hperm =>
    cases hmembers with
    | gone hgone =>
      rw [omission.kept_of_needed hneeded] at hgone
      cases hgone
    | kept hkept hvalue hrest =>
      cases hrest
      rw [List.perm_singleton.mp hperm, hvalue.eq_of_plain hplain]

end Left

/-- A codec tolerates omission up to a reset: what is left of a written value is read as the value
with what is left out reset, and no value is written like an absent one. -/
structure Codec.Tolerates {needed : List String} {α : Type} (codec : Codec α)
    (reset : Omission needed → α → α) : Prop where
  decode_left : ∀ (omission : Omission needed) (value : α) (left : Json),
    LeftOf omission (codec.encode value) left →
      codec.decode (.ofJson left) = .ok (reset omission value)
  encode_ne_null : ∀ value, codec.encode value ≠ .null

namespace Codec.Tolerates

variable {needed : List String} {α : Type} {codec : Codec α} {reset : Omission needed → α → α}

/-- A codec that restores values tolerates omission if nothing of what it writes is ever left
out. -/
theorem ofRestores {settle : α → α} (h : codec.Restores settle)
    (hwhole : ∀ (omission : Omission needed) (value : α) (left : Json),
      LeftOf omission (codec.encode value) left → left = codec.encode value) :
    codec.Tolerates fun (_ : Omission needed) => settle where
  decode_left omission value left hleft := by
    rw [hwhole omission value left hleft, h.decode_encode]
  encode_ne_null := h.encode_ne_null

/-- A codec that restores values and never writes an object tolerates omission. -/
theorem plain {settle : α → α} (h : codec.Restores settle)
    (hplain : ∀ value members, codec.encode value ≠ .obj members) :
    codec.Tolerates fun (_ : Omission needed) => settle :=
  .ofRestores h fun _ value _ hleft => hleft.eq_of_plain (hplain value)

/-- Texts tolerate omission. -/
theorem text : Codec.text.Tolerates fun (_ : Omission needed) => id :=
  .plain .text nofun

/-- Truth values tolerate omission. -/
theorem bool : Codec.bool.Tolerates fun (_ : Omission needed) => id :=
  .plain .bool nofun

/-- Words of 64 bits tolerate omission. -/
theorem word64 : Codec.word64.Tolerates fun (_ : Omission needed) => id :=
  .plain .word64 nofun

/-- Words of 32 bits tolerate omission. -/
theorem word32 : Codec.word32.Tolerates fun (_ : Omission needed) => id :=
  .plain .word32 nofun

/-- Values of a closed enumeration tolerate omission if every value is the one that its name
finds. -/
theorem named [Enumerated α]
    (hnames : ∀ value : α, Enumerated.find? (Enumerated.name value) = some value) :
    (Codec.named : Codec α).Tolerates fun (_ : Omission needed) => id :=
  .plain (.named hnames) nofun

/-- Lists of values that are restored tolerate omission, which leaves arrays as they are. -/
theorem items (h : codec.Restores id) : codec.list.Tolerates fun (_ : Omission needed) => id :=
  .plain h.items nofun

/-- A value that may be absent is absent or read with what is left out reset. -/
theorem decode_left_option (h : codec.Tolerates reset) (omission : Omission needed)
    (value : Option α) (left : Json) (hleft : LeftOf omission (codec.option.encode value) left) :
    codec.option.decode (.ofJson left) = .ok (value.map (reset omission)) := by
  cases value with
  | none =>
    rw [hleft.eq_of_plain nofun]
    rfl
  | some value =>
    have hthere : left ≠ .null := hleft.ne_null (h.encode_ne_null value)
    rw [decode_option (ofJson_ne_null hthere), h.decode_left omission value left hleft]
    rfl

end Codec.Tolerates

/-- A member tolerates omission if its codec does, if it is not written only when it holds what a
missing member holds, and if it is needed where a missing member holds nothing. -/
structure Field.Tolerates {needed : List String} {α : Type} (field : Field α)
    (reset : Omission needed → α → α) : Prop where
  decode_left : ∀ (omission : Omission needed) (value : α) (left : Json),
    LeftOf omission (field.codec.encode value) left →
      field.codec.decode (.ofJson left) = .ok (reset omission value)
  omitted : ∀ omission value, field.omits value = true →
    field.absent = some (reset omission value)
  needed : field.absent = none → field.name ∈ needed

namespace Field.Tolerates

variable {needed : List String} {α : Type} {codec : Codec α} {reset : Omission needed → α → α}
  {name : String}

/-- A member that is always there tolerates omission if it is needed. -/
theorem required (h : codec.Tolerates reset) (hneeded : name ∈ needed) :
    (Field.required name codec).Tolerates reset where
  decode_left := h.decode_left
  omitted _ _ := nofun
  needed _ := hneeded

/-- A member that has a value of its own when it is missing tolerates omission. -/
theorem defaulted (h : codec.Tolerates reset) {value : α} :
    (Field.defaulted name codec value).Tolerates reset where
  decode_left := h.decode_left
  omitted _ _ := nofun
  needed := nofun

/-- A member that is left out when it holds nothing tolerates omission where it holds something. -/
theorem optionalMap (h : codec.Tolerates reset) :
    (Field.optional name codec).Tolerates fun omission => Option.map (reset omission) where
  decode_left := h.decode_left_option
  omitted omission value hvalue := by
    rw [Option.isNone_iff_eq_none.mp hvalue]
    rfl
  needed := nofun

/-- A member that is left out when it holds nothing tolerates omission. -/
theorem optional (h : codec.Tolerates fun (_ : Omission needed) => id) :
    (Field.optional name codec).Tolerates fun (_ : Omission needed) => id := by
  simpa only [Option.map_id] using optionalMap h

/-- A member that is `null` when it holds nothing tolerates omission where it holds something. -/
theorem nullableMap (h : codec.Tolerates reset) :
    (Field.nullable name codec).Tolerates fun omission => Option.map (reset omission) where
  decode_left := h.decode_left_option
  omitted _ _ := nofun
  needed := nofun

/-- A member that is `null` when it holds nothing tolerates omission. -/
theorem nullable (h : codec.Tolerates fun (_ : Omission needed) => id) :
    (Field.nullable name codec).Tolerates fun (_ : Omission needed) => id := by
  simpa only [Option.map_id] using nullableMap h

/-- A list that is left out when it is empty tolerates omission. -/
theorem listed (h : codec.list.Tolerates fun (_ : Omission needed) => id) :
    (Field.listed name codec).Tolerates fun (_ : Omission needed) => id where
  decode_left := h.decode_left
  omitted omission value hvalue := by
    rw [List.isEmpty_iff.mp hvalue]
    rfl
  needed := nofun

end Field.Tolerates

/-- What is read for a member: its value with what is left out within it reset, or what a missing
member holds if the member itself is left out. -/
def Field.reset {needed : List String} {α : Type} (field : Field α)
    (reset : Omission needed → α → α) (omission : Omission needed) (value : α) : α :=
  match field.absent with
  | none => reset (omission.below field.name) value
  | some absent => omission.held field.name absent (reset (omission.below field.name) value)

/-- A member that is there is read with what is left out within it reset. -/
theorem Field.reset_of_kept {needed : List String} {α : Type} {field : Field α}
    {omission : Omission needed} (hkept : omission.gone [field.name] = false)
    (reset : Omission needed → α → α) (value : α) :
    field.reset reset omission value = reset (omission.below field.name) value := by
  unfold Field.reset
  split
  · rfl
  · exact Omission.held_of_kept hkept _ _

namespace Field.Tolerates

variable {needed : List String} {α : Type} {field : Field α} {reset : Omission needed → α → α}
  {omission : Omission needed}

/-- A member that is left out is read as what a missing member holds. -/
theorem absent_of_gone (h : field.Tolerates reset) (hgone : omission.gone [field.name] = true)
    (value : α) : field.absent = some (field.reset reset omission value) := by
  cases habsent : field.absent with
  | none =>
    rw [omission.kept_of_needed (h.needed habsent)] at hgone
    cases hgone
  | some absent => simp [Field.reset, habsent, Omission.held, hgone]

/-- A member that is not written is read as what a missing member holds. -/
theorem absent_of_omits (h : field.Tolerates reset) {value : α}
    (homits : field.omits value = true) :
    field.absent = some (field.reset reset omission value) := by
  have habsent := h.omitted (omission.below field.name) value homits
  simp [Field.reset, habsent, Omission.held]

end Field.Tolerates

namespace Record

variable {needed : List String}

/-- A record tolerates omission when its members do, one by one. -/
inductive Tolerates : {α : Type} → Record α → (Omission needed → α → α) → Prop where
  | done : Tolerates .done fun _ => id
  | member {α β : Type} {field : Field α} {rest : Record β} {reset : Omission needed → α → α}
      {resetRest : Omission needed → β → β} (hfield : field.Tolerates reset)
      (hrest : Tolerates rest resetRest) :
      Tolerates (.member field rest) fun omission =>
        Prod.map (field.reset reset omission) (resetRest omission)

namespace Tolerates

variable {α : Type} {record : Record α} {reset : Omission needed → α → α}

/-- From an object that has what is left of what is written, the members are read as those with what
is left out reset. -/
theorem readFrom (h : record.Tolerates reset) (hnodup : record.names.Nodup)
    (omission : Omission needed) (value : α) {kept members : List (String × Json)}
    (hkept : MembersLeftOf omission (record.encode value) kept)
    (hmembers : Selects record.names kept members) :
    record.ReadFrom members (reset omission value) := by
  induction h generalizing kept with
  | done => exact .done
  | @member _ _ field rest reset resetRest hfield hrest ih =>
    obtain ⟨value, values⟩ := value
    obtain ⟨hname, hnodup⟩ := List.nodup_cons.mp hnodup
    -- The other members have other names, so none of them stands for this one.
    have hmissing {kept : List (String × Json)}
        (hselects : Selects (field.name :: rest.names) kept members)
        (hleft : MembersLeftOf omission (rest.encode values) kept) :
        field.name ∉ members.map Prod.fst := by
      intro hmem
      have hwritten := hselects.kept_of_mem field.name List.mem_cons_self hmem
      exact hname ((hleft.names_sublist.trans (names_encode rest values)).subset hwritten)
    rw [encode] at hkept
    split at hkept
    · rename_i homits
      exact .member (.missing (hmissing hmembers hkept) (hfield.absent_of_omits homits))
        (ih hnodup values hkept hmembers.rest)
    · cases hkept with
      | gone hgone hleft =>
        exact .member (.missing (hmissing hmembers hleft) (hfield.absent_of_gone hgone value))
          (ih hnodup values hleft hmembers.rest)
      | kept hkept hvalue hleft =>
        have hread := hfield.decode_left (omission.below field.name) value _ hvalue
        rw [← Field.reset_of_kept hkept reset value] at hread
        exact .member (.present _ (hmembers.subset List.mem_cons_self) hread)
          (ih hnodup values hleft (hmembers.tail hname))

/-- A structure whose members tolerate omission tolerates it with them. -/
theorem codec {β : Type} {normal : Omission needed → β → β} {parts : β → α} {whole : α → β}
    (h : record.Tolerates reset) (hnodup : record.names.Nodup)
    (hnormal : ∀ omission value, whole (reset omission (parts value)) = normal omission value) :
    (record.codec parts whole).Tolerates normal where
  decode_left omission value left hleft := by
    cases hleft with
    | plain hplain => exact absurd rfl (hplain _)
    | object hkept hperm =>
      have hnames := hkept.names_sublist.trans (names_encode record (parts value))
      have hread := (h.readFrom hnodup omission (parts value) hkept (.of_perm hperm)).decode
        (((hperm.map Prod.fst).nodup_iff).mpr (hnames.nodup hnodup))
        (List.Subset.trans (hperm.map Prod.fst).subset hnames.subset)
      change (record.decode (.ofJson (.obj _))).map whole = _
      rw [Reading.ofJson, hread, Except.map, hnormal]
  encode_ne_null _ := Json.noConfusion

end Tolerates

end Record

/-- Both texts of what is left of a written value, on one line and with one item a line, are read as
the value with what is left out reset. -/
theorem Codec.Tolerates.ofText_left {needed : List String} {α : Type} {codec : Codec α}
    {reset : Omission needed → α → α} (h : codec.Tolerates reset) {omission : Omission needed}
    {value : α} {document : Json} (hleft : LeftOf omission (codec.encode value) document) :
    codec.ofText document.compact = .ok (reset omission value) ∧
      codec.ofText document.indented = .ok (reset omission value) := by
  have hread := h.decode_left omission value document hleft
  exact ⟨(codec.ofText_compact document).trans hread, (codec.ofText_indented document).trans hread⟩

end Ebms.Json
