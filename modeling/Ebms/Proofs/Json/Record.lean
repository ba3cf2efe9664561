import Ebms.Json.Record
import Ebms.Proofs.Json.Codec

/-!
# Records restore what they write

A record restores its members one by one. Its names are different, so the members that are written
come once each and are found again under their names; a member that is left out holds what a missing
member holds. What is read in either form, an object or an array, is settled member by member.
-/

namespace Ebms.Json

/-- A value that a member can hold after reading: one that is read, or the one of a missing
member. -/
def Field.Yields {α : Type} (field : Field α) (value : α) : Prop :=
  (∃ reading, field.codec.decode reading = .ok value) ∨ field.absent = some value

/-- A member holds what is read from something, or what a missing member holds if nothing stands for
it. -/
def Field.Holds {α : Type} (field : Field α) (value : α) : Option Reading → Prop
  | some reading => field.codec.decode reading = .ok value
  | none => field.absent = some value

/-- What a member holds, whatever stands for it, it can hold after reading. -/
theorem Field.Holds.yields {α : Type} {field : Field α} {value : α} {found : Option Reading}
    (h : field.Holds value found) : field.Yields value := by
  cases found with
  | none => exact .inr h
  | some reading => exact .inl ⟨reading, h⟩

/-- A member is restored if its codec restores it, if it is left out only when it holds what a
missing member holds, and if everything that it can hold after reading is settled. -/
structure Field.Restores {α : Type} (field : Field α) (settle : α → α) : Prop where
  decode_encode : ∀ value,
    field.codec.decode (.ofJson (field.codec.encode value)) = .ok (settle value)
  omitted : ∀ value, field.omits value = true → field.absent = some (settle value)
  settled : ∀ value, field.Yields value → settle value = value

/-- A member is read from those of an object: it is there and what is written is read as its value,
or it is not there and a missing member holds that value. -/
inductive Field.ReadFrom {α : Type} (field : Field α) (members : List (String × Json)) (value : α) :
    Prop where
  | present (written : Json) (hmem : (field.name, written) ∈ members)
      (hread : field.codec.decode (.ofJson written) = .ok value)
  | missing (hname : field.name ∉ members.map Prod.fst) (habsent : field.absent = some value)

namespace Field.Restores

variable {α : Type} {codec : Codec α} {settle : α → α} {name : String}

/-- A member that is always there is restored by its codec. -/
theorem required (h : codec.Restores settle) : (Field.required name codec).Restores settle where
  decode_encode := h.decode_encode
  omitted _ := nofun
  settled value := by
    rintro (⟨reading, hread⟩ | ⟨⟨⟩⟩)
    exact h.settled reading value hread

/-- A member that has a value of its own when it is missing is restored if that value is settled. -/
theorem defaulted (h : codec.Restores settle) {value : α} (hvalue : settle value = value) :
    (Field.defaulted name codec value).Restores settle where
  decode_encode := h.decode_encode
  omitted _ := nofun
  settled other := by
    rintro (⟨reading, hread⟩ | ⟨⟨⟩⟩)
    · exact h.settled reading other hread
    · exact hvalue

/-- A member that is left out when it holds nothing is restored where it holds something. -/
theorem optionalMap (h : codec.Restores settle) :
    (Field.optional name codec).Restores (Option.map settle) where
  decode_encode := h.decode_encode_option
  omitted value hvalue := by
    rw [Option.isNone_iff_eq_none.mp hvalue]
    rfl
  settled value := by
    rintro (⟨reading, hread⟩ | ⟨⟨⟩⟩)
    · exact h.settled_option reading value hread
    · rfl

/-- A member that is left out when it holds nothing is restored. -/
theorem optional (h : codec.Restores id) : (Field.optional name codec).Restores id := by
  simpa only [Option.map_id] using optionalMap h

/-- A member that is `null` when it holds nothing is restored. -/
theorem nullable (h : codec.Restores id) : (Field.nullable name codec).Restores id where
  decode_encode value := by
    rw [← Option.map_id]
    exact h.decode_encode_option value
  omitted _ := nofun
  settled _ _ := rfl

/-- A list that is left out when it is empty is restored. -/
theorem listed (h : codec.Restores id) : (Field.listed name codec).Restores id where
  decode_encode := h.items.decode_encode
  omitted value hvalue := by
    rw [List.isEmpty_iff.mp hvalue]
    rfl
  settled _ _ := rfl

end Field.Restores

namespace Record

/-- The names of the members, in the declared order. -/
def names : {α : Type} → Record α → List String
  | _, .done => []
  | _, .member field rest => field.name :: rest.names

/-- A record restores its members one by one. -/
inductive Restores : {α : Type} → Record α → (α → α) → Prop where
  | done : Restores .done id
  | member {α β : Type} {field : Field α} {rest : Record β} {settle : α → α} {settleRest : β → β}
      (hfield : field.Restores settle) (hrest : Restores rest settleRest) :
      Restores (.member field rest) (Prod.map settle settleRest)

variable {α : Type} {record : Record α} {settle : α → α}

/-- The members are written in the declared order, perhaps not all of them. -/
theorem names_encode (record : Record α) (value : α) :
    ((record.encode value).map Prod.fst).Sublist record.names := by
  induction record with
  | done => exact .slnil
  | member field rest ih =>
    obtain ⟨value, values⟩ := value
    rw [encode, names]
    split
    · exact (ih values).cons field.name
    · rw [List.map_cons]
      exact (ih values).cons_cons field.name

/-- A name that no written member has is not found among them. -/
theorem lookup_ofMembers {name : String} {members : List (String × Json)}
    (hname : name ∉ members.map Prod.fst) :
    (Reading.ofMembers members).lookup (.text name) = none := by
  induction members with
  | nil => rw [Reading.ofMembers, List.lookup_nil]
  | cons member members ih =>
    obtain ⟨hne, hmembers⟩ := List.ne_and_not_mem_of_not_mem_cons hname
    have hkey : (Key.text name == Key.text member.1) = false := by simpa using hne
    rw [Reading.ofMembers, List.lookup_cons, hkey, ih hmembers]

/-- A written member is found under its name among members with different names. -/
theorem lookup_ofMembers_of_mem {name : String} {value : Json} {members : List (String × Json)}
    (hnodup : (members.map Prod.fst).Nodup) (hmem : (name, value) ∈ members) :
    (Reading.ofMembers members).lookup (.text name) = some (.ofJson value) := by
  induction members with
  | nil => cases hmem
  | cons member members ih =>
    obtain ⟨hfirst, hnodup⟩ := List.nodup_cons.mp hnodup
    obtain rfl | hmem := List.mem_cons.mp hmem
    · rw [Reading.ofMembers, List.lookup_cons_self]
    · have hne : name ≠ member.1 := fun heq => hfirst (heq ▸ List.mem_map_of_mem hmem)
      have hkey : (Key.text name == Key.text member.1) = false := by simpa using hne
      rw [Reading.ofMembers, List.lookup_cons, hkey, ih hnodup hmem]

/-- An object whose members are known, right in themselves and different is passed. -/
theorem scan_ofMembers {members : List (String × Json)} {seen : List String}
    (hknown : ∀ member ∈ members,
      record.inspect? member.1 (.ofJson member.2) = some (.ok ()))
    (hnodup : (members.map Prod.fst).Nodup) (hseen : ∀ member ∈ members, member.1 ∉ seen) :
    record.scan true seen (Reading.ofMembers members) = .ok () := by
  induction members generalizing seen with
  | nil => rw [Reading.ofMembers, scan, if_pos rfl]
  | cons member members ih =>
    obtain ⟨hmember, hknown⟩ := List.forall_mem_cons.mp hknown
    obtain ⟨hfresh, hseen⟩ := List.forall_mem_cons.mp hseen
    obtain ⟨hfirst, hnodup⟩ := List.nodup_cons.mp hnodup
    rw [Reading.ofMembers, scan, hmember]
    change (if member.1 ∈ seen then _ else _) = _
    rw [if_neg hfresh]
    refine ih hknown hnodup fun other hother => ?_
    rw [List.mem_cons, not_or]
    refine ⟨?_, hseen other hother⟩
    intro heq
    exact hfirst (heq ▸ List.mem_map_of_mem hother)

/-- The members of a record are read from those of an object, each on its own. -/
inductive ReadFrom (members : List (String × Json)) : {α : Type} → Record α → α → Prop where
  | done : ReadFrom members .done ()
  | member {α β : Type} {field : Field α} {rest : Record β} {value : α} {values : β}
      (hfield : field.ReadFrom members value) (hrest : ReadFrom members rest values) :
      ReadFrom members (.member field rest) (value, values)

namespace ReadFrom

variable {members : List (String × Json)} {value : α}

/-- What is collected is what the members are read as. -/
theorem collect (h : record.ReadFrom members value) (hnodup : (members.map Prod.fst).Nodup) :
    record.collect (Reading.ofMembers members) = .ok value := by
  induction h with
  | done => rfl
  | member hfield hrest ih =>
    cases hfield with
    | present written hmem hread =>
      rw [Record.collect, lookup_ofMembers_of_mem hnodup hmem, ih]
      exact bind_eq_ok.mpr ⟨_, hread, rfl⟩
    | missing hname habsent =>
      rw [Record.collect, lookup_ofMembers hname, habsent, ih]
      rfl

/-- A member that the record knows is right in itself. -/
theorem inspect? (h : record.ReadFrom members value) (hnodup : (members.map Prod.fst).Nodup)
    {member : String × Json} (hmem : member ∈ members) (hknown : member.1 ∈ record.names) :
    record.inspect? member.1 (.ofJson member.2) = some (.ok ()) := by
  induction h with
  | done => cases hknown
  | @member _ _ field rest value values hfield hrest ih =>
    by_cases hname : field.name = member.1
    · rw [Record.inspect?, if_pos hname]
      cases hfield with
      | present written hwritten hread =>
        -- the name comes once, so this is the member that is read
        have hsame := lookup_ofMembers_of_mem hnodup hmem
        rw [← hname, lookup_ofMembers_of_mem hnodup hwritten] at hsame
        rw [← Option.some.inj hsame, hread]
        rfl
      | missing hmissing => exact absurd (hname ▸ List.mem_map_of_mem hmem) hmissing
    · rw [Record.inspect?, if_neg hname]
      exact ih ((List.mem_cons.mp hknown).resolve_left (Ne.symm hname))

/-- An object with different names, all of them known, is read as what its members are read as. -/
theorem decode (h : record.ReadFrom members value) (hnodup : (members.map Prod.fst).Nodup)
    (hknown : members.map Prod.fst ⊆ record.names) :
    record.decode (.obj (Reading.ofMembers members) true) = .ok value := by
  have hright : ∀ member ∈ members,
      record.inspect? member.1 (.ofJson member.2) = some (.ok ()) := fun member hmem =>
    h.inspect? hnodup hmem (hknown (List.mem_map_of_mem hmem))
  rw [Record.decode, decodeMembers, scan_ofMembers hright hnodup (by simp)]
  exact h.collect hnodup

end ReadFrom

/-- Of the members that have one of some names, an object has those that are kept and no others. -/
structure Selects (names : List String) (kept members : List (String × Json)) : Prop where
  subset : kept ⊆ members
  kept_of_mem : ∀ name ∈ names, name ∈ members.map Prod.fst → name ∈ kept.map Prod.fst

namespace Selects

variable {name : String} {names : List String} {kept members : List (String × Json)}

/-- All members are kept by an object that has the same members in any order. -/
theorem of_perm (h : members.Perm kept) : Selects names kept members where
  subset := h.symm.subset
  kept_of_mem _ _ hmem := (h.map Prod.fst).subset hmem

/-- The other names have the same members. -/
theorem rest (h : Selects (name :: names) kept members) : Selects names kept members where
  subset := h.subset
  kept_of_mem other hother := h.kept_of_mem other (List.mem_cons_of_mem name hother)

/-- The other names have the other members. -/
theorem tail {written : Json} (h : Selects (name :: names) ((name, written) :: kept) members)
    (hname : name ∉ names) : Selects names kept members where
  subset := (List.cons_subset.mp h.subset).2
  kept_of_mem other hother hmem := by
    obtain heq | hkept := List.mem_cons.mp (h.rest.kept_of_mem other hother hmem)
    · subst heq
      exact absurd hother hname
    · exact hkept

end Selects

section Member

variable {β : Type} {field : Field α} {rest : Record β} {value : α × β}

/-- What is collected is held by the first member and collected for the others. -/
theorem collect_eq_ok {members : List (Key × Reading)}
    (h : (Record.member field rest).collect members = .ok value) :
    field.Holds value.1 (members.lookup (.text field.name)) ∧
      rest.collect members = .ok value.2 := by
  rw [collect] at h
  split at h
  · rename_i reading hfound
    obtain ⟨first, hfirst, h⟩ := bind_eq_ok.mp h
    obtain ⟨others, hothers, h⟩ := bind_eq_ok.mp h
    cases h
    rw [hfound]
    exact ⟨hfirst, hothers⟩
  · rename_i hmissing
    rw [hmissing]
    split at h
    · rename_i habsent
      obtain ⟨first, ⟨⟩, h⟩ := bind_eq_ok.mp h
      obtain ⟨others, hothers, h⟩ := bind_eq_ok.mp h
      cases h
      exact ⟨habsent, hothers⟩
    · cases h

/-- What is read from items is held by the first member and read for the others. -/
theorem decodeItems_eq_ok {surplus : Mistake} {items : List Reading} {closed : Bool}
    (h : decodeItems surplus (.member field rest) items closed = .ok value) :
    field.Holds value.1 items[0]? ∧
      decodeItems surplus rest items.tail closed = .ok value.2 := by
  cases items with
  | cons item items =>
    obtain ⟨first, hfirst, h⟩ := bind_eq_ok.mp h
    obtain ⟨others, hothers, h⟩ := bind_eq_ok.mp h
    cases h
    exact ⟨hfirst, hothers⟩
  | nil =>
    cases closed with
    | false => cases h
    | true =>
      unfold decodeItems at h
      cases habsent : field.absent with
      | none =>
        simp only [habsent] at h
        cases h
      | some held =>
        simp only [habsent] at h
        obtain ⟨first, ⟨⟩, h⟩ := bind_eq_ok.mp h
        obtain ⟨others, hothers, h⟩ := bind_eq_ok.mp h
        cases h
        exact ⟨habsent, hothers⟩

end Member

namespace Restores

/-- From an object that has what is written, the members are read as the settled ones. -/
theorem readFrom (h : record.Restores settle) (hnodup : record.names.Nodup) (value : α)
    {members : List (String × Json)}
    (hmembers : Selects record.names (record.encode value) members) :
    record.ReadFrom members (settle value) := by
  induction h with
  | done => exact .done
  | @member _ _ field rest settle settleRest hfield hrest ih =>
    obtain ⟨value, values⟩ := value
    obtain ⟨hname, hnodup⟩ := List.nodup_cons.mp hnodup
    rw [encode] at hmembers
    split at hmembers
    · rename_i homits
      refine .member (.missing (fun hmem => hname ?_) (hfield.omitted value homits))
        (ih hnodup values hmembers.rest)
      exact (names_encode rest values).subset
        (hmembers.kept_of_mem field.name List.mem_cons_self hmem)
    · exact .member (.present _ (hmembers.subset List.mem_cons_self) (hfield.decode_encode value))
        (ih hnodup values (hmembers.tail hname))

/-- What is collected from an object is settled. -/
theorem settled_collect (h : record.Restores settle) {members : List (Key × Reading)} {value : α}
    (hvalue : record.collect members = .ok value) : settle value = value := by
  induction h with
  | done => rfl
  | member hfield hrest ih =>
    obtain ⟨hfirst, hothers⟩ := collect_eq_ok hvalue
    exact Prod.ext (hfield.settled _ hfirst.yields) (ih hothers)

/-- What is read from the items of an array is settled. -/
theorem settled_items (h : record.Restores settle) {surplus : Mistake} {items : List Reading}
    {closed : Bool} {value : α} (hvalue : decodeItems surplus record items closed = .ok value) :
    settle value = value := by
  induction h generalizing items with
  | done => rfl
  | member hfield hrest ih =>
    obtain ⟨hfirst, hothers⟩ := decodeItems_eq_ok hvalue
    exact Prod.ext (hfield.settled _ hfirst.yields) (ih hothers)

/-- A record with different names is read as the settled form of what is written. -/
theorem decode_encode (h : record.Restores settle) (hnodup : record.names.Nodup) (value : α) :
    record.decode (.obj (Reading.ofMembers (record.encode value)) true) = .ok (settle value) := by
  have hwritten := names_encode record value
  exact (h.readFrom hnodup value (.of_perm .rfl)).decode (hwritten.nodup hnodup) hwritten.subset

/-- What is read as a record is settled. -/
theorem settled (h : record.Restores settle) {reading : Reading} {value : α}
    (hvalue : record.decode reading = .ok value) : settle value = value := by
  cases reading with
  | obj members closed =>
    obtain ⟨_, _, hcollect⟩ := bind_eq_ok.mp hvalue
    exact h.settled_collect hcollect
  | arr items closed => exact h.settled_items hvalue
  | scalar | broken => cases hvalue

/-- A structure whose members are restored is restored with them. -/
theorem codec {β : Type} {normal : β → β} {parts : β → α} {whole : α → β}
    (h : record.Restores settle) (hnodup : record.names.Nodup)
    (hparts : ∀ values, parts (whole values) = values)
    (hnormal : ∀ value, whole (settle (parts value)) = normal value) :
    (record.codec parts whole).Restores normal where
  decode_encode value := by
    change (record.decode (.ofJson (.obj (record.encode (parts value))))).map whole = _
    rw [Reading.ofJson, h.decode_encode hnodup, Except.map, hnormal]
  settled reading value hvalue := by
    obtain ⟨values, hvalues, rfl⟩ := map_eq_ok.mp hvalue
    rw [← hnormal, hparts, h.settled hvalues]
  encode_ne_null _ := Json.noConfusion

end Restores

end Record

end Ebms.Json
