import Ebms.Proofs.Json.Record

/-!
# Texts that are taken as they stand

What a record holds in some member is read from what stands for that member, which is found by its
name in an object and by its position in an array. So a text that a value holds stands at a path in
the document, a name and a position for each step. A codec takes the texts at a path as they stand
if, whatever it reads, they are the texts in some part of the value. That is true of every member of
a record that is read as a text or as a list of texts, however deep it lies.
-/

namespace Ebms.Json

namespace Reading

/-- What stands for a member: in an object what has its name, in an array what is in its place. -/
def member? (name : String) (position : Nat) : Reading → Option Reading
  | .obj members _ => members.lookup (.text name)
  | .arr items _ => items[position]?
  | .scalar _ | .broken => none

/-- The text that a value is. -/
def text? : Reading → Option String
  | .scalar (.str s) => some s
  | _ => none

/-- The texts at a path: the one that stands there, or those in the array that stands there. -/
def textsAt : List (String × Nat) → Reading → List String
  | [], .arr items _ => items.filterMap text?
  | [], reading => reading.text?.toList
  | (name, position) :: path, reading => (reading.member? name position).elim [] (textsAt path)

/-- There is no text in `null`. -/
theorem textsAt_null (path : List (String × Nat)) : textsAt path (.scalar .null) = [] := by
  cases path <;> rfl

end Reading

namespace Record

/-- A record has a member at some position, and the member holds some part of what is read. -/
inductive Has {α : Type} (field : Field α) : {β : Type} → Record β → Nat → (β → α) → Prop where
  | first {β : Type} {rest : Record β} : Has field (.member field rest) 0 Prod.fst
  | later {β γ : Type} {other : Field β} {rest : Record γ} {position : Nat} {part : γ → α}
      (h : Has field rest position part) :
      Has field (.member other rest) (position + 1) (part ∘ Prod.snd)

variable {α β : Type} {field : Field α} {record : Record β} {position : Nat} {part : β → α}

/-- What is collected is read from the members of an object under their names. -/
theorem Has.holds_collect (h : record.Has field position part) {members : List (Key × Reading)}
    {values : β} (hvalues : record.collect members = .ok values) :
    field.Holds (part values) (members.lookup (.text field.name)) := by
  induction h with
  | first => exact (collect_eq_ok hvalues).1
  | later h ih => exact ih (collect_eq_ok hvalues).2

/-- What is read from items is read from them one after the other. -/
theorem Has.holds_items (h : record.Has field position part) {surplus : Mistake}
    {items : List Reading} {closed : Bool} {values : β}
    (hvalues : decodeItems surplus record items closed = .ok values) :
    field.Holds (part values) items[position]? := by
  induction h generalizing items with
  | first => exact (decodeItems_eq_ok hvalues).1
  | later h ih =>
    rw [← List.getElem?_tail]
    exact ih (decodeItems_eq_ok hvalues).2

/-- What a member of a record holds is read from what stands for it. -/
theorem Has.holds (h : record.Has field position part) {reading : Reading} {values : β}
    (hvalues : record.decode reading = .ok values) :
    field.Holds (part values) (reading.member? field.name position) := by
  cases reading with
  | obj members closed =>
    obtain ⟨-, -, hcollect⟩ := bind_eq_ok.mp hvalues
    exact h.holds_collect hcollect
  | arr items closed => exact h.holds_items hvalues
  | scalar | broken => cases hvalues

end Record

/-- A codec takes the texts at a path as they stand: whatever it reads, they are the texts in some
part of the value. -/
def Codec.Takes {α : Type} (codec : Codec α) (path : List (String × Nat))
    (texts : α → List String) : Prop :=
  ∀ reading value, codec.decode reading = .ok value → texts value = reading.textsAt path

/-- A member takes the texts at a path below it as they stand; if it is missing it holds none. -/
def Field.Takes {α : Type} (field : Field α) (path : List (String × Nat))
    (texts : α → List String) : Prop :=
  ∀ found value, field.Holds value found →
    texts value = found.elim [] (Reading.textsAt path)

section Takes

variable {α β γ : Type} {codec : Codec α} {path : List (String × Nat)} {texts : α → List String}
  {name : String}

/-- A text is read from itself only. -/
theorem Codec.text_eq_ok_iff {reading : Reading} {s : String} :
    Codec.text.decode reading = .ok s ↔ reading = .scalar (.str s) := by
  constructor
  · intro hread
    cases reading with
    | scalar value =>
      cases value with
      | str other => rw [Except.ok.inj hread]
      | null | bool | number | garbled => cases hread
    | arr | obj | broken => cases hread
  · rintro rfl
    rfl

/-- The texts of a list are those of the items. -/
theorem Codec.filterMap_text? {items : List Reading} {found : List String}
    (hread : decodeItems Codec.text items = .ok found) :
    items.filterMap Reading.text? = found := by
  induction items generalizing found with
  | nil =>
    cases hread
    rfl
  | cons item items ih =>
    obtain ⟨first, hfirst, hread⟩ := bind_eq_ok.mp hread
    obtain ⟨others, hothers, hread⟩ := bind_eq_ok.mp hread
    cases hread
    rw [Codec.text_eq_ok_iff.mp hfirst, List.filterMap_cons, ih hothers]
    rfl

/-- A text is taken as it stands. -/
theorem Codec.Takes.text : Codec.text.Takes [] fun text => [text] := by
  intro reading value hread
  rw [Codec.text_eq_ok_iff.mp hread]
  rfl

/-- A list of texts is taken as it stands. -/
theorem Codec.Takes.list : Codec.text.list.Takes [] id := by
  intro reading values hread
  cases reading with
  | arr items closed =>
    obtain ⟨found, hfound, hclosed⟩ := bind_eq_ok.mp hread
    cases closed with
    | false => cases hclosed
    | true =>
      cases hclosed
      exact (Codec.filterMap_text? hfound).symm
  | scalar | obj | broken => cases hread

/-- The texts in a value that may be absent are taken as they stand. -/
theorem Codec.Takes.option (h : codec.Takes path texts) :
    codec.option.Takes path fun value => value.elim [] texts := by
  intro reading value hread
  by_cases hnull : reading = .scalar .null
  · subst hnull
    cases hread
    exact (Reading.textsAt_null path).symm
  · rw [Codec.decode_option hnull] at hread
    obtain ⟨found, hfound, rfl⟩ := map_eq_ok.mp hread
    exact h reading found hfound

/-- A member that is always there takes texts as its codec does. -/
theorem Field.Takes.required (h : codec.Takes path texts) :
    (Field.required name codec).Takes path texts := by
  rintro (_ | reading) value hholds
  · cases hholds
  · exact h reading value hholds

/-- A member that may be absent takes texts as its codec does if it holds nothing when it is
missing, whether or not it is left out in writing. -/
theorem Field.Takes.absentable {omits : Option α → Bool} (h : codec.Takes path texts) :
    (⟨name, codec.option, some none, omits⟩ : Field (Option α)).Takes path fun value =>
      value.elim [] texts := by
  rintro (_ | reading) value hholds
  · cases hholds
    rfl
  · exact h.option reading value hholds

/-- A structure takes the texts below a member as that member does. -/
theorem Codec.Takes.member {record : Record β} {parts : γ → β} {whole : β → γ} {field : Field α}
    {position : Nat} {part : β → α} {held : γ → List String}
    (hhas : record.Has field position part) (h : field.Takes path texts)
    (hheld : ∀ values, held (whole values) = texts (part values)) :
    (record.codec parts whole).Takes ((field.name, position) :: path) held := by
  intro reading value hread
  obtain ⟨values, hvalues, rfl⟩ := map_eq_ok.mp hread
  rw [hheld, h _ _ (hhas.holds hvalues)]
  rfl

/-- Of a document a codec takes texts as it does of what is read first. -/
theorem Codec.Takes.decodeDocument (h : codec.Takes path texts) {document : Document} {value : α}
    (hread : codec.decodeDocument document = .ok value) :
    texts value = document.root.textsAt path :=
  h document.root value (decodeDocument_eq_ok_iff.mp hread).1

end Takes

end Ebms.Json
