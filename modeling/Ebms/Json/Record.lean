import Ebms.Json.Codec

/-!
# Records

A record is written as an object whose members come in the order in which they are declared; a
member may be left out when it holds nothing. It is read from an object with its members in any
order, or from an array that holds them in the declared order. Members nobody knows are skipped.

The first mistake is found by going through an object in the order of its text: an unknown member
must be whole, a known one must not come twice and must be right in itself. Only then are the
members that are missing looked for, in the declared order.
-/

namespace Ebms.Json

/-- One member of a record. -/
structure Field (α : Type) where
  name : String
  codec : Codec α
  /-- What the member holds when it is left out, if it may be. -/
  absent : Option α
  /-- Whether the member is left out in writing. -/
  omits : α → Bool

namespace Field

/-- A member that is always there. -/
def required {α : Type} (name : String) (codec : Codec α) : Field α :=
  ⟨name, codec, none, fun _ => false⟩

/-- A member that is left out when it holds nothing. -/
def optional {α : Type} (name : String) (codec : Codec α) : Field (Option α) :=
  ⟨name, codec.option, some none, Option.isNone⟩

/-- A member that is always written, `null` when it holds nothing, and may be missing. -/
def nullable {α : Type} (name : String) (codec : Codec α) : Field (Option α) :=
  ⟨name, codec.option, some none, fun _ => false⟩

/-- A member that is always written and has a value of its own when it is missing. -/
def defaulted {α : Type} (name : String) (codec : Codec α) (value : α) : Field α :=
  ⟨name, codec, some value, fun _ => false⟩

/-- A list that is left out when it is empty. -/
def listed {α : Type} (name : String) (codec : Codec α) : Field (List α) :=
  ⟨name, codec.list, some [], List.isEmpty⟩

end Field

/-- The members of a record, in the declared order; the type collects what they hold. -/
inductive Record : Type → Type 1 where
  | done : Record Unit
  | member {α β : Type} (field : Field α) (rest : Record β) : Record (α × β)

namespace Record

/-- The members in the order in which they are written. -/
def encode : {α : Type} → Record α → α → List (String × Json)
  | _, .done, () => []
  | _, .member field rest, (value, values) =>
      if field.omits value then encode rest values
      else (field.name, field.codec.encode value) :: encode rest values

/-- The mistake in a member of some name, if that member is known. -/
def inspect? : {α : Type} → Record α → String → Reading → Option (Except Mistake Unit)
  | _, .done, _, _ => none
  | _, .member field rest, name, reading =>
      if field.name = name then some ((field.codec.decode reading).map fun _ => ())
      else inspect? rest name reading

/-- The first mistake in the members of an object; `seen` are the known members passed so far. -/
def scan {α : Type} (record : Record α) (closed : Bool) (seen : List String) :
    List (Key × Reading) → Except Mistake Unit
  | [] => if closed then .ok () else .error .malformed
  | (.text name, value) :: members =>
      match record.inspect? name value with
      | none => if value.isWhole then scan record closed seen members else .error .malformed
      | some inspected =>
          if name ∈ seen then .error (.repeatedMember name)
          else do
            inspected
            scan record closed (name :: seen) members
  | _ :: _ => .error .malformed

/-- What the members hold, in the declared order. -/
def collect : {α : Type} → Record α → List (Key × Reading) → Except Mistake α
  | _, .done, _ => .ok ()
  | _, .member field rest, members => do
      let value ←
        match members.lookup (.text field.name) with
        | some reading => field.codec.decode reading
        | none =>
            match field.absent with
            | some value => .ok value
            | none => .error (.missingMember field.name)
      let values ← collect rest members
      .ok (value, values)

/-- A record in the form of an object. -/
def decodeMembers {α : Type} (record : Record α) (members : List (Key × Reading))
    (closed : Bool) : Except Mistake α := do
  scan record closed [] members
  collect record members

/-- A record in the form of an array; `surplus` is the mistake of an item too many. -/
def decodeItems (surplus : Mistake) :
    {α : Type} → Record α → List Reading → Bool → Except Mistake α
  | _, .done, items, closed =>
      if items.isEmpty then (if closed then .ok () else .error .malformed) else .error surplus
  | _, .member field rest, items, closed => do
      let value ←
        match items with
        | item :: _ => field.codec.decode item
        | [] =>
            if closed then
              match field.absent with
              | some value => .ok value
              | none => .error .tooShort
            else .error .malformed
      let values ← decodeItems surplus rest items.tail closed
      .ok (value, values)

/-- A record in either form. -/
def decode {α : Type} (record : Record α) : Reading → Except Mistake α
  | .obj members closed => record.decodeMembers members closed
  | .arr items closed => decodeItems .malformed record items closed
  | reading => .error reading.misfit

/-- The codec of a structure that holds what the members of a record hold. -/
def codec {α β : Type} (record : Record β) (parts : α → β) (whole : β → α) : Codec α where
  encode value := .obj (record.encode (parts value))
  decode reading := (record.decode reading).map whole

end Record

end Ebms.Json
