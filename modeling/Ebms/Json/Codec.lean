import Ebms.Json.Mistake
import Ebms.Json.Reading
import Ebms.Json.Written

/-!
# Writing and reading values as JSON

A codec writes a value as JSON and reads it back from what can be made out of a text. Reading
answers with the first mistake. A value of the wrong type is a mistake in itself, whatever it
holds; only where the right type begins is a broken value malformed.
-/

namespace Ebms.Json

/-- How values of one type are written and read. -/
structure Codec (α : Type) where
  encode : α → Json
  decode : Reading → Except Mistake α

/-- The mistake of a value that stands where another type is wanted. -/
def Reading.misfit : Reading → Mistake
  | .broken | .scalar .garbled | .scalar (.number .huge) => .malformed
  | _ => .wrongType

namespace Codec

/-- A document is read whole: what follows its value is a mistake, if the value has none. -/
def decodeDocument {α : Type} (codec : Codec α) (document : Document) : Except Mistake α := do
  let value ← codec.decode document.root
  if document.trailing then .error .malformed else .ok value

/-- A value read from a text. -/
def ofText {α : Type} (codec : Codec α) (text : String) : Except Mistake α :=
  codec.decodeDocument (Document.ofText text)

/-- A value read from a run of bytes. -/
def ofBytes {α : Type} (codec : Codec α) (bytes : ByteArray) : Except Mistake α :=
  codec.decodeDocument (Document.ofBytes bytes)

/-- The text of a value without blanks. -/
def toText {α : Type} (codec : Codec α) (value : α) : String :=
  (codec.encode value).compact

/-- Texts are strings. -/
def text : Codec String where
  encode := .str
  decode
    | .scalar (.str s) => .ok s
    | reading => .error reading.misfit

/-- Truth values are the words `true` and `false`. -/
def bool : Codec Bool where
  encode := .bool
  decode
    | .scalar (.bool b) => .ok b
    | reading => .error reading.misfit

/-- A natural number up to a limit. -/
def decodeNat (limit : Nat) : Reading → Except Mistake Nat
  | .scalar (.number (.int n)) =>
      if 0 ≤ n ∧ n ≤ limit then .ok n.toNat else .error .outOfRange
  | reading => .error reading.misfit

/-- Words of 64 bits are integers. -/
def word64 : Codec UInt64 where
  encode := .num
  decode reading := (decodeNat (UInt64.size - 1) reading).map UInt64.ofNat

/-- Words of 32 bits are integers. -/
def word32 : Codec UInt32 where
  encode n := .num n.toUInt64
  decode reading := (decodeNat (UInt32.size - 1) reading).map UInt32.ofNat

/-- An absent value is `null`. -/
def option {α : Type} (codec : Codec α) : Codec (Option α) where
  encode
    | none => .null
    | some value => codec.encode value
  decode
    | .scalar .null => .ok none
    | reading => (codec.decode reading).map some

/-- The items of an array, read in their order. -/
def decodeItems {α : Type} (codec : Codec α) : List Reading → Except Mistake (List α)
  | [] => .ok []
  | item :: items => do
      let value ← codec.decode item
      let values ← decodeItems codec items
      .ok (value :: values)

/-- A list is an array. -/
def list {α : Type} (codec : Codec α) : Codec (List α) where
  encode values := .arr (values.map codec.encode)
  decode
    | .arr items closed => do
        let values ← decodeItems codec items
        if closed then .ok values else .error .malformed
    | reading => .error reading.misfit

end Codec

end Ebms.Json
