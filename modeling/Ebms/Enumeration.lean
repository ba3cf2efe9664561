import Ebms.Text.Ascii

/-!
# Closed enumerations and their spellings

Versions, algorithms, patterns and flags are closed lists of values. Each value has a name, which
documents use, and a text, which people and protocols use. A text is read by trimming it and taking
the first value it spells; what counts as a spelling differs from one enumeration to the next. A
text that spells nothing is refused together with the kind of value that was wanted.
-/

namespace Ebms

/-- A closed list of values, each with a name of its own in documents. -/
class Enumerated (α : Type) where
  all : List α
  name : α → String

namespace Enumerated

variable {α : Type} [Enumerated α]

/-- The names of all values, in the order in which the values are listed. -/
def names (α : Type) [Enumerated α] : List String :=
  (all : List α).map name

/-- The value of some name. -/
def find? (text : String) : Option α :=
  all.find? fun value => name value == text

end Enumerated

/-- An enumeration whose values are also read from text. -/
class Spelled (α : Type) extends Enumerated α where
  /-- What the values are called in a refusal. -/
  kind : String
  /-- The text that stands for a value. -/
  text : α → String
  /-- Whether a trimmed text spells a value. -/
  spells : α → String → Bool

/-- A text that spells no value of some kind. -/
structure UnknownSpelling where
  kind : String
  value : String
  deriving DecidableEq, Repr

/-- The wording of a refused text. -/
def UnknownSpelling.message (refused : UnknownSpelling) : String :=
  "unknown " ++ refused.kind ++ " value: " ++ refused.value

/-- The value that a text spells, white space around it aside. -/
def Spelled.ofText {α : Type} [Spelled α] (s : String) : Except UnknownSpelling α :=
  match Enumerated.all.find? fun value : α => spells value (Text.trim s) with
  | some value => .ok value
  | none => .error ⟨kind α, s⟩

end Ebms
