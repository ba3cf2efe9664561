import Ebms.Enumeration
import Ebms.Json.Codec

/-!
# Named alternatives

A value of a closed enumeration is written as its name. An alternative is read from a string, or
from an object with a single member that the alternative names; a bare name holds nothing, so its
member is `null`. Any other type of value, and an object with no member or more than one, or whose
first member has no name that makes sense, is no alternative at all and therefore malformed.
-/

namespace Ebms.Json

/-- An alternative read from its bare name or from the single member that it names. -/
def decodeAlternative {α : Type} (names : List String) (bare : String → Except Mistake α)
    (holding : String → Reading → Except Mistake α) : Reading → Except Mistake α
  | .scalar (.str name) => if name ∈ names then bare name else .error (.unknownName name names)
  | .obj ((.text name, value) :: members) closed =>
      if name ∈ names then do
        let found ← holding name value
        if members.isEmpty && closed then .ok found else .error .malformed
      else .error (.unknownName name names)
  | _ => .error .malformed

namespace Codec

open Enumerated (names find? name)

variable {α : Type} [Enumerated α]

/-- The value of some name, or the mistake of a name that no value has. -/
def decodeName (text : String) : Except Mistake α :=
  match find? text with
  | some value => .ok value
  | none => .error (.unknownName text (names α))

/-- Values of a closed enumeration are written by name. -/
def named : Codec α where
  encode value := .str (name value)
  decode :=
    decodeAlternative (names α) decodeName fun text value =>
      match value with
      | .scalar .null => decodeName text
      | value => .error value.misfit

end Codec

end Ebms.Json
