import Ebms.Enumeration
import Ebms.Json.Alternative

/-!
# Flags that may be undefined

A flag of an agreement is set to a truth value or not decided at all. An undefined flag is no false
one: a profile can ask that a flag be defined without asking for either value.
-/

namespace Ebms

/-- A truth value, or none yet. -/
inductive Flag where
  | set (value : Bool)
  | undefined
  deriving DecidableEq, Repr, Inhabited

namespace Flag

/-- The truth value of a flag that is set. -/
def value? : Flag → Option Bool
  | .set value => some value
  | .undefined => none

/-- The truth value of a flag, with another for an undefined one. -/
def valueD (flag : Flag) (fallback : Bool) : Bool :=
  flag.value?.getD fallback

/-- The flag of a truth value that may be absent. -/
def ofOption : Option Bool → Flag
  | some value => .set value
  | none => .undefined

/-- The word for a flag. -/
def word : Flag → String
  | .set true => "true"
  | .set false => "false"
  | .undefined => "undefined"

/-- Words are read without regard to case, and a blank text leaves a flag undefined. -/
instance : Spelled Flag where
  all := [.set true, .set false, .undefined]
  name := word
  kind := "tri-state"
  text := word
  spells
    | .undefined, s => Text.lower s == "undefined" || s == ""
    | flag, s => Text.lower s == flag.word

/-- Flags are written as words. -/
def codec : Json.Codec Flag :=
  Json.Codec.named

end Flag

end Ebms
