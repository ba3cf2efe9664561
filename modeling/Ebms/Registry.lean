import Ebms.Index
import Ebms.Profile.Builtin
import Ebms.Text.Literal

/-!
# Registries of profiles

A registry holds at most one profile for an identifier. Registering a profile hands back the one
that it replaces.
-/

namespace Ebms

/-- Profiles by identifier. -/
structure Registry where
  profiles : Index Profile := .empty

namespace Registry

/-- The registry with one more profile. -/
def put (registry : Registry) (profile : Profile) : Registry :=
  ⟨registry.profiles.put profile.id.text profile⟩

/-- The profile of some identifier. -/
def get? (registry : Registry) (id : ProfileId) : Option Profile :=
  registry.profiles.find? id.text

/-- Adds a profile, and hands back the one that it replaces. -/
def register (registry : Registry) (profile : Profile) : Option Profile × Registry :=
  (registry.get? profile.id, registry.put profile)

/-- The registry of the built-in profiles. -/
def builtin : Registry :=
  (((Registry.put {} .peppol).put .bdew).put .cef).put .generic

/-- The identifiers of all profiles, in ascending order. -/
def ids (registry : Registry) : List ProfileId :=
  registry.profiles.values.map Profile.id

/-- The identifiers of a registry in one line. -/
def toText (registry : Registry) : String :=
  "ProfileRegistry \x7b profiles: [" ++
    ", ".intercalate (registry.ids.map fun id => "ProfileId(" ++ Text.literal id.text ++ ")") ++
    "] \x7d"

end Registry

end Ebms
