import Ebms.Defect
import Ebms.Json.Codec
import Ebms.Text.Ascii

/-!
# Identifiers of processing modes and profiles

An identifier is never blank. It is made from a text by trimming it, and a profile's is folded to
small letters as well, so every way of writing a profile's name gives one identifier. Reading an
identifier from a document does the same. An identifier of a processing mode that is derived from
its parties is taken as it is, with the white space that the parties bring along.
-/

namespace Ebms

/-- The identifier of a processing mode. -/
structure ModeId where
  text : String
  nonblank : Text.isBlank text = false
  deriving DecidableEq, Repr

namespace ModeId

/-- Identifiers with the same text are the same. -/
theorem eq_of_text {id other : ModeId} (h : id.text = other.text) : id = other := by
  cases id
  cases other
  cases h
  rfl

/-- Identifiers are the same exactly if their texts are. -/
theorem text_inj {id other : ModeId} : id.text = other.text ↔ id = other :=
  ⟨eq_of_text, congrArg text⟩

/-- The identifier that a text stands for. -/
def ofText (text : String) : Except Defect ModeId :=
  if h : Text.isBlank text = false then .ok ⟨Text.trim text, by simp [h]⟩
  else .error .blankModeId

/-- Identifiers are written as they are and trimmed when they are read. -/
def codec : Json.Codec ModeId where
  encode id := .str id.text
  decode reading := do
    let text ← Json.Codec.text.decode reading
    match ofText text with
    | .ok id => .ok id
    | .error _ => .error (.blankIdentifier "PMode")

end ModeId

/-- The identifier of a profile: trimmed, in small letters, and not blank. -/
structure ProfileId where
  text : String
  trimmed : Text.trim text = text
  lowered : Text.lower text = text
  nonblank : Text.isBlank text = false
  deriving DecidableEq, Repr

namespace ProfileId

/-- Identifiers are the same exactly if their texts are. -/
theorem text_inj {id other : ProfileId} : id.text = other.text ↔ id = other := by
  constructor
  · intro h
    cases id
    cases other
    cases h
    rfl
  · exact congrArg text

/-- The identifier that a text stands for. -/
def ofText (text : String) : Except Defect ProfileId :=
  if h : Text.isBlank text = false then
    .ok ⟨Text.lower (Text.trim text), by simp [Text.trim_lower], by simp, by simp [h]⟩
  else .error .blankProfileId

/-- A text stands for the identifier that is left when it is trimmed and folded. -/
theorem ofText_eq_ok_iff (text : String) (id : ProfileId) :
    ofText text = .ok id ↔ id.text = Text.lower (Text.trim text) := by
  unfold ofText
  split
  · rw [Except.ok.injEq, ← text_inj, eq_comm]
  · rename_i hblank
    refine iff_of_false nofun fun htext => hblank ?_
    rw [← Text.isBlank_trim, ← Text.isBlank_lower, ← htext, id.nonblank]

/-- An identifier is what its own text stands for. -/
theorem ofText_text (id : ProfileId) : ofText id.text = .ok id := by
  rw [ofText_eq_ok_iff, id.trimmed, id.lowered]

/-- The identifier of the Peppol profile. -/
def peppol : ProfileId :=
  ⟨"peppol", by decide, by decide, by decide⟩

/-- The identifier of the profile of the German energy market. -/
def bdew : ProfileId :=
  ⟨"bdew", by decide, by decide, by decide⟩

/-- The identifier of the eDelivery profile. -/
def cef : ProfileId :=
  ⟨"cef", by decide, by decide, by decide⟩

/-- The identifier of the profile that mandates nothing. -/
def generic : ProfileId :=
  ⟨"generic", by decide, by decide, by decide⟩

/-- Identifiers are written as they are, and trimmed and folded when they are read. -/
def codec : Json.Codec ProfileId where
  encode id := .str id.text
  decode reading := do
    let text ← Json.Codec.text.decode reading
    match ofText text with
    | .ok id => .ok id
    | .error _ => .error (.blankIdentifier "profile")

end ProfileId

end Ebms
