import Ebms.Party

/-!
# Names derived from parties

The identifier of a processing mode can be fixed, or derived from the full identifiers of its two
parties with a hyphen between them. Inside a derived identifier a hyphen is written `%2D` and a
percent sign `%25`, so exactly one hyphen is left and different pairs get different identifiers.
-/

namespace Ebms

/-- A rule that names the processing mode between two parties. -/
abbrev Naming := Party → Party → ModeId

namespace Naming

/-- One name for every pair of parties. -/
def fixed (id : ModeId) : Naming :=
  fun _ _ => id

/-- One character of a full identifier inside a derived name. -/
def escapeChar (c : Char) : List Char :=
  if c = '%' then ['%', '2', '5']
  else if c = '-' then ['%', '2', 'D']
  else [c]

/-- A full identifier inside a derived name: the mark between the parties never occurs in it. -/
def escape (s : String) : List Char :=
  s.toList.flatMap escapeChar

/-- The text of a derived name: the two full identifiers, escaped, with a hyphen between them. -/
def derivedText (initiator responder : Party) : String :=
  String.ofList (escape initiator.fullId ++ '-' :: escape responder.fullId)

/-- A derived name holds a hyphen and is therefore not blank. -/
theorem isBlank_derivedText (initiator responder : Party) :
    Text.isBlank (derivedText initiator responder) = false := by
  simp only [Text.isBlank, derivedText, String.toList_ofList, List.all_append, List.all_cons]
  rw [show Text.isSpace '-' = false by decide]
  simp

/-- A name derived from the full identifiers of both parties. -/
def derived : Naming :=
  fun initiator responder =>
    ⟨derivedText initiator responder, isBlank_derivedText initiator responder⟩

end Naming

end Ebms
