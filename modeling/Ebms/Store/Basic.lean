import Ebms.Event
import Ebms.ProcessingMode

/-!
# Stores of processing modes

A store keeps processing modes under their identifiers. Only a mode that is sound in structure is
kept; it replaces the one that had its identifier. A store that fails says why and is, as far as
its answers show, what it was before.
-/

namespace Ebms

/-- Why a store does not answer. -/
inductive StoreError where
  /-- The processing mode was refused before anything was stored. -/
  | invalid (defect : Defect)
  | notFound (id : ModeId)
  /-- A stored document is no processing mode. -/
  | undecodable (mistake : Json.Mistake)
  /-- The place where documents are kept does not work. -/
  | inaccessible
  deriving DecidableEq, Repr

/-- The wording of the errors that have one of their own. -/
def StoreError.message? : StoreError → Option String
  | .invalid defect => some ("invalid PMode: " ++ defect.message)
  | .notFound id => some ("PMode not found: " ++ id.text)
  | .undecodable _ | .inaccessible => none

/-- An answer, the state it leaves behind, and the events on the way. -/
structure Outcome (σ ε α : Type) where
  result : Except ε α
  state : σ
  events : List Event := []

/-- The processing modes that a store of some kind keeps. -/
class Repository (σ : Type) where
  /-- Keeps a processing mode under its identifier. -/
  save : σ → ProcessingMode → Outcome σ StoreError Unit
  /-- The processing mode under an identifier. -/
  find : σ → ModeId → Except StoreError (Option ProcessingMode)
  /-- The identifiers of all processing modes, in ascending order. -/
  list : σ → Except StoreError (List ModeId)

end Ebms
