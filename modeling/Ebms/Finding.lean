import Ebms.Enumeration
import Ebms.Json.Alternative
import Ebms.Json.Record

/-!
# Findings

A profile that is not met is not met in one or more places. Each of them is a finding: how severe
it is, what kind of rule it comes from, the dotted path of the place, and a message. Findings are
collected in order and nothing is dropped. Warnings alone refuse nothing; one error refuses, and
then every finding is handed back, warnings included.
-/

namespace Ebms

open Json (Codec Record)

/-- How severe a finding is. -/
inductive Severity where
  | warning
  | error
  deriving DecidableEq, Repr

instance : Enumerated Severity where
  all := [.warning, .error]
  name
    | .warning => "warning"
    | .error => "error"

/-- The kind of rule that a finding comes from. -/
inductive Category where
  /-- A part that has to be there is missing. -/
  | missingStructure
  /-- A flag that has to be defined is not. -/
  | mandatoryUnset
  /-- A value is none of those that are allowed. -/
  | valueMismatch
  /-- A part is there too often or too rarely. -/
  | cardinality
  /-- A value can be used and is discouraged. -/
  | advisory
  deriving DecidableEq, Repr

instance : Enumerated Category where
  all := [.missingStructure, .mandatoryUnset, .valueMismatch, .cardinality, .advisory]
  name
    | .missingStructure => "missing_structure"
    | .mandatoryUnset => "mandatory_unset"
    | .valueMismatch => "value_mismatch"
    | .cardinality => "cardinality"
    | .advisory => "advisory"

/-- A place where a profile is not met. -/
structure Finding where
  severity : Severity
  category : Category
  field : String
  message : String
  deriving DecidableEq, Repr

namespace Finding

/-- A finding that refuses. -/
def error (category : Category) (field message : String) : Finding :=
  ⟨.error, category, field, message⟩

/-- A finding that only advises. -/
def warning (field message : String) : Finding :=
  ⟨.warning, .advisory, field, message⟩

/-- The same finding with another severity. -/
def withSeverity (finding : Finding) (severity : Severity) : Finding :=
  { finding with severity }

/-- Whether a finding refuses. -/
def isError (finding : Finding) : Bool :=
  finding.severity == .error

/-- The place and the message of a finding. -/
def toText (finding : Finding) : String :=
  "[" ++ finding.field ++ "] " ++ finding.message

/-- The members of a finding. -/
def record : Record (Severity × Category × String × String × Unit) :=
  .member (.required "level" .named) <|
  .member (.required "category" .named) <|
  .member (.required "field" .text) <|
  .member (.required "message" .text)
  .done

/-- Findings are records. -/
def codec : Codec Finding :=
  record.codec (fun f => (f.severity, f.category, f.field, f.message, ()))
    fun (severity, category, field, message, ()) => ⟨severity, category, field, message⟩

end Finding

/-- The findings of one or more checks, in order. -/
abbrev Findings := List Finding

/-- The refusal of what does not meet a profile, with every finding. -/
structure Violations where
  findings : Findings
  deriving DecidableEq, Repr

namespace Findings

/-- Whether any finding refuses. -/
def hasErrors (findings : Findings) : Bool :=
  findings.any Finding.isError

/-- The number of findings that refuse. -/
def errorCount (findings : Findings) : Nat :=
  findings.countP Finding.isError

/-- The findings at some place. -/
def forField (findings : Findings) (field : String) : Findings :=
  findings.filter fun finding => finding.field == field

/-- The texts of all findings in one line. -/
def toText (findings : Findings) : String :=
  "; ".intercalate (findings.map Finding.toText)

/-- The decision that findings lead to: the warnings, or the refusal with every finding. -/
def verdict (findings : Findings) : Except Violations Findings :=
  if hasErrors findings then .error ⟨findings⟩ else .ok findings

/-- Findings are an array. -/
def codec : Codec Findings :=
  Finding.codec.list

end Findings

/-- The wording of a refusal. -/
def Violations.message (violations : Violations) : String :=
  "profile validation failed: " ++ Findings.toText violations.findings

end Ebms
