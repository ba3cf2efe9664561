/-!
# Mistakes of a document

A document that is not decoded has a first mistake, in the order of its text. A mistake is either
in the text (`malformed`), or in the type, the range or the number of its values, or in the names
of its members and alternatives, or in what a text stands for.
-/

namespace Ebms.Json

/-- Why a document is not decoded. -/
inductive Mistake where
  /-- The text is no JSON, or holds more or less than the value it stands for. -/
  | malformed
  | wrongType
  /-- An integer that the member cannot hold. -/
  | outOfRange
  /-- An array with too few items for a record. -/
  | tooShort
  | missingMember (name : String)
  | repeatedMember (name : String)
  /-- A name that is none of the known ones. -/
  | unknownName (found : String) (known : List String)
  /-- A blank identifier of some kind. -/
  | blankIdentifier (kind : String)
  /-- A text that is no timestamp. -/
  | badTimestamp
  deriving DecidableEq, Repr, Inhabited

/-- The names that would have been right: one, either of two, or one of several. -/
def listAlternatives : List String → String
  | [a] => "expected `" ++ a ++ "`"
  | [a, b] => "expected `" ++ a ++ "` or `" ++ b ++ "`"
  | names => "expected one of " ++ ", ".intercalate (names.map fun name => "`" ++ name ++ "`")

/-- The wording of the mistakes that have one. -/
def Mistake.message? : Mistake → Option String
  | .missingMember name => some ("missing field `" ++ name ++ "`")
  | .repeatedMember name => some ("duplicate field `" ++ name ++ "`")
  | .unknownName found known =>
      some ("unknown variant `" ++ found ++ "`, " ++ listAlternatives known)
  | .blankIdentifier kind => some (kind ++ " identifier must not be empty")
  | _ => none

end Ebms.Json
