/-!
# JSON values that are written

Documents and answers hold no fractions and no negative numbers, so a number is a 64-bit natural.
An object is a list of members, in the order in which they are written.
-/

namespace Ebms

/-- A JSON value as it is written. -/
inductive Json where
  | null
  | bool (b : Bool)
  | num (n : UInt64)
  | str (s : String)
  | arr (items : List Json)
  | obj (members : List (String × Json))
  deriving Repr, BEq, Inhabited

end Ebms
