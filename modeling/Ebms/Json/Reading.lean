import Ebms.Json.Token
import Ebms.Json.Value

/-!
# What can be made out of a JSON text

Reading never fails. It gives a tree that says how far the text makes sense: a value that breaks
off is broken, and a container that breaks off is not closed. Whoever looks for something in the
tree then meets its mistakes in the order of the text, so an early wrong type wins over a later
broken string, and a mistake in a part that nobody looks at has to be looked for.
-/

namespace Ebms.Json

open Ebms.Text (Glyph)

/-- What stands where an object wants the name of a member. -/
inductive Key where
  | text (s : String)
  | garbled
  deriving DecidableEq, Repr, Inhabited

/-- A value as far as it can be made out. -/
inductive Reading where
  | scalar (value : Scalar)
  | arr (items : List Reading) (closed : Bool)
  | obj (members : List (Key × Reading)) (closed : Bool)
  | broken
  deriving Repr, Inhabited

/-- A document: one value, and whether anything but blanks follows it. -/
structure Document where
  root : Reading
  trailing : Bool
  deriving Repr, Inhabited

/-- A container that waits for the value being read: its earlier parts, last first. -/
inductive Frame where
  | arr (items : List Reading)
  | obj (members : List (Key × Reading)) (key : Key)
  deriving Repr, Inhabited

/-- The tree in which the text breaks off behind `value`. -/
def cut (value : Reading) : List Frame → Reading
  | [] => value
  | .arr items :: frames => cut (.arr (value :: items).reverse false) frames
  | .obj members key :: frames => cut (.obj ((key, value) :: members).reverse false) frames

/-- Where the reader stands between two tokens. -/
inductive ReadState where
  /-- A value must come. -/
  | expectValue (frames : List Frame)
  /-- The first item of an array or its closing bracket must come. -/
  | expectFirstItem (frames : List Frame)
  /-- The first member of an object or its closing brace must come. -/
  | expectFirstMember (frames : List Frame)
  /-- Another member must come. -/
  | expectMember (members : List (Key × Reading)) (frames : List Frame)
  /-- The colon behind a key must come. -/
  | expectColon (members : List (Key × Reading)) (key : Key) (frames : List Frame)
  /-- A value is complete. -/
  | after (value : Reading) (frames : List Frame)
  /-- The text made no more sense. -/
  | stopped (root : Reading)
  /-- The document is complete, and something follows it. -/
  | trailing (root : Reading)
  deriving Repr, Inhabited

/-- The state behind the first token of a value. -/
def openValue (frames : List Frame) : Token → ReadState
  | .scalar value => .after (.scalar value) frames
  | .arrayOpen => .expectFirstItem frames
  | .objectOpen => .expectFirstMember frames
  | _ => .stopped (cut .broken frames)

/-- The state behind the first token of a member; an object breaks off where no string comes. -/
def openMember (members : List (Key × Reading)) (frames : List Frame) : Token → ReadState
  | .scalar (.str s) => .expectColon members (.text s) frames
  | .scalar .garbled => .expectColon members .garbled frames
  | _ => .stopped (cut (.obj members.reverse false) frames)

/-- The step of the reader on one token. -/
def ReadState.step (state : ReadState) (token : Token) : ReadState :=
  match state with
  | .expectValue frames => openValue frames token
  | .expectFirstItem frames =>
      match token with
      | .arrayClose => .after (.arr [] true) frames
      | _ => openValue (.arr [] :: frames) token
  | .expectFirstMember frames =>
      match token with
      | .objectClose => .after (.obj [] true) frames
      | _ => openMember [] frames token
  | .expectMember members frames => openMember members frames token
  | .expectColon members key frames =>
      match token with
      | .colon => .expectValue (.obj members key :: frames)
      | _ => .stopped (cut .broken (.obj members key :: frames))
  | .after value [] => .trailing value
  | .after value (.arr items :: frames) =>
      match token with
      | .comma => .expectValue (.arr (value :: items) :: frames)
      | .arrayClose => .after (.arr (value :: items).reverse true) frames
      | _ => .stopped (cut value (.arr items :: frames))
  | .after value (.obj members key :: frames) =>
      match token with
      | .comma => .expectMember ((key, value) :: members) frames
      | .objectClose => .after (.obj ((key, value) :: members).reverse true) frames
      | _ => .stopped (cut value (.obj members key :: frames))
  | .stopped root => .stopped root
  | .trailing root => .trailing root

/-- The document when the text ends in a state. -/
def ReadState.document : ReadState → Document
  | .expectValue frames => ⟨cut .broken frames, false⟩
  | .expectFirstItem frames => ⟨cut (.arr [] false) frames, false⟩
  | .expectFirstMember frames => ⟨cut (.obj [] false) frames, false⟩
  | .expectMember members frames => ⟨cut (.obj members.reverse false) frames, false⟩
  | .expectColon members key frames => ⟨cut .broken (.obj members key :: frames), false⟩
  | .after value frames => ⟨cut value frames, false⟩
  | .stopped root => ⟨root, false⟩
  | .trailing root => ⟨root, true⟩

/-- The document made of some tokens. -/
def Document.ofTokens (tokens : List Token) : Document :=
  (tokens.foldl ReadState.step (.expectValue [])).document

/-- The document that a run of glyphs holds. -/
def Document.ofGlyphs (glyphs : List Glyph) : Document :=
  ofTokens (tokens glyphs)

/-- The document that a text holds. -/
def Document.ofText (text : String) : Document :=
  ofGlyphs (Glyph.ofText text)

/-- The document that a run of bytes holds. -/
def Document.ofBytes (bytes : ByteArray) : Document :=
  ofGlyphs (Glyph.ofBytes bytes)

mutual

/-- A written value as a reader sees it. -/
def Reading.ofJson : Json → Reading
  | .null => .scalar .null
  | .bool b => .scalar (.bool b)
  | .num n => .scalar (.number (.int n.toNat))
  | .str s => .scalar (.str s)
  | .arr items => .arr (ofItems items) true
  | .obj members => .obj (ofMembers members) true

/-- Written items as a reader sees them. -/
def Reading.ofItems : List Json → List Reading
  | [] => []
  | item :: items => ofJson item :: ofItems items

/-- Written members as a reader sees them. -/
def Reading.ofMembers : List (String × Json) → List (Key × Reading)
  | [] => []
  | (key, value) :: members => (.text key, ofJson value) :: ofMembers members

end

mutual

/-- The value can be skipped: its text makes sense to the end, whatever it stands for. -/
def Reading.isWhole : Reading → Bool
  | .scalar _ => true
  | .arr items closed => itemsWhole items && closed
  | .obj members closed => membersWhole members && closed
  | .broken => false

/-- Every item can be skipped. -/
def Reading.itemsWhole : List Reading → Bool
  | [] => true
  | item :: items => isWhole item && itemsWhole items

/-- Every member can be skipped. -/
def Reading.membersWhole : List (Key × Reading) → Bool
  | [] => true
  | (_, value) :: members => isWhole value && membersWhole members

end

mutual

/-- The value can be held in memory: it is whole, nothing in it is garbled or too large, and its
containers nest less than `depth` deep. -/
def Reading.isSound (depth : Nat) : Reading → Bool
  | .scalar .garbled | .scalar (.number .huge) => false
  | .scalar _ => true
  | .arr items closed => 1 < depth && itemsSound (depth - 1) items && closed
  | .obj members closed => 1 < depth && membersSound (depth - 1) members && closed
  | .broken => false

/-- Every item can be held in memory. -/
def Reading.itemsSound (depth : Nat) : List Reading → Bool
  | [] => true
  | item :: items => isSound depth item && itemsSound depth items

/-- Every member can be held in memory. -/
def Reading.membersSound (depth : Nat) : List (Key × Reading) → Bool
  | [] => true
  | (.text _, value) :: members => isSound depth value && membersSound depth members
  | _ :: _ => false

end

end Ebms.Json
