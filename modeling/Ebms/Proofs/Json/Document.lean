import Ebms.Proofs.Json.Codec
import Ebms.Proofs.Json.Tokens

/-!
# A written value is read as itself

The reader that goes through the tokens of a value comes out behind that value, whatever containers
it is in. A text that is written in any layout of blanks, and the bytes of such a text, are
therefore documents that hold the written value and nothing behind it.
-/

namespace Ebms.Json

open Ebms.Text (Glyph)

/-- The first item of an array is read like any value, because it does not start with the closing
bracket. -/
theorem foldl_expectFirstItem (item : Json) (frames : List Frame) :
    (Token.ofJson item).foldl ReadState.step (.expectFirstItem frames) =
      (Token.ofJson item).foldl ReadState.step (.expectValue (.arr [] :: frames)) := by
  cases item with
  | null | bool | num | str => rfl
  | arr items => cases items <;> rfl
  | obj members => cases members <;> rfl

mutual

/-- The tokens of a value lead behind that value. -/
theorem foldl_ofJson (value : Json) (frames : List Frame) :
    (Token.ofJson value).foldl ReadState.step (.expectValue frames) =
      .after (.ofJson value) frames := by
  match value with
  | .null | .bool _ | .num _ | .str _ | .arr [] | .obj [] => rfl
  | .arr (item :: items) =>
    rw [Token.ofJson, List.foldl_cons, List.foldl_append]
    change (Token.ofItems items).foldl ReadState.step
      ((Token.ofJson item).foldl ReadState.step (.expectFirstItem frames)) = _
    rw [foldl_expectFirstItem, foldl_ofJson item, foldl_ofItems items]
    rfl
  | .obj ((key, value) :: members) =>
    rw [Token.ofJson, List.foldl_cons, List.foldl_cons, List.foldl_cons, List.foldl_append]
    change (Token.ofMembers members).foldl ReadState.step
      ((Token.ofJson value).foldl ReadState.step (.expectValue (.obj [] (.text key) :: frames))) = _
    rw [foldl_ofJson value, foldl_ofMembers members]
    rfl

/-- The tokens behind an item lead behind its array. -/
theorem foldl_ofItems (items : List Json) (item : Reading) (earlier : List Reading)
    (frames : List Frame) :
    (Token.ofItems items).foldl ReadState.step (.after item (.arr earlier :: frames)) =
      .after (.arr ((item :: earlier).reverse ++ Reading.ofItems items) true) frames := by
  match items with
  | [] =>
    rw [Reading.ofItems, List.append_nil]
    rfl
  | next :: items =>
    rw [Token.ofItems, List.foldl_cons, List.foldl_append]
    change (Token.ofItems items).foldl ReadState.step
      ((Token.ofJson next).foldl ReadState.step
        (.expectValue (.arr (item :: earlier) :: frames))) = _
    rw [foldl_ofJson next, foldl_ofItems items, Reading.ofItems, List.reverse_cons,
      List.append_assoc, List.singleton_append]

/-- The tokens behind a member lead behind its object. -/
theorem foldl_ofMembers (members : List (String × Json)) (value : Reading)
    (earlier : List (Key × Reading)) (key : Key) (frames : List Frame) :
    (Token.ofMembers members).foldl ReadState.step (.after value (.obj earlier key :: frames)) =
      .after (.obj (((key, value) :: earlier).reverse ++ Reading.ofMembers members) true)
        frames := by
  match members with
  | [] =>
    rw [Reading.ofMembers, List.append_nil]
    rfl
  | (name, next) :: members =>
    rw [Token.ofMembers, List.foldl_cons, List.foldl_cons, List.foldl_cons, List.foldl_append]
    change (Token.ofMembers members).foldl ReadState.step
      ((Token.ofJson next).foldl ReadState.step
        (.expectValue (.obj ((key, value) :: earlier) (.text name) :: frames))) = _
    rw [foldl_ofJson next, foldl_ofMembers members, Reading.ofMembers, List.reverse_cons,
      List.append_assoc, List.singleton_append]

end

/-- The document in the tokens of a value holds that value and nothing behind it. -/
theorem ofTokens_ofJson (value : Json) :
    Document.ofTokens (Token.ofJson value) = ⟨.ofJson value, false⟩ := by
  rw [Document.ofTokens, foldl_ofJson]
  rfl

/-- The document in the text of a value, in any layout, holds that value and nothing behind it. -/
theorem ofText_write {layout : Layout} (hlayout : layout.Blank) (value : Json) :
    Document.ofText (String.ofList (write layout 0 value)) = ⟨.ofJson value, false⟩ := by
  rw [Document.ofText, Glyph.ofText, String.toList_ofList, Document.ofGlyphs,
    tokens_write hlayout, ofTokens_ofJson]

/-- The bytes of a text hold the document that the text holds. -/
theorem ofBytes_toUTF8 (text : String) : Document.ofBytes text.toUTF8 = Document.ofText text := by
  have htext : String.fromUTF8? text.toUTF8 = some text := dif_pos text.isValidUTF8
  rw [Document.ofBytes, Glyph.ofBytes, htext]
  rfl

namespace Codec

variable {α : Type} (codec : Codec α)

/-- A value that is read from its text without blanks is read from what was written. -/
theorem ofText_compact (value : Json) :
    codec.ofText value.compact = codec.decode (.ofJson value) := by
  rw [ofText, compact, ofText_write Layout.blank_compact, decodeDocument]
  cases codec.decode (.ofJson value) <;> rfl

/-- A value that is read from its text with one item a line is read from what was written. -/
theorem ofText_indented (value : Json) :
    codec.ofText value.indented = codec.decode (.ofJson value) := by
  rw [ofText, indented, ofText_write Layout.blank_indented, decodeDocument]
  cases codec.decode (.ofJson value) <;> rfl

/-- A value that is read from the bytes of a text is read from that text. -/
theorem ofBytes_toUTF8 (text : String) : codec.ofBytes text.toUTF8 = codec.ofText text := by
  rw [ofBytes, Json.ofBytes_toUTF8, ofText]

/-- Both texts of a value that is restored, on one line and with one item a line, are read as its
settled form. -/
theorem Restores.ofText_written {codec : Codec α} {settle : α → α} (h : codec.Restores settle)
    (value : α) :
    codec.ofText (codec.toText value) = .ok (settle value) ∧
      codec.ofText (codec.encode value).indented = .ok (settle value) := by
  have hread := h.decode_encode value
  exact ⟨(codec.ofText_compact _).trans hread, (codec.ofText_indented _).trans hread⟩

end Codec

end Ebms.Json
