import Ebms.Json.Codec
import Ebms.Timestamp.Basic

/-!
# Timestamps in documents

A timestamp is the text of an instant; a text that stands for none is a mistake of its own.
-/

namespace Ebms.Timestamp

/-- Timestamps are texts. -/
def codec : Json.Codec Timestamp where
  encode t := .str t.toText
  decode reading := do
    let text ← Json.Codec.text.decode reading
    match ofText? text with
    | some t => .ok t
    | none => .error .badTimestamp

end Ebms.Timestamp
