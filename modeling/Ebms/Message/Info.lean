import Ebms.Json.Record
import Ebms.Timestamp.Codec

/-!
# What identifies a message

Every message header starts with a block that identifies the message, says when it was made and, in
an answer, which message it answers. Each part may be missing.
-/

namespace Ebms

open Json (Codec Record)

/-- The end of every generated message identifier. -/
def messageIdSuffix : String :=
  "@as4-pmode"

/-- What identifies a message. -/
structure MessageInfo where
  messageId : Option String := none
  timestamp : Option Timestamp := none
  /-- The message that this one refers to. -/
  refToMessageId : Option String := none
  deriving DecidableEq, Repr

namespace MessageInfo

/-- A new message, sent at some time under an identifier made from a token that nobody else uses. -/
def generate (token : String) (now : Timestamp) : MessageInfo :=
  { messageId := some (token ++ messageIdSuffix), timestamp := some now }

/-- The message identifier without the white space around it, if it is not blank. -/
def nonblankId? (info : MessageInfo) : Option String :=
  info.messageId.bind fun id => if Text.isBlank id then none else some (Text.trim id)

/-- The members of a message info block. -/
def record : Record (Option String × Option Timestamp × Option String × Unit) :=
  .member (.optional "message_id" .text) <|
  .member (.optional "timestamp" Timestamp.codec) <|
  .member (.optional "ref_to_message_id" .text)
  .done

/-- Message info blocks are records. -/
def codec : Codec MessageInfo :=
  record.codec (fun i => (i.messageId, i.timestamp, i.refToMessageId, ()))
    fun (messageId, timestamp, refToMessageId, ()) => ⟨messageId, timestamp, refToMessageId⟩

end MessageInfo

end Ebms
