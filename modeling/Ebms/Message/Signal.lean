import Ebms.Json.Alternative
import Ebms.Message.Info

/-!
# Headers of signal messages

A signal message carries a receipt, an error or the request to pull a message. A signal is one
object that holds both the kind of signal, under any of its members, and what belongs to that kind.
What a member means can only be told when the kind is known, so the whole signal is held in memory
before it is taken apart. It may instead be an array that starts with the kind.
-/

namespace Ebms

open Json (Codec Record Reading Mistake Key)

/-- What a signal message carries. -/
inductive Signal where
  | receipt (nonRepudiation : Bool)
  | error (code : String)
  /-- The request for a message of a channel, the usual one unless another is named. -/
  | pullRequest (channel : Option String)
  deriving DecidableEq, Repr

/-- The kinds of signals. -/
inductive SignalKind where
  | receipt
  | error
  | pullRequest
  deriving DecidableEq, Repr

instance : Enumerated SignalKind where
  all := [.receipt, .error, .pullRequest]
  name
    | .receipt => "receipt"
    | .error => "error"
    | .pullRequest => "pull_request"

namespace Signal

/-- The members of a receipt. -/
def receiptRecord : Record (Bool × Unit) :=
  .member (.defaulted "non_repudiation" .bool false) .done

/-- The members of an error. -/
def errorRecord : Record (String × Unit) :=
  .member (.required "error_code" .text) .done

/-- The members of a pull request. -/
def pullRequestRecord : Record (Option String × Unit) :=
  .member (.optional "mpc" .text) .done

/-- A signal is written as its kind, followed by what belongs to the kind. -/
def encode : Signal → Json
  | .receipt nonRepudiation =>
      .obj (("kind", .str "receipt") :: receiptRecord.encode (nonRepudiation, ()))
  | .error code => .obj (("kind", .str "error") :: errorRecord.encode (code, ()))
  | .pullRequest channel =>
      .obj (("kind", .str "pull_request") :: pullRequestRecord.encode (channel, ()))

/-- The kind of a signal is a bare name. -/
def decodeKind : Reading → Except Mistake SignalKind
  | .scalar (.str name) => Codec.decodeName name
  | reading => .error reading.misfit

/-- The kind among the members of a signal and the other members; everything is held in memory in
the order of the text. -/
def splitKind (depth : Nat) (kind : Option SignalKind) :
    List (Key × Reading) → Except Mistake (Option SignalKind × List (Key × Reading))
  | [] => .ok (kind, [])
  | (.text name, value) :: members =>
      if name = "kind" then
        if kind.isSome then .error (.repeatedMember "kind")
        else do
          let kind ← decodeKind value
          splitKind depth (some kind) members
      else if value.isSound depth then do
        let (kind, others) ← splitKind depth kind members
        .ok (kind, (.text name, value) :: others)
      else .error .malformed
  | _ :: _ => .error .malformed

/-- The signal of some kind whose parts are read by `read`. -/
def ofKind (read : {α : Type} → Record α → Except Mistake α) : SignalKind → Except Mistake Signal
  | .receipt => (read receiptRecord).map fun (nonRepudiation, ()) => .receipt nonRepudiation
  | .error => (read errorRecord).map fun (code, ()) => .error code
  | .pullRequest => (read pullRequestRecord).map fun (channel, ()) => .pullRequest channel

/-- A signal in either form; its parts nest less than `depth` deep. -/
def decode (depth : Nat) : Reading → Except Mistake Signal
  | .obj members closed => do
      let (kind, others) ← splitKind depth none members
      if closed then
        match kind with
        | some kind => ofKind (fun record => record.decodeMembers others true) kind
        | none => .error (.missingMember "kind")
      else .error .malformed
  | .arr [] true => .error (.missingMember "kind")
  | .arr (first :: parts) closed => do
      let kind ← decodeKind first
      if Reading.itemsSound depth parts && closed then
        ofKind (fun record => Record.decodeItems .tooShort record parts true) kind
      else .error .malformed
  | .arr [] false => .error .malformed
  | reading => .error reading.misfit

/-- A document nests less than this deep where it is held in memory. -/
def depthLimit : Nat := 128

/-- A signal inside some number of containers of its document. -/
def codecWithin (containers : Nat) : Codec Signal :=
  ⟨encode, decode (depthLimit - 1 - containers)⟩

/-- A signal that is a document of its own. -/
def codec : Codec Signal :=
  codecWithin 0

end Signal

/-- The header of a signal message. -/
structure SignalMessage where
  messageInfo : Option MessageInfo := none
  signal : Option Signal := none
  deriving DecidableEq, Repr

namespace SignalMessage

/-- The members of a signal message. -/
def record : Record (Option MessageInfo × Option Signal × Unit) :=
  .member (.optional "message_info" MessageInfo.codec) <|
  .member (.optional "signal" (Signal.codecWithin 1))
  .done

/-- Signal messages are records. -/
def codec : Codec SignalMessage :=
  record.codec (fun m => (m.messageInfo, m.signal, ())) fun (messageInfo, signal, ()) =>
    ⟨messageInfo, signal⟩

end SignalMessage

end Ebms
