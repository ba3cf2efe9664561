import Ebms.Conformance.Message
import Ebms.Proofs.Json.Document
import Ebms.Proofs.Json.Record
import Ebms.Proofs.Timestamp

/-!
# Messages and findings come back as they were written

The headers of messages and the findings about them are restored block by block, and nothing of them
is lost: neither a party that is named twice, nor a list that is empty, nor a block in which nothing
is said. A signal is an object that holds its kind among its members. No member of any kind has the
name of the kind, and none holds more than a text or a truth value, so the kind is found first and
the rest is read as what belongs to it.
-/

namespace Ebms

open Json (Codec Record Reading)

/-- Timestamps are restored. -/
theorem Timestamp.codec_restores : codec.Restores id where
  decode_encode t := by
    refine Json.bind_eq_ok.mpr ⟨t.toText, rfl, ?_⟩
    rw [ofText?_toText]
    rfl
  settled _ _ _ := rfl
  encode_ne_null _ := Json.noConfusion

/-- What identifies a message is restored. -/
theorem MessageInfo.codec_restores : MessageInfo.codec.Restores id :=
  Json.Record.Restores.codec
    (.member (.optional .text) <|
      .member (.optional Timestamp.codec_restores) <|
      .member (.optional .text)
      .done)
    (by decide) (fun _ => rfl) fun _ => rfl

/-- Identifiers of parties are restored. -/
theorem PartyId.codec_restores : PartyId.codec.Restores id :=
  Json.Record.Restores.codec
    (.member (.optional .text) <|
      .member (.required .text)
      .done)
    (by decide) (fun _ => rfl) fun _ => rfl

/-- The sides of a message are restored, whether they name parties or not. -/
theorem PartyBlock.codec_restores : PartyBlock.codec.Restores id :=
  Json.Record.Restores.codec
    (.member (.defaulted PartyId.codec_restores.items rfl) <|
      .member (.optional .text)
      .done)
    (by decide) (fun _ => rfl) fun _ => rfl

/-- The parties of a message are restored. -/
theorem PartyInfo.codec_restores : PartyInfo.codec.Restores id :=
  Json.Record.Restores.codec
    (.member (.optional PartyBlock.codec_restores) <|
      .member (.optional PartyBlock.codec_restores)
      .done)
    (by decide) (fun _ => rfl) fun _ => rfl

/-- What a message is about is restored. -/
theorem CollaborationInfo.codec_restores : CollaborationInfo.codec.Restores id :=
  Json.Record.Restores.codec
    (.member (.optional .text) <|
      .member (.optional .text) <|
      .member (.optional .text) <|
      .member (.optional .text) <|
      .member (.optional .text)
      .done)
    (by decide) (fun _ => rfl) fun _ => rfl

/-- Properties are restored. -/
theorem MessageProperty.codec_restores : MessageProperty.codec.Restores id :=
  Json.Record.Restores.codec
    (.member (.required .text) <|
      .member (.required .text) <|
      .member (.optional .text)
      .done)
    (by decide) (fun _ => rfl) fun _ => rfl

/-- User messages are restored. -/
theorem UserMessage.codec_restores : UserMessage.codec.Restores id :=
  Json.Record.Restores.codec
    (.member (.optional MessageInfo.codec_restores) <|
      .member (.optional PartyInfo.codec_restores) <|
      .member (.optional CollaborationInfo.codec_restores) <|
      .member (.listed MessageProperty.codec_restores) <|
      .member (.optional .text)
      .done)
    (by decide) (fun _ => rfl) fun _ => rfl

namespace Signal

/-- Members that can be held in memory, and of which none has the name of the kind, are all put
aside. -/
theorem splitKind_ofMembers {depth : Nat} {kind : Option SignalKind}
    {members : List (String × Json)} (hkind : "kind" ∉ members.map Prod.fst)
    (hsound : ∀ member ∈ members, (Reading.ofJson member.2).isSound depth = true) :
    splitKind depth kind (Reading.ofMembers members) = .ok (kind, Reading.ofMembers members) := by
  induction members with
  | nil => rfl
  | cons member members ih =>
    obtain ⟨hne, hkind⟩ := List.ne_and_not_mem_of_not_mem_cons hkind
    obtain ⟨hmember, hsound⟩ := List.forall_mem_cons.mp hsound
    rw [Reading.ofMembers, splitKind, if_neg (Ne.symm hne), if_pos hmember, ih hkind hsound]
    rfl

/-- The kind in front of the other members is found, and the others are read as what belongs to
it. -/
theorem decode_tagged {depth : Nat} {name : String} {kind : SignalKind}
    (hname : (Codec.decodeName name : Except Json.Mistake SignalKind) = .ok kind)
    {members : List (String × Json)} (hkind : "kind" ∉ members.map Prod.fst)
    (hsound : ∀ member ∈ members, (Reading.ofJson member.2).isSound depth = true) :
    decode depth (.ofJson (.obj (("kind", .str name) :: members))) =
      ofKind (fun record => record.decode (.obj (Reading.ofMembers members) true)) kind := by
  have hsplit : splitKind depth none (Reading.ofMembers (("kind", .str name) :: members)) =
      .ok (some kind, Reading.ofMembers members) := by
    rw [Reading.ofMembers, splitKind, if_pos rfl, Reading.ofJson, decodeKind, hname]
    exact splitKind_ofMembers hkind hsound
  rw [Reading.ofJson, decode, hsplit]
  rfl

/-- A signal whose kind belongs to a record is read from that kind and the members of the record, if
these are restored, none has the name of the kind, and all can be held in memory. -/
theorem decode_tagged_record {depth : Nat} {name : String} (kind : SignalKind)
    (hname : (Codec.decodeName name : Except Json.Mistake SignalKind) = .ok kind)
    {α : Type} (record : Record α) (convert : α → Signal)
    (hkind : ∀ read : {β : Type} → Record β → Except Json.Mistake β,
      ofKind read kind = (read record).map convert)
    (hrecord : record.Restores id) (hnodup : ("kind" :: record.names).Nodup) (values : α)
    (hsound : ∀ member ∈ record.encode values,
      (Reading.ofJson member.2).isSound depth = true) :
    decode depth (.ofJson (.obj (("kind", .str name) :: record.encode values))) =
      .ok (convert values) := by
  obtain ⟨hfree, hnodup⟩ := List.nodup_cons.mp hnodup
  have hmembers : "kind" ∉ (record.encode values).map Prod.fst := fun h =>
    hfree ((record.names_encode values).subset h)
  rw [decode_tagged hname hmembers hsound, hkind, hrecord.decode_encode hnodup]
  rfl

/-- Signals of every kind are restored, wherever in a document they stand. -/
theorem codecWithin_restores (containers : Nat) : (codecWithin containers).Restores id where
  decode_encode signal := by
    change decode _ (.ofJson (encode signal)) = .ok signal
    cases signal with
    | receipt nonRepudiation =>
      exact decode_tagged_record .receipt rfl receiptRecord (fun values => .receipt values.1)
        (fun _ => rfl) (.member (.defaulted .bool rfl) .done) (by decide) (nonRepudiation, ())
        (List.forall_mem_singleton.mpr rfl)
    | error code =>
      exact decode_tagged_record .error rfl errorRecord (fun values => .error values.1)
        (fun _ => rfl) (.member (.required .text) .done) (by decide) (code, ())
        (List.forall_mem_singleton.mpr rfl)
    | pullRequest channel =>
      have hsound : ∀ member ∈ pullRequestRecord.encode (channel, ()),
          (Reading.ofJson member.2).isSound (depthLimit - 1 - containers) = true := by
        cases channel with
        | none => exact List.forall_mem_nil _
        | some channel => exact List.forall_mem_singleton.mpr rfl
      exact decode_tagged_record .pullRequest rfl pullRequestRecord
        (fun values => .pullRequest values.1) (fun _ => rfl) (.member (.optional .text) .done)
        (by decide) (channel, ()) hsound
  settled _ _ _ := rfl
  encode_ne_null signal := by cases signal <;> exact Json.noConfusion

end Signal

/-- Signal messages are restored. -/
theorem SignalMessage.codec_restores : SignalMessage.codec.Restores id :=
  Json.Record.Restores.codec
    (.member (.optional MessageInfo.codec_restores) <|
      .member (.optional (Signal.codecWithin_restores 1))
      .done)
    (by decide) (fun _ => rfl) fun _ => rfl

/-- A finding is restored. -/
theorem Finding.codec_restores : Finding.codec.Restores id :=
  Json.Record.Restores.codec
    (.member (.required (.named fun severity => by cases severity <;> rfl)) <|
      .member (.required (.named fun category => by cases category <;> rfl)) <|
      .member (.required .text) <|
      .member (.required .text)
      .done)
    (by decide) (fun _ => rfl) fun _ => rfl

/-- Findings are restored, in their order. -/
theorem Findings.codec_restores : Findings.codec.Restores id :=
  Finding.codec_restores.items

/-- The header of every message and every list of findings come back from both of their texts as
they were written. Whatever profile looks at the header that came back therefore finds the same as
on the one that was written. -/
theorem messages_and_findings_read_back :
    (∀ message : UserMessage,
      UserMessage.codec.ofText (UserMessage.codec.toText message) = .ok message ∧
      UserMessage.codec.ofText (UserMessage.codec.encode message).indented = .ok message ∧
      ∀ profile : Profile,
        (UserMessage.codec.ofText (UserMessage.codec.toText message)).map
            profile.checkUserMessage = .ok (profile.checkUserMessage message)) ∧
    (∀ message : SignalMessage,
      SignalMessage.codec.ofText (SignalMessage.codec.toText message) = .ok message ∧
      SignalMessage.codec.ofText (SignalMessage.codec.encode message).indented = .ok message ∧
      ∀ profile : Profile,
        (SignalMessage.codec.ofText (SignalMessage.codec.toText message)).map
            profile.checkSignalMessage = .ok (profile.checkSignalMessage message)) ∧
    ∀ findings : Findings,
      Findings.codec.ofText (Findings.codec.toText findings) = .ok findings ∧
      Findings.codec.ofText (Findings.codec.encode findings).indented = .ok findings := by
  refine ⟨?user, ?signal, Findings.codec_restores.ofText_written⟩
  case user =>
    intro message
    obtain ⟨hcompact, hindented⟩ := UserMessage.codec_restores.ofText_written message
    exact ⟨hcompact, hindented, fun profile => by rw [hcompact]; rfl⟩
  case signal =>
    intro message
    obtain ⟨hcompact, hindented⟩ := SignalMessage.codec_restores.ofText_written message
    exact ⟨hcompact, hindented, fun profile => by rw [hcompact]; rfl⟩

end Ebms
