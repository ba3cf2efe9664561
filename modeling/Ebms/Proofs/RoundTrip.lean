import Ebms.ProcessingMode
import Ebms.Proofs.Json.Document
import Ebms.Proofs.Json.Record

/-!
# Processing modes come back as they were written

Every block of a processing mode is restored member by member. Two things are not kept: the white
space around an identifier that was derived from its parties, and what a span of time has beyond the
whole milliseconds that 64 bits hold. A mode without either is exact and comes back unchanged; every
mode that is read is exact.
-/

namespace Ebms

open Json (Codec)

namespace ModeId

/-- The identifier without white space around it. -/
def trimmed (id : ModeId) : ModeId :=
  ⟨Text.trim id.text, by simp [id.nonblank]⟩

/-- The text of an identifier stands for the identifier without white space around it. -/
theorem ofText_text (id : ModeId) : ofText id.text = .ok id.trimmed :=
  dif_pos id.nonblank

/-- Trimming changes nothing exactly in an identifier without white space around it. -/
theorem trimmed_eq_self_iff (id : ModeId) : id.trimmed = id ↔ Text.trim id.text = id.text := by
  cases id
  simp [trimmed]

/-- An identifier that a text stands for has no white space around it. -/
theorem trimmed_of_ofText {text : String} {id : ModeId} (h : ofText text = .ok id) :
    id.trimmed = id := by
  unfold ofText at h
  split at h
  · cases h
    simp [trimmed]
  · cases h

/-- Identifiers are restored without the white space around them. -/
theorem codec_restores : codec.Restores trimmed where
  decode_encode id := by
    refine Json.bind_eq_ok.mpr ⟨id.text, rfl, ?_⟩
    rw [ofText_text]
  settled reading id h := by
    obtain ⟨text, -, h⟩ := Json.bind_eq_ok.mp h
    split at h
    · rename_i hid
      cases h
      exact trimmed_of_ofText hid
    · cases h
  encode_ne_null _ := Json.noConfusion

end ModeId

namespace Interval

/-- The span in whole milliseconds, as many as 64 bits hold. -/
def rounded (interval : Interval) : Interval :=
  .ofMilliseconds (min (interval.nanoseconds / 1000000) (UInt64.size - 1))

/-- The milliseconds that are written are those of the rounded span. -/
theorem ofMilliseconds_milliseconds (interval : Interval) :
    ofMilliseconds interval.milliseconds.toNat = interval.rounded := by
  have hfits : min (interval.nanoseconds / 1000000) (UInt64.size - 1) < UInt64.size :=
    lt_of_le_of_lt (Nat.min_le_right _ _) (by decide)
  rw [milliseconds, UInt64.toNat_ofNat_of_lt' hfits, rounded]

/-- A span of whole milliseconds that 64 bits hold is rounded already. -/
theorem rounded_ofMilliseconds {n : Nat} (h : n < UInt64.size) :
    (ofMilliseconds n).rounded = ofMilliseconds n := by
  change ofMilliseconds (min (n * 1000000 / 1000000) (UInt64.size - 1)) = _
  rw [Nat.mul_div_cancel n (by decide), Nat.min_eq_left (Nat.le_sub_one_of_lt h)]

/-- Rounding changes nothing exactly in a span of whole milliseconds that 64 bits hold. -/
theorem rounded_eq_self_iff (interval : Interval) :
    interval.rounded = interval ↔ ∃ n < UInt64.size, interval = ofMilliseconds n := by
  constructor
  · intro h
    refine ⟨min (interval.nanoseconds / 1000000) (UInt64.size - 1), ?_, h.symm⟩
    exact lt_of_le_of_lt (Nat.min_le_right _ _) (by decide)
  · rintro ⟨n, hn, rfl⟩
    exact rounded_ofMilliseconds hn

/-- The milliseconds that are read are written again. -/
theorem milliseconds_ofMilliseconds (n : UInt64) : (ofMilliseconds n.toNat).milliseconds = n := by
  change UInt64.ofNat (min (n.toNat * 1000000 / 1000000) (UInt64.size - 1)) = n
  rw [Nat.mul_div_cancel _ (by decide), Nat.min_eq_left (Nat.le_sub_one_of_lt n.toNat_lt_size),
    UInt64.ofNat_toNat]

/-- Spans are restored rounded. -/
theorem codec_restores : codec.Restores rounded :=
  Codec.Restores.word64.map ofMilliseconds_milliseconds milliseconds_ofMilliseconds

example : (ofSeconds 1 999999).rounded = ofMilliseconds 1000 := by decide

end Interval

/-- Flags are restored. -/
theorem Flag.codec_restores : Flag.codec.Restores id :=
  .named fun
    | .set true | .set false | .undefined => rfl

/-- Parties are restored. -/
theorem Party.codec_restores : Party.codec.Restores id :=
  Json.Record.Restores.codec
    (.member (.optional .text) <|
      .member (.required .text) <|
      .member (.required .text)
      .done)
    (by decide) (fun _ => rfl) fun _ => rfl

/-- Protocol blocks are restored. -/
theorem Protocol.codec_restores : Protocol.codec.Restores id :=
  Json.Record.Restores.codec
    (.member (.optional .text) <|
      .member (.defaulted (.named fun version => by cases version <;> rfl) rfl)
      .done)
    (by decide) (fun _ => rfl) fun _ => rfl

/-- Business blocks are restored. -/
theorem BusinessInformation.codec_restores : BusinessInformation.codec.Restores id :=
  Json.Record.Restores.codec
    (.member (.optional .text) <|
      .member (.optional .text) <|
      .member (.optional .text) <|
      .member (.optional .word64) <|
      .member (.optional .text)
      .done)
    (by decide) (fun _ => rfl) fun _ => rfl

/-- Address lists are restored. -/
theorem AddressList.codec_restores : AddressList.codec.Restores id :=
  Codec.Restores.map Codec.Restores.text.list (fun list => by simp) fun _ => rfl

/-- Error handling blocks are restored. -/
theorem ErrorHandling.codec_restores : ErrorHandling.codec.Restores id :=
  Json.Record.Restores.codec
    (.member (.optional AddressList.codec_restores) <|
      .member (.optional AddressList.codec_restores) <|
      .member (.defaulted Flag.codec_restores rfl) <|
      .member (.defaulted Flag.codec_restores rfl) <|
      .member (.defaulted Flag.codec_restores rfl) <|
      .member (.defaulted Flag.codec_restores rfl)
      .done)
    (by decide) (fun _ => rfl) fun _ => rfl

/-- Reliability blocks are restored. -/
theorem Reliability.codec_restores : Reliability.codec.Restores id :=
  Json.Record.Restores.codec
    (.member (.defaulted Flag.codec_restores rfl) <|
      .member (.defaulted Flag.codec_restores rfl) <|
      .member (.defaulted Flag.codec_restores rfl) <|
      .member (.defaulted Flag.codec_restores rfl) <|
      .member (.listed .text)
      .done)
    (by decide) (fun _ => rfl) fun _ => rfl

/-- Security blocks are restored. -/
theorem Security.codec_restores : Security.codec.Restores id :=
  Json.Record.Restores.codec
    (.member (.optional (.named fun version => by cases version <;> rfl)) <|
      .member (.optional .text) <|
      .member (.optional (.named fun algorithm => by cases algorithm <;> rfl)) <|
      .member (.optional (.named fun algorithm => by cases algorithm <;> rfl)) <|
      .member (.optional .text) <|
      .member (.optional (.named fun algorithm => by cases algorithm <;> rfl)) <|
      .member (.optional .word32) <|
      .member (.defaulted Flag.codec_restores rfl) <|
      .member (.defaulted Flag.codec_restores rfl) <|
      .member (.defaulted Flag.codec_restores rfl) <|
      .member (.optional (.named fun pattern => by cases pattern <;> rfl))
      .done)
    (by decide) (fun _ => rfl) fun _ => rfl

/-- Legs are restored. -/
theorem Leg.codec_restores : Leg.codec.Restores id :=
  Json.Record.Restores.codec
    (.member (.optional Protocol.codec_restores) <|
      .member (.optional BusinessInformation.codec_restores) <|
      .member (.optional ErrorHandling.codec_restores) <|
      .member (.optional Reliability.codec_restores) <|
      .member (.optional Security.codec_restores)
      .done)
    (by decide) (fun _ => rfl) fun _ => rfl

/-- Payload blocks are restored. -/
theorem PayloadService.codec_restores : PayloadService.codec.Restores id :=
  Json.Record.Restores.codec
    (.member (.optional (.named fun compression => by cases compression; rfl))
      .done)
    (by decide) (fun _ => rfl) fun _ => rfl

namespace ReceptionAwareness

/-- The block with the time between retries rounded. -/
def settled (awareness : ReceptionAwareness) : ReceptionAwareness :=
  { awareness with retryInterval := awareness.retryInterval.rounded }

/-- Reception awareness blocks are restored with the time between retries rounded. -/
theorem codec_restores : codec.Restores settled :=
  Json.Record.Restores.codec
    (.member (.defaulted Flag.codec_restores rfl) <|
      .member (.defaulted Flag.codec_restores rfl) <|
      .member (.defaulted .word32 rfl) <|
      .member (.defaulted Interval.codec_restores (by decide)) <|
      .member (.defaulted Flag.codec_restores rfl)
      .done)
    (by decide) (fun _ => rfl) fun _ => rfl

/-- A block is settled exactly if the time between retries is rounded. -/
theorem settled_eq_self_iff (awareness : ReceptionAwareness) :
    awareness.settled = awareness ↔
      awareness.retryInterval.rounded = awareness.retryInterval := by
  cases awareness
  simp [settled]

end ReceptionAwareness

namespace ProcessingMode

/-- The mode as it comes back: without white space around its identifier, and with the time between
retries rounded. -/
def settled (mode : ProcessingMode) : ProcessingMode :=
  { mode with
    id := mode.id.trimmed
    receptionAwareness := mode.receptionAwareness.map ReceptionAwareness.settled }

/-- A mode is exact if its identifier has no white space around it and the time between retries, if
there is one, is a number of whole milliseconds that 64 bits hold. -/
def Exact (mode : ProcessingMode) : Prop :=
  Text.trim mode.id.text = mode.id.text ∧
    ∀ awareness ∈ mode.receptionAwareness,
      ∃ n < UInt64.size, awareness.retryInterval = .ofMilliseconds n

/-- Exactly the exact modes come back unchanged. -/
theorem settled_eq_self_iff (mode : ProcessingMode) : mode.settled = mode ↔ mode.Exact := by
  have hparts : mode.settled = mode ↔ mode.id.trimmed = mode.id ∧
      mode.receptionAwareness.map ReceptionAwareness.settled = mode.receptionAwareness := by
    cases mode
    simp [settled]
  rw [hparts, ModeId.trimmed_eq_self_iff, Exact]
  cases mode.receptionAwareness with
  | none => simp
  | some awareness =>
    simp [ReceptionAwareness.settled_eq_self_iff, Interval.rounded_eq_self_iff]

/-- Processing modes are restored in their settled form. -/
theorem codec_restores : codec.Restores settled :=
  Json.Record.Restores.codec
    (.member (.required ModeId.codec_restores) <|
      .member (.required Party.codec_restores) <|
      .member (.required Party.codec_restores) <|
      .member (.optional .text) <|
      .member (.required (.named fun pattern => by cases pattern <;> rfl)) <|
      .member (.required (.named fun binding => by cases binding <;> rfl)) <|
      .member (.nullable Leg.codec_restores) <|
      .member (.optional Leg.codec_restores) <|
      .member (.optional PayloadService.codec_restores) <|
      .member (.optionalMap ReceptionAwareness.codec_restores)
      .done)
    (by decide) (fun _ => rfl) fun _ => rfl

/-- Both texts of a mode, on one line and with one item a line, are read as its settled form. -/
theorem ofText_written (mode : ProcessingMode) :
    codec.ofText (codec.toText mode) = .ok mode.settled ∧
      codec.ofText (codec.encode mode).indented = .ok mode.settled :=
  codec_restores.ofText_written mode

/-- A mode that is read from a document is exact. -/
theorem exact_of_decodeDocument {document : Json.Document} {mode : ProcessingMode}
    (h : codec.decodeDocument document = .ok mode) : mode.Exact := by
  have hread := (Json.Codec.decodeDocument_eq_ok_iff.mp h).1
  exact (settled_eq_self_iff mode).mp (codec_restores.settled _ mode hread)

/-- A mode that is read from a text is exact. -/
theorem exact_of_ofText {text : String} {mode : ProcessingMode}
    (h : codec.ofText text = .ok mode) : mode.Exact :=
  exact_of_decodeDocument h

/-- Both texts of a processing mode are read as the mode in its settled form: the white space around
its identifier is gone, and the time between retries is cut to whole milliseconds that 64 bits hold.
They are read as the mode itself exactly if it is exact, and a mode that was read from any text at
all comes back unchanged from both. -/
theorem reads_back_settled (mode : ProcessingMode) :
    (codec.ofText (codec.toText mode) = .ok mode.settled ∧
      codec.ofText (codec.encode mode).indented = .ok mode.settled) ∧
    (codec.ofText (codec.toText mode) = .ok mode ↔ mode.Exact) ∧
    (codec.ofText (codec.encode mode).indented = .ok mode ↔ mode.Exact) ∧
    ∀ text : String, codec.ofText text = .ok mode →
      codec.ofText (codec.toText mode) = .ok mode ∧
        codec.ofText (codec.encode mode).indented = .ok mode := by
  obtain ⟨hcompact, hindented⟩ := ofText_written mode
  have hexact : (Except.ok mode.settled : Except Json.Mistake ProcessingMode) = .ok mode ↔
      mode.Exact := by
    rw [Except.ok.injEq, settled_eq_self_iff]
  rw [hcompact, hindented]
  refine ⟨⟨rfl, rfl⟩, hexact, hexact, ?_⟩
  intro text htext
  have hsame := hexact.mpr (exact_of_ofText htext)
  exact ⟨hsame, hsame⟩

/-- A mode in the form of an array, with a blank in front of its identifier. -/
def arrayText : String :=
  "[\" P\",[null,\"A\",\"a\"],[null,\"B\",\"b\"],null,\"one_way\",\"push\",null]"

/-- The mode in the form of an array is read without that blank and comes back from both of its
texts. -/
theorem arrayText_reads_back :
    ∃ mode : ProcessingMode, codec.ofText arrayText = .ok mode ∧ mode.id.text = "P" ∧
      codec.ofText (codec.toText mode) = .ok mode ∧
      codec.ofText (codec.encode mode).indented = .ok mode := by
  let mode : ProcessingMode :=
    { id := ⟨"P", by decide⟩
      initiator := { idValue := "A", role := "a" }
      responder := { idValue := "B", role := "b" }
      pattern := .oneWay
      binding := .push
      leg1 := none }
  have hread : codec.ofText arrayText = .ok mode := by rfl
  exact ⟨mode, hread, rfl, (reads_back_settled mode).2.2.2 arrayText hread⟩

end ProcessingMode

end Ebms
