import Ebms.Proofs.Json.Verbatim
import Ebms.Proofs.RoundTrip
import Ebms.Proofs.Structure

/-!
# What a document may bring in

Parties and address lists that are made from texts hold trimmed texts that are not empty. Those that
are read hold what the document says, as it stands, and the check of a mode's structure refuses a
party only if its identifier is blank. So a mode that is read and sound in structure is like one
that is made exactly if its document says trimmed texts in these places; and since every exact mode
is read from some document, any other texts can come in.
-/

namespace Ebms

open Json (Codec)

/-- A text that is not empty and has no white space around it. -/
structure Text.Trimmed (text : String) : Prop where
  nonempty : text ≠ ""
  trim_eq : Text.trim text = text

namespace Text

instance (text : String) : Decidable (Trimmed text) :=
  decidable_of_iff (text ≠ "" ∧ trim text = text) ⟨fun h => ⟨h.1, h.2⟩, fun h => ⟨h.1, h.2⟩⟩

/-- What is left of a text that is not blank is trimmed. -/
theorem trimmed_trim {text : String} (h : isBlank text = false) : Trimmed (trim text) where
  nonempty hempty := by
    rw [← isBlank_trim, hempty] at h
    cases h
  trim_eq := trim_trim text

end Text

/-- The type and the identifier of a party are trimmed. -/
structure Party.Normal (party : Party) : Prop where
  idType : ∀ idType ∈ party.idType, Text.Trimmed idType
  idValue : Text.Trimmed party.idValue

/-- All addresses of a list are trimmed. -/
def AddressList.Normal (list : AddressList) : Prop :=
  ∀ address ∈ list.addresses, Text.Trimmed address

/-- Both address lists of an error handling block are trimmed, if they are there. -/
structure ErrorHandling.Normal (handling : ErrorHandling) : Prop where
  senderErrorsTo : ∀ list ∈ handling.senderErrorsTo, list.Normal
  receiverErrorsTo : ∀ list ∈ handling.receiverErrorsTo, list.Normal

/-- The address lists of a leg are trimmed, if they are there. -/
def Leg.Normal (leg : Leg) : Prop :=
  ∀ handling ∈ leg.errorHandling, handling.Normal

/-- The parties and the address lists of a mode are like those that are made from texts. -/
structure ProcessingMode.Normal (mode : ProcessingMode) : Prop where
  initiator : mode.initiator.Normal
  responder : mode.responder.Normal
  leg1 : ∀ leg ∈ mode.leg1, leg.Normal
  leg2 : ∀ leg ∈ mode.leg2, leg.Normal

namespace Party

/-- A party that is made from an identifier is normal. -/
theorem normal_of_ofId {idValue role : String} {party : Party} (h : ofId idValue role = .ok party) :
    party.Normal := by
  unfold ofId at h
  split at h
  · cases h
  · rename_i hblank
    cases h
    exact ⟨nofun, Text.trimmed_trim (Bool.not_eq_true _ ▸ hblank)⟩

/-- Whatever the type of a normal party is set to, the party is normal. -/
theorem Normal.withIdType {party : Party} (h : party.Normal) (idType : String) :
    (party.withIdType idType).Normal where
  idType := by
    intro set hset
    rw [Party.withIdType] at hset
    split at hset
    · cases hset
    · rename_i hblank
      cases hset
      exact Text.trimmed_trim (Bool.not_eq_true _ ▸ hblank)
  idValue := h.idValue

/-- Types and identifiers are taken as they stand. -/
theorem codec_takes :
    (codec.Takes [("id_type", 0)] fun party => party.idType.elim [] fun idType => [idType]) ∧
      codec.Takes [("id_value", 1)] fun party => [party.idValue] :=
  ⟨.member .first (.absentable .text) fun _ => rfl,
    .member (.later .first) (.required .text) fun _ => rfl⟩

end Party

/-- An address list that is made from texts is normal. -/
theorem AddressList.normal_ofTexts (texts : List String) : (ofTexts texts).Normal := by
  intro address haddress
  obtain ⟨text, htext, rfl⟩ := List.mem_map.mp haddress
  have hkept := (List.mem_filter.mp htext).2
  exact Text.trimmed_trim (by simpa using hkept)

/-- Addresses are taken as they stand. -/
theorem AddressList.codec_takes : codec.Takes [] AddressList.addresses := by
  intro reading list hread
  obtain ⟨texts, htexts, rfl⟩ := Json.map_eq_ok.mp hread
  exact Codec.Takes.list reading texts htexts

/-- The addresses for both kinds of errors are taken as they stand. -/
theorem ErrorHandling.codec_takes :
    (codec.Takes [("report_sender_errors_to", 0)] fun handling =>
      handling.senderErrorsTo.elim [] AddressList.addresses) ∧
    codec.Takes [("report_receiver_errors_to", 1)] fun handling =>
      handling.receiverErrorsTo.elim [] AddressList.addresses :=
  ⟨.member .first (.absentable AddressList.codec_takes) fun _ => rfl,
    .member (.later .first) (.absentable AddressList.codec_takes) fun _ => rfl⟩

/-- A leg takes texts as its error handling block does. -/
theorem Leg.codec_takes {path : List (String × Nat)} {texts : ErrorHandling → List String}
    (h : ErrorHandling.codec.Takes path texts) :
    codec.Takes (("error_handling", 2) :: path) fun leg => leg.errorHandling.elim [] texts :=
  .member (.later (.later .first)) (.absentable h) fun _ => rfl

/-- A place for texts: where a document says them and where a mode holds them. -/
structure TextPlace where
  path : List (String × Nat)
  held : ProcessingMode → List String

namespace TextPlace

/-- The places in a party that is some member of a mode. -/
def ofParty (name : String) (position : Nat) (part : ProcessingMode → Party) : List TextPlace :=
  [⟨[(name, position), ("id_type", 0)], fun mode =>
      (part mode).idType.elim [] fun idType => [idType]⟩,
    ⟨[(name, position), ("id_value", 1)], fun mode => [(part mode).idValue]⟩]

/-- The places in a leg that is some member of a mode. -/
def ofLeg (name : String) (position : Nat) (part : ProcessingMode → Option Leg) : List TextPlace :=
  [⟨[(name, position), ("error_handling", 2), ("report_sender_errors_to", 0)], fun mode =>
      (part mode).elim [] fun leg => leg.errorHandling.elim [] fun handling =>
        handling.senderErrorsTo.elim [] AddressList.addresses⟩,
    ⟨[(name, position), ("error_handling", 2), ("report_receiver_errors_to", 1)], fun mode =>
      (part mode).elim [] fun leg => leg.errorHandling.elim [] fun handling =>
        handling.receiverErrorsTo.elim [] AddressList.addresses⟩]

/-- The places of all texts that are trimmed when a mode is made. -/
def all : List TextPlace :=
  ofParty "initiator" 1 ProcessingMode.initiator ++ ofParty "responder" 2 ProcessingMode.responder ++
    ofLeg "leg1" 6 ProcessingMode.leg1 ++ ofLeg "leg2" 7 ProcessingMode.leg2

/-- Texts that come with something are all trimmed if they are wherever it is there. -/
theorem trimmed_elim_iff {α : Type} {value : Option α} {texts : α → List String} :
    (∀ text ∈ value.elim [] texts, Text.Trimmed text) ↔
      ∀ held ∈ value, ∀ text ∈ texts held, Text.Trimmed text := by
  cases value <;> simp

/-- The texts in the places in a party are trimmed exactly if the party is normal. -/
theorem trimmed_ofParty_iff {name : String} {position : Nat} {part : ProcessingMode → Party}
    {mode : ProcessingMode} :
    (∀ place ∈ ofParty name position part, ∀ text ∈ place.held mode, Text.Trimmed text) ↔
      (part mode).Normal := by
  rw [ofParty, List.forall_mem_cons, List.forall_mem_singleton, trimmed_elim_iff]
  simp only [List.forall_mem_singleton]
  exact ⟨fun h => ⟨h.1, h.2⟩, fun h => ⟨h.idType, h.idValue⟩⟩

/-- The texts in the places in a leg are trimmed exactly if the leg, if it is there, is normal. -/
theorem trimmed_ofLeg_iff {name : String} {position : Nat} {part : ProcessingMode → Option Leg}
    {mode : ProcessingMode} :
    (∀ place ∈ ofLeg name position part, ∀ text ∈ place.held mode, Text.Trimmed text) ↔
      ∀ leg ∈ part mode, leg.Normal := by
  rw [ofLeg, List.forall_mem_cons, List.forall_mem_singleton]
  simp only [trimmed_elim_iff]
  constructor
  · rintro ⟨hsender, hreceiver⟩ leg hleg handling hhandling
    exact ⟨hsender leg hleg handling hhandling, hreceiver leg hleg handling hhandling⟩
  · intro h
    exact ⟨fun leg hleg handling hhandling => (h leg hleg handling hhandling).senderErrorsTo,
      fun leg hleg handling hhandling => (h leg hleg handling hhandling).receiverErrorsTo⟩

end TextPlace

namespace ProcessingMode

/-- In the places in a party texts are taken as they stand if the mode takes those of the party. -/
theorem codec_takes_ofParty {name : String} {position : Nat} {part : ProcessingMode → Party}
    (h : ∀ path texts, Party.codec.Takes path texts →
      codec.Takes ((name, position) :: path) fun mode => texts (part mode)) :
    ∀ place ∈ TextPlace.ofParty name position part, codec.Takes place.path place.held := by
  rw [TextPlace.ofParty, List.forall_mem_cons, List.forall_mem_singleton]
  exact ⟨h _ _ Party.codec_takes.1, h _ _ Party.codec_takes.2⟩

/-- In the places in a leg texts are taken as they stand if the mode takes those of the leg. -/
theorem codec_takes_ofLeg {name : String} {position : Nat} {part : ProcessingMode → Option Leg}
    (h : ∀ path texts, Leg.codec.Takes path texts →
      codec.Takes ((name, position) :: path) fun mode => (part mode).elim [] texts) :
    ∀ place ∈ TextPlace.ofLeg name position part, codec.Takes place.path place.held := by
  rw [TextPlace.ofLeg, List.forall_mem_cons, List.forall_mem_singleton]
  exact ⟨h _ _ (Leg.codec_takes ErrorHandling.codec_takes.1),
    h _ _ (Leg.codec_takes ErrorHandling.codec_takes.2)⟩

/-- In all of these places texts are taken as they stand. -/
theorem codec_takes : ∀ place ∈ TextPlace.all, codec.Takes place.path place.held := by
  rw [TextPlace.all]
  simp only [List.forall_mem_append]
  refine ⟨⟨⟨?initiator, ?responder⟩, ?leg1⟩, ?leg2⟩
  case initiator =>
    exact codec_takes_ofParty fun _ _ h => .member (.later .first) (.required h) fun _ => rfl
  case responder =>
    exact codec_takes_ofParty fun _ _ h =>
      .member (.later (.later .first)) (.required h) fun _ => rfl
  case leg1 =>
    exact codec_takes_ofLeg fun _ _ h =>
      .member (.later (.later (.later (.later (.later (.later .first)))))) (.absentable h)
        fun _ => rfl
  case leg2 =>
    exact codec_takes_ofLeg fun _ _ h =>
      .member (.later (.later (.later (.later (.later (.later (.later .first))))))) (.absentable h)
        fun _ => rfl

/-- A mode is normal exactly if all texts in these places are trimmed. -/
theorem normal_iff (mode : ProcessingMode) :
    mode.Normal ↔ ∀ place ∈ TextPlace.all, ∀ text ∈ place.held mode, Text.Trimmed text := by
  rw [TextPlace.all]
  simp only [List.forall_mem_append, TextPlace.trimmed_ofParty_iff, TextPlace.trimmed_ofLeg_iff]
  constructor
  · rintro ⟨hinitiator, hresponder, hleg1, hleg2⟩
    exact ⟨⟨⟨hinitiator, hresponder⟩, hleg1⟩, hleg2⟩
  · rintro ⟨⟨⟨hinitiator, hresponder⟩, hleg1⟩, hleg2⟩
    exact ⟨hinitiator, hresponder, hleg1, hleg2⟩

/-- The modes that are read from documents are the exact ones, whatever texts their parties and
address lists hold. -/
theorem exists_document_iff (mode : ProcessingMode) :
    (∃ document, codec.decodeDocument document = .ok mode) ↔ mode.Exact := by
  constructor
  · rintro ⟨document, hread⟩
    exact exact_of_decodeDocument hread
  · intro hexact
    have hread : codec.ofText (codec.toText mode) = .ok mode.settled := mode.ofText_written.1
    rw [(settled_eq_self_iff mode).mpr hexact] at hread
    exact ⟨.ofText (codec.toText mode), hread⟩

/-- A mode that is read and sound in structure has parties whose identifiers are not blank.
Otherwise its parties and address lists hold the texts that the document says, as they stand. So
they are like those that are made from texts exactly if all these texts are trimmed in the
document. -/
theorem normal_iff_of_read {document : Json.Document} {mode : ProcessingMode}
    (hread : codec.decodeDocument document = .ok mode) (hsound : mode.checkStructure = .ok ()) :
    (Text.isBlank mode.initiator.idValue = false ∧ Text.isBlank mode.responder.idValue = false) ∧
    (∀ place ∈ TextPlace.all, place.held mode = document.root.textsAt place.path) ∧
    (mode.Normal ↔
      ∀ place ∈ TextPlace.all, ∀ text ∈ document.root.textsAt place.path, Text.Trimmed text) := by
  have hheld : ∀ place ∈ TextPlace.all, place.held mode = document.root.textsAt place.path :=
    fun place hplace => (codec_takes place hplace).decodeDocument hread
  refine ⟨?nonblank, hheld, ?normal⟩
  case nonblank =>
    obtain ⟨hinitiator, hresponder, -⟩ := mode.checkStructure_eq_ok_iff.mp hsound
    exact ⟨hinitiator, hresponder⟩
  case normal =>
    rw [normal_iff]
    refine forall₂_congr fun place hplace => ?_
    rw [hheld place hplace]

/-- A mode in the form of an array whose texts are all trimmed. -/
def trimmedText : String :=
  "[\"A-B\",[null,\"A\",\"r\"],[\"t\",\"B\",\"r\"],null,\"one_way\",\"push\",[null,null,[[\"x@y\"]]]]"

/-- The mode that is read from this text is normal because the text says nothing else. -/
theorem normal_of_trimmedText :
    ∃ mode, codec.ofText trimmedText = .ok mode ∧ mode.checkStructure = .ok () ∧
      (∀ place ∈ TextPlace.all,
        place.held mode = (Json.Document.ofText trimmedText).root.textsAt place.path) ∧
      mode.Normal := by
  let mode : ProcessingMode :=
    { id := ⟨"A-B", by decide⟩
      initiator := { idValue := "A", role := "r" }
      responder := { idType := some "t", idValue := "B", role := "r" }
      pattern := .oneWay
      binding := .push
      leg1 := some { errorHandling := some { senderErrorsTo := some ⟨["x@y"]⟩ } } }
  have hread : codec.ofText trimmedText = .ok mode := by decide +kernel
  obtain ⟨-, hheld, hnormal⟩ := normal_iff_of_read hread (by decide +kernel)
  exact ⟨mode, hread, by decide +kernel, hheld, hnormal.mpr (by decide +kernel)⟩

/-- A mode with white space around its texts, in places where none is left when a mode is made. -/
def paddedText : String :=
  "[\"A-B\",[\" \",\" A \",\"r\"],[null,\"B\",\"r\"],null,\"one_way\",\"push\"," ++
    "[null,null,[[\" x@y \",\"\"]]]]"

/-- The mode that is read from this text. -/
def padded : ProcessingMode where
  id := ⟨"A-B", by decide⟩
  initiator := { idType := some " ", idValue := " A ", role := "r" }
  responder := { idValue := "B", role := "r" }
  pattern := .oneWay
  binding := .push
  leg1 := some { errorHandling := some { senderErrorsTo := some ⟨[" x@y ", ""]⟩ } }

/-- The structure of that mode is sound, but an identifier, its type and addresses are none that a
party or an address list that is made from texts could have. -/
theorem padded_not_normal :
    codec.ofText paddedText = .ok padded ∧ padded.checkStructure = .ok () ∧
      ¬ Text.Trimmed padded.initiator.idValue ∧
      (∃ idType ∈ padded.initiator.idType, ¬ Text.Trimmed idType) ∧
      ∃ leg ∈ padded.leg1, ¬ leg.Normal := by
  refine ⟨by decide +kernel, by decide +kernel, by decide +kernel, ⟨" ", rfl, by decide +kernel⟩,
    _, rfl, ?_⟩
  intro hnormal
  have hempty : Text.Trimmed "" :=
    (hnormal _ rfl).senderErrorsTo _ rfl "" (by decide)
  exact hempty.nonempty rfl

end ProcessingMode

end Ebms
