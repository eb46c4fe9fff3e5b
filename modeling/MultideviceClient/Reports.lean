import MultideviceClient.D2d
import MultideviceClient.Inbox

/-!
# Two paths to one report

A text message reaches the client through the chat server or, when a sibling
device took it, as a reflected envelope.  Two decoders report it.  This module
says where they agree and how often a message is reported.

*Agreement.*  `reports_agree_iff` compares the two reports of one message.  A
one-to-one text gives the same report on both paths.  A group text never does:
its reflected body starts with the group identity, and the reflected path
reports the whole body as text, or nothing if it is not UTF-8.

*At most once.*  `Reporting` is a run of deliveries on both paths.  Only the
provider of the chat server remembers what it has taken.  So what a run reports
can be read off its deliveries (`Reporting.pairs_exec`): all reflected texts, and
the first texts of the chat server.  No message is reported twice exactly when the
reflected texts are different ones, and no first text of the chat server is
reflected as well (`reports_atMostOnce_iff`).
-/

namespace MultideviceClient

open Foundations

variable {L : Libthreema}

/-! ## What the two paths report -/

/-- The conversation that a reflected incoming message of a type implies. -/
def impliedConversation (message : ReflectedIncomingMessage) (senderName : Option String) :
    Option CspE2eMessageType → Conversation
  | some .text => .contact message.senderIdentity senderName
  | _ => .unknown

/-- The incoming text message in an envelope, with its text, if there is one. -/
def incomingText (deviceGroupKey : L.reflection.DeviceGroupKey) (envelope : Bytes) :
    Option (ReflectedIncomingMessage × String) :=
  match openReflectedEnvelope deviceGroupKey envelope with
  | .ok ⟨some (.incomingMessage message)⟩ =>
      if isTextType L.reflection message.type then
        (fromUtf8 message.body).map fun text => (message, text)
      else none
  | _ => none

theorem incomingText_eq_some {deviceGroupKey : L.reflection.DeviceGroupKey} {envelope : Bytes}
    {message : ReflectedIncomingMessage} {text : String} :
    incomingText deviceGroupKey envelope = some (message, text) ↔
      openReflectedEnvelope deviceGroupKey envelope = .ok ⟨some (.incomingMessage message)⟩ ∧
        isTextType L.reflection message.type = true ∧ fromUtf8 message.body = some text := by
  unfold incomingText
  split
  next message' hopen =>
    rw [hopen]
    by_cases htype : isTextType L.reflection message'.type = true
    · simp only [htype, ↓reduceIte, Option.map_eq_some_iff, Prod.mk.injEq]
      constructor
      · rintro ⟨text', htext, rfl, rfl⟩
        exact ⟨rfl, htype, htext⟩
      · rintro ⟨heq, -, htext⟩
        cases heq
        exact ⟨text, htext, rfl, rfl⟩
    · simp only [htype, Bool.false_eq_true, ↓reduceIte, reduceCtorEq, false_iff]
      rintro ⟨heq, htype', -⟩
      cases heq
      exact htype htype'
  next hother =>
    constructor
    · intro h
      cases h
    · rintro ⟨hopen, -⟩
      exact absurd hopen (hother message)

/-- The report of an envelope with an incoming text message. -/
theorem handleReflectedEnvelope_incoming {deviceGroupKey : L.reflection.DeviceGroupKey}
    {envelope : Bytes} {message : ReflectedIncomingMessage} {text : String}
    (h : incomingText deviceGroupKey envelope = some (message, text)) (contacts : ContactStore L)
    (data : ContactMap) :
    handleReflectedEnvelope deviceGroupKey envelope contacts data =
      .ok (some (.textMessage {
        timestampMs := message.createdAt
        outgoing := false
        conversation := impliedConversation message
          ((L.parse message.senderIdentity).bind (contactName contacts data))
          (L.reflection.messageTypeTryFrom message.type)
        senderIdentity := some message.senderIdentity
        senderName := (L.parse message.senderIdentity).bind (contactName contacts data)
        text := text })) := by
  obtain ⟨hopen, htype, htext⟩ := incomingText_eq_some.mp h
  unfold handleReflectedEnvelope
  rw [hopen]
  simp only [bind, Except.bind, htype, htext, pure, Except.pure]
  rfl

/-- An envelope with an incoming message that is no text is not reported. -/
theorem handleReflectedEnvelope_incoming_none {deviceGroupKey : L.reflection.DeviceGroupKey}
    {envelope : Bytes} {message : ReflectedIncomingMessage}
    (hopen : openReflectedEnvelope deviceGroupKey envelope = .ok ⟨some (.incomingMessage message)⟩)
    (h : incomingText deviceGroupKey envelope = none) (contacts : ContactStore L)
    (data : ContactMap) (event : Event) :
    handleReflectedEnvelope deviceGroupKey envelope contacts data ≠ .ok (some event) := by
  unfold handleReflectedEnvelope
  rw [hopen]
  cases htype : isTextType L.reflection message.type with
  | false =>
      simp [bind, Except.bind, htype, pure, Except.pure]
  | true =>
      cases htext : fromUtf8 message.body with
      | none =>
          simp [bind, Except.bind, htype, htext, throw, throwThe, MonadExceptOf.throw]
      | some text =>
          rw [incomingText_eq_some.mpr ⟨hopen, htype, htext⟩] at h
          cases h

/-! ## Agreement -/

/-- The kinds of text message. -/
inductive TextKind (L : Libthreema) where
  | text
  | groupText (group : GroupIdentity L)

/-- The eight bytes of an integer, the lowest first. -/
def leBytes (n : UInt64) : Bytes :=
  (List.range 8).map fun i => (n >>> UInt64.ofNat (8 * i)).toUInt8

namespace TextKind

/-- The body of the message as the chat server delivers it. -/
def chatBody : TextKind L → String → IncomingMessageBody L
  | .text, content => .contact (.text content)
  | .groupText group, content => .group group (.text content)

/-- The type of the message. -/
def messageType : TextKind L → CspE2eMessageType
  | .text => .text
  | .groupText _ => .groupText

/-- The group identity that comes before the text. -/
def header : TextKind L → Bytes
  | .text => []
  | .groupText group => utf8 (L.toText group.creatorIdentity) ++ leBytes group.groupId

/-- The message as the chat server delivers it. -/
def chat (kind : TextKind L) (sender : L.ThreemaId) (messageId createdAt : UInt64)
    (text : String) : IncomingMessage L where
  senderIdentity := sender
  id := messageId
  createdAt := createdAt
  body := kind.chatBody text

/-- The message as a sibling reflects it. -/
def reflected (kind : TextKind L) (sender : L.ThreemaId) (messageId createdAt : UInt64)
    (text : String) : ReflectedIncomingMessage where
  senderIdentity := L.toText sender
  messageId := messageId
  createdAt := createdAt
  type := L.reflection.messageTypeToI32 kind.messageType
  body := kind.header ++ utf8 text

/-- The conversation of a reflected report may only be unknown for a group. -/
def ConversationAgrees : TextKind L → Conversation → Conversation → Prop
  | .text, chat, reflected => reflected = chat
  | .groupText _, chat, reflected => reflected = chat ∨ reflected = .unknown

/-- Both paths report, and they report the same. -/
def ReportsAgree (kind : TextKind L)
    (chat : Except ProviderError (EventConversationProvider L × Option Event))
    (reflected : Except String (Option Event)) : Prop :=
  ∃ provider message message', chat = .ok (provider, some (.textMessage message)) ∧
    reflected = .ok (some (.textMessage message')) ∧
    message'.text = message.text ∧ message'.timestampMs = message.timestampMs ∧
    message'.senderIdentity = message.senderIdentity ∧
    message'.senderName = message.senderName ∧
    kind.ConversationAgrees message.conversation message'.conversation

theorem header_groupText_ne (group : GroupIdentity L) : (groupText group).header ≠ [] := by
  intro h
  have hlen := congrArg List.length h
  rw [header, List.length_append, L.toText_length] at hlen
  simp at hlen

theorem messageTypeTryFrom_messageType (kind : TextKind L) :
    L.reflection.messageTypeTryFrom (L.reflection.messageTypeToI32 kind.messageType) =
      some kind.messageType := by
  cases kind with
  | text => exact L.reflection.messageTypeTryFrom_text
  | groupText group => exact L.reflection.messageTypeTryFrom_groupText

theorem isTextType_messageType (kind : TextKind L) :
    isTextType L.reflection (L.reflection.messageTypeToI32 kind.messageType) = true := by
  rw [isTextType, messageTypeTryFrom_messageType]
  cases kind <;> rfl

theorem reportedText_chatBody (kind : TextKind L) (text : String) :
    EventConversationProvider.reportedText (kind.chatBody text) = some text := by
  cases kind <;> rfl

/-- A known contact may send both kinds of message. -/
theorem accepts_chat (kind : TextKind L) {self : EventConversationProvider L} {data : ContactMap}
    {sender : L.ThreemaId} (huser : sender ≠ self.contacts.userIdentity)
    (hknown : data.containsKey (L.toText sender) = true) (messageId createdAt : UInt64)
    (text : String) :
    self.accepts data (kind.chat sender messageId createdAt text) = true := by
  cases kind with
  | text => simp [EventConversationProvider.accepts, chat, chatBody, huser, hknown]
  | groupText group => rfl

section

variable (kind : TextKind L) {deviceGroupKey : L.reflection.DeviceGroupKey} {envelope : Bytes}
  {sender : L.ThreemaId} {messageId createdAt : UInt64} {text : String}
  (hopen : openReflectedEnvelope deviceGroupKey envelope =
    .ok ⟨some (.incomingMessage (kind.reflected sender messageId createdAt text))⟩)
include hopen

theorem incomingText_reflected : incomingText deviceGroupKey envelope =
    (fromUtf8 (kind.header ++ utf8 text)).map fun body =>
      (kind.reflected sender messageId createdAt text, body) := by
  simp only [incomingText, hopen]
  exact if_pos kind.isTextType_messageType

/-- The text that is reported of a reflected message is its whole body. -/
theorem reported_reflected {contacts : ContactStore L} {data : ContactMap} {message : TextMessage}
    (h : handleReflectedEnvelope deviceGroupKey envelope contacts data =
      .ok (some (.textMessage message))) :
    fromUtf8 (kind.header ++ utf8 text) = some message.text := by
  have hincoming := kind.incomingText_reflected hopen
  cases hbody : fromUtf8 (kind.header ++ utf8 text) with
  | none =>
      rw [hbody, Option.map_none] at hincoming
      exact absurd h (handleReflectedEnvelope_incoming_none hopen hincoming contacts data _)
  | some body =>
      rw [hbody, Option.map_some] at hincoming
      rw [handleReflectedEnvelope_incoming hincoming] at h
      cases h
      rfl

end

end TextKind

/-- The two paths report a text message of a known contact alike exactly when it
is a one-to-one text. -/
theorem reports_agree_iff (kind : TextKind L) (provider : EventConversationProvider L)
    (data : ContactMap) (deviceGroupKey : L.reflection.DeviceGroupKey)
    (envelope plaintext : Bytes) (sender : L.ThreemaId) (messageId createdAt : UInt64)
    (text : String) (huser : sender ≠ provider.contacts.userIdentity)
    (hknown : data.containsKey (L.toText sender) = true)
    (hfirst : provider.messageIsMarkedUsed sender messageId = false)
    (hdecrypt : L.reflection.decryptReflectedEnvelope deviceGroupKey envelope = some plaintext)
    (hdecode : L.reflection.decodeEnvelope plaintext =
      .ok ⟨some (.incomingMessage (kind.reflected sender messageId createdAt text))⟩) :
    kind.ReportsAgree
        (provider.addOrUpdateIncomingMessage data (kind.chat sender messageId createdAt text))
        (handleReflectedEnvelope deviceGroupKey envelope provider.contacts data) ↔
      kind = .text := by
  have hopen : openReflectedEnvelope deviceGroupKey envelope =
      .ok ⟨some (.incomingMessage (kind.reflected sender messageId createdAt text))⟩ := by
    simp only [openReflectedEnvelope, hdecrypt, hdecode]
  have hchat :=
    provider.addOrUpdateIncomingMessage_first data (kind.chat sender messageId createdAt text)
      (kind.accepts_chat huser hknown messageId createdAt text) (of_decide_eq_false hfirst)
  have htext : EventConversationProvider.reportedText
      (kind.chat sender messageId createdAt text).body = some text :=
    kind.reportedText_chatBody text
  rw [EventConversationProvider.report, htext, Option.map_some] at hchat
  constructor
  · rintro ⟨_, message, message', hm, hm', hsame, -⟩
    cases kind with
    | text => rfl
    | groupText group =>
        have hbody := (TextKind.groupText group).reported_reflected hopen hm'
        rw [hchat] at hm
        cases hm
        -- the reported text starts with the group identity
        rw [show message'.text = text from hsame] at hbody
        have hempty := List.self_eq_append_left.mp (utf8_of_fromUtf8 hbody)
        exact absurd hempty (TextKind.header_groupText_ne group)
  · intro hkind
    subst hkind
    have hbody : fromUtf8 ((TextKind.text : TextKind L).header ++ utf8 text) = some text :=
      fromUtf8_utf8 text
    have hincoming := TextKind.text.incomingText_reflected hopen
    rw [hbody, Option.map_some] at hincoming
    have hreflected := handleReflectedEnvelope_incoming hincoming provider.contacts data
    refine ⟨_, _, _, hchat, hreflected, rfl, rfl, rfl, ?_, ?_⟩
    · simp [TextKind.reflected, TextKind.chat, L.parse_toText]
    · simp [TextKind.ConversationAgrees, impliedConversation, TextKind.reflected, TextKind.chat,
        TextKind.messageType, TextKind.chatBody, EventConversationProvider.conversationOf,
        L.reflection.messageTypeTryFrom_text, L.parse_toText]

/-! ### One text on both paths -/

/-- A text of `ECHOECHO`, on its own and to the group `ABCDEFGH` of `CREATOR1`. -/
def sampleEnvelopes (bytes : Bytes) : Except String Envelope :=
  match bytes with
  | [1] => .ok ⟨some (.incomingMessage
      { senderIdentity := "ECHOECHO", messageId := 7, createdAt := 1700000000000, type := 1,
        body := utf8 "hi" })⟩
  | [2] => .ok ⟨some (.incomingMessage
      { senderIdentity := "ECHOECHO", messageId := 7, createdAt := 1700000000000, type := 65,
        body := utf8 "CREATOR1ABCDEFGHhi" })⟩
  | _ => .error "invalid envelope"

abbrev SampleText : Libthreema := Libthreema.sample sampleEnvelopes

namespace SampleText

def echo : SampleText.ThreemaId := Identities.echo

def group : GroupIdentity SampleText where
  creatorIdentity := ⟨"CREATOR1", by decide⟩
  groupId := 0x4847464544434241

/-- The store of `USERUSER`. -/
def store : ContactStore SampleText := .sample _

/-- The store knows `ECHOECHO`. -/
def contacts : ContactMap := ContactMap.insertContact ∅ (Contact.sample echo)

end SampleText

open SampleText in
/-- The one-to-one text is reported alike on both paths. -/
theorem reports_agree_text :
    TextKind.text.ReportsAgree
      ((EventConversationProvider.new store).addOrUpdateIncomingMessage contacts
        (TextKind.text.chat echo 7 1700000000000 "hi"))
      (handleReflectedEnvelope () [1] store contacts) :=
  (reports_agree_iff .text (.new store) contacts () [1] [1] echo 7 1700000000000 "hi"
    (by decide) (by decide) (by decide) rfl rfl).mpr rfl

open SampleText in
/-- The group text is reported on both paths, with the group identity in the
text of the reflected report. -/
theorem not_reports_agree_groupText :
    echo ≠ store.userIdentity ∧ contacts.containsKey (SampleText.toText echo) = true ∧
      openReflectedEnvelope (L := SampleText) () [2] = .ok ⟨some (.incomingMessage
        ((TextKind.groupText group).reflected echo 7 1700000000000 "hi"))⟩ ∧
      ¬ (TextKind.groupText group).ReportsAgree
        ((EventConversationProvider.new store).addOrUpdateIncomingMessage contacts
          ((TextKind.groupText group).chat echo 7 1700000000000 "hi"))
        (handleReflectedEnvelope () [2] store contacts) := by
  refine ⟨by decide, by decide, by rfl, ?_⟩
  rintro ⟨_, message, message', hchat, hreflected, htext, -⟩
  have hchat' : ((EventConversationProvider.new store).addOrUpdateIncomingMessage contacts
      ((TextKind.groupText group).chat echo 7 1700000000000 "hi")).toOption.bind Prod.snd =
        some (.textMessage {
          timestampMs := 1700000000000
          outgoing := false
          conversation := .group "CREATOR1" 0x4847464544434241
          senderIdentity := some "ECHOECHO"
          senderName := some "adalovelace"
          text := "hi" }) := by decide
  have hreflected' : (handleReflectedEnvelope (L := SampleText) () [2] store contacts).toOption =
      some (some (.textMessage {
        timestampMs := 1700000000000
        outgoing := false
        conversation := .unknown
        senderIdentity := some "ECHOECHO"
        senderName := some "adalovelace"
        text := "CREATOR1ABCDEFGHhi" })) := by decide
  rw [hchat] at hchat'
  rw [hreflected] at hreflected'
  cases hchat'
  cases hreflected'
  exact absurd htext (by decide)

/-! ## At most once -/

/-- The server a report came from. -/
inductive Source where
  | chatServer
  | mediator
deriving DecidableEq, Repr

/-- A reported incoming message, with the identity of its sender and its id. -/
structure Report where
  source : Source
  senderIdentity : String
  messageId : UInt64
  message : TextMessage
deriving DecidableEq, Repr

/-- What names a message. -/
def Report.pair (report : Report) : String × UInt64 := (report.senderIdentity, report.messageId)

/-- Both paths of one process, with everything reported so far. -/
structure Reporting (L : Libthreema) where
  provider : EventConversationProvider L
  deviceGroupKey : L.reflection.DeviceGroupKey
  contacts : ContactMap
  reports : List Report

/-- What reaches the two paths. -/
inductive Delivery (L : Libthreema) where
  /-- libthreema hands a message of the chat server to the provider. -/
  | chat (message : IncomingMessage L)
  /-- The driver handles a reflected envelope. -/
  | reflected (envelope : Bytes)
  /-- The contacts change. -/
  | contacts (data : ContactMap)

namespace Reporting

/-- The report of a reflected envelope, if it has an incoming message. -/
def reportOfEnvelope (s : Reporting L) (envelope : Bytes) : Option Report :=
  match openReflectedEnvelope s.deviceGroupKey envelope,
      handleReflectedEnvelope s.deviceGroupKey envelope s.provider.contacts s.contacts with
  | .ok ⟨some (.incomingMessage message)⟩, .ok (some (.textMessage report)) =>
      some ⟨.mediator, message.senderIdentity, message.messageId, report⟩
  | _, _ => none

/-- One delivery. -/
def next (s : Reporting L) : Delivery L → Reporting L
  | .chat message =>
      match s.provider.addOrUpdateIncomingMessage s.contacts message with
      | .error _ => s
      | .ok (provider, event) =>
          { s with
            provider := provider
            reports := s.reports ++ match event with
              | some (.textMessage report) =>
                  [⟨.chatServer, L.toText message.senderIdentity, message.id, report⟩]
              | _ => [] }
  | .reflected envelope =>
      { s with reports := s.reports ++ (s.reportOfEnvelope envelope).toList }
  | .contacts data => { s with contacts := data }

/-- Deliveries in any order. -/
def machine (L : Libthreema) : Machine (Reporting L) (Delivery L) where
  next s delivery := some (s.next delivery)

/-- A process that has reported nothing. -/
def initial (contacts : ContactStore L) (data : ContactMap)
    (deviceGroupKey : L.reflection.DeviceGroupKey) : Reporting L where
  provider := .new contacts
  deviceGroupKey := deviceGroupKey
  contacts := data
  reports := []

/-- No message is reported twice. -/
def AtMostOnce (s : Reporting L) : Prop := (s.reports.map Report.pair).Nodup

end Reporting

/-! ### What the deliveries name -/

/-- What names an accepted text of the chat server. -/
def Acceptance.textPair (a : Acceptance L) : Option (String × UInt64) :=
  (EventConversationProvider.reportedText a.message.body).map fun _ =>
    (L.toText a.message.senderIdentity, a.message.id)

namespace Delivery

/-- The messages of the chat server that the provider accepts, each with the contacts of
that moment. -/
def accepted (contacts : ContactStore L) : ContactMap → List (Delivery L) → List (Acceptance L)
  | _, [] => []
  | data, .chat message :: rest =>
      if (EventConversationProvider.new contacts).accepts data message then
        ⟨data, message⟩ :: accepted contacts data rest
      else accepted contacts data rest
  | data, .reflected _ :: rest => accepted contacts data rest
  | _, .contacts data :: rest => accepted contacts data rest

/-- What names the first texts of the chat server.  A message that the provider has
accepted before, text or not, is none of them. -/
def firstTexts (contacts : ContactStore L) (data : ContactMap) (deliveries : List (Delivery L)) :
    List (String × UInt64) :=
  (Acceptance.firsts (accepted contacts data deliveries)).filterMap Acceptance.textPair

/-- What names the text of a reflection. -/
def reflectedText (deviceGroupKey : L.reflection.DeviceGroupKey) :
    Delivery L → Option (String × UInt64)
  | .reflected envelope => (incomingText deviceGroupKey envelope).map fun (message, _) =>
      (message.senderIdentity, message.messageId)
  | _ => none

/-- The reflected texts are different ones, and none of them is a first text of the chat
server as well. -/
structure Distinct (contacts : ContactStore L) (data : ContactMap)
    (deviceGroupKey : L.reflection.DeviceGroupKey) (deliveries : List (Delivery L)) : Prop where
  reflected : (deliveries.filterMap (reflectedText deviceGroupKey)).Nodup
  chat : ∀ pair ∈ firstTexts contacts data deliveries,
    pair ∉ deliveries.filterMap (reflectedText deviceGroupKey)

/-- The provider sees to it that the first texts are different ones. -/
theorem nodup_firstTexts (contacts : ContactStore L) (data : ContactMap)
    (deliveries : List (Delivery L)) : (firstTexts contacts data deliveries).Nodup := by
  have hpairwise := (Acceptance.firsts_unseen_pairwise ∅ (accepted contacts data deliveries)).1
  rw [Acceptance.unseen_empty] at hpairwise
  refine hpairwise.filterMap _ ?_
  intro a b hne pair hpair pair' hpair' heq
  obtain ⟨text, -, rfl⟩ := Option.map_eq_some_iff.mp hpair
  obtain ⟨text', -, rfl⟩ := Option.map_eq_some_iff.mp hpair'
  obtain ⟨hsender, hid⟩ := Prod.mk.inj heq
  exact hne (Prod.ext (L.toText_inj.mp hsender) hid)

end Delivery

namespace Reporting

/-! ### What a delivery reports -/

theorem next_chat_rejected {s : Reporting L} {message : IncomingMessage L}
    (h : s.provider.accepts s.contacts message = false) : s.next (.chat message) = s := by
  obtain ⟨e, he⟩ := s.provider.addOrUpdateIncomingMessage_rejected s.contacts message h
  simp only [next, he]

theorem next_chat_seen {s : Reporting L} {message : IncomingMessage L}
    (h : s.provider.accepts s.contacts message = true)
    (hseen : (message.senderIdentity, message.id) ∈ s.provider.seen) :
    s.next (.chat message) = s := by
  have hcall := s.provider.addOrUpdateIncomingMessage_seen s.contacts message h hseen
  simp only [next, hcall, List.append_nil]

/-- A first message is marked, and reported if it is a text. -/
theorem next_chat_first {s : Reporting L} {message : IncomingMessage L}
    (h : s.provider.accepts s.contacts message = true)
    (hfirst : (message.senderIdentity, message.id) ∉ s.provider.seen) :
    ∃ added, s.next (.chat message) =
        { s with
          provider := { s.provider with
            seen := insert (message.senderIdentity, message.id) s.provider.seen }
          reports := s.reports ++ added } ∧
      added.map Report.pair = (Acceptance.textPair ⟨s.contacts, message⟩).toList := by
  have hcall := s.provider.addOrUpdateIncomingMessage_first s.contacts message h hfirst
  rw [EventConversationProvider.report] at hcall
  cases htext : EventConversationProvider.reportedText message.body with
  | none =>
      rw [htext] at hcall
      refine ⟨[], by simp only [next, hcall]; rfl, ?_⟩
      simp [Acceptance.textPair, htext]
  | some text =>
      rw [htext] at hcall
      refine ⟨_, by simp only [next, hcall]; rfl, ?_⟩
      simp [Acceptance.textPair, htext, Report.pair]

/-- A reflection is reported if it is an incoming text. -/
theorem pairs_reflected (s : Reporting L) (envelope : Bytes) :
    (s.reportOfEnvelope envelope).toList.map Report.pair =
      (Delivery.reflectedText s.deviceGroupKey (.reflected envelope)).toList := by
  cases hincoming : incomingText s.deviceGroupKey envelope with
  | some found =>
      obtain ⟨message, text⟩ := found
      have hopen := (incomingText_eq_some.mp hincoming).1
      have hhandle := handleReflectedEnvelope_incoming hincoming s.provider.contacts s.contacts
      simp only [reportOfEnvelope, hopen, hhandle, Delivery.reflectedText, hincoming]
      rfl
  | none =>
      have hnone : s.reportOfEnvelope envelope = none := by
        unfold reportOfEnvelope
        split
        next message report hopen hhandle =>
          exact absurd hhandle (handleReflectedEnvelope_incoming_none hopen hincoming _ _ _)
        next => rfl
      simp only [hnone, Delivery.reflectedText, hincoming]
      rfl

/-- The reports of a run, read off its deliveries: by induction on them, with what the
provider has seen so far. -/
theorem pairs_exec {s s' : Reporting L} {deliveries : List (Delivery L)}
    (hrun : (machine L).exec s deliveries = some s') :
    (s'.reports.map Report.pair).Perm (s.reports.map Report.pair ++
      (deliveries.filterMap (Delivery.reflectedText s.deviceGroupKey) ++
        (Acceptance.firsts (Acceptance.unseen s.provider.seen
          (Delivery.accepted s.provider.contacts s.contacts deliveries))).filterMap
            Acceptance.textPair)) := by
  induction deliveries generalizing s with
  | nil =>
      cases hrun
      simp [Delivery.accepted, Acceptance.unseen, Acceptance.firsts]
  | cons delivery deliveries ih =>
      have hrest : (machine L).exec (s.next delivery) deliveries = some s' := hrun
      have hperm := ih hrest
      cases delivery with
      | chat message =>
          have hacceptsNew : (EventConversationProvider.new s.provider.contacts).accepts
              s.contacts message = s.provider.accepts s.contacts message := rfl
          rw [Delivery.accepted, hacceptsNew]
          cases haccepts : s.provider.accepts s.contacts message with
          | false =>
              rw [next_chat_rejected haccepts] at hperm
              exact hperm
          | true =>
              rw [if_pos rfl]
              by_cases hseen : (message.senderIdentity, message.id) ∈ s.provider.seen
              · rw [next_chat_seen haccepts hseen] at hperm
                rw [Acceptance.unseen_cons_of_mem hseen]
                exact hperm
              · obtain ⟨added, hnext, hadded⟩ := next_chat_first haccepts hseen
                rw [hnext] at hperm
                rw [Acceptance.firsts_unseen_cons hseen]
                refine hperm.trans ?_
                rw [List.map_append, hadded, List.append_assoc]
                refine List.Perm.append_left _ ?_
                rw [List.filterMap_cons (f := Acceptance.textPair)]
                cases Acceptance.textPair ⟨s.contacts, message⟩ with
                | none => exact .refl _
                | some pair =>
                    rw [Option.toList_some, List.singleton_append]
                    exact List.perm_middle.symm
      | reflected envelope =>
          refine hperm.trans (.of_eq ?_)
          have hreports : (s.next (.reflected envelope)).reports.map Report.pair =
              s.reports.map Report.pair ++
                (Delivery.reflectedText s.deviceGroupKey (.reflected envelope)).toList := by
            rw [← s.pairs_reflected envelope, ← List.map_append]
            rfl
          rw [hreports, List.append_assoc, List.filterMap_cons]
          cases Delivery.reflectedText s.deviceGroupKey (.reflected envelope) <;> rfl
      | contacts data => exact hperm

theorem exec_total (s : Reporting L) (deliveries : List (Delivery L)) :
    ∃ s', (machine L).exec s deliveries = some s' := by
  induction deliveries generalizing s with
  | nil => exact ⟨s, rfl⟩
  | cons delivery deliveries ih => exact ih (s.next delivery)

/-- No step takes a report back. -/
theorem reports_next (s : Reporting L) (delivery : Delivery L) :
    s.reports <+: (s.next delivery).reports := by
  cases delivery with
  | chat message =>
      simp only [next]
      split
      next => exact List.prefix_refl _
      next => exact List.prefix_append _ _
  | reflected envelope => exact List.prefix_append _ _
  | contacts data => exact List.prefix_refl _

end Reporting

/-- A run reports every message at most once exactly when its reflected texts are
different ones, and no first text of the chat server is reflected as well. -/
theorem reports_atMostOnce_iff (contacts : ContactStore L) (data : ContactMap)
    (deviceGroupKey : L.reflection.DeviceGroupKey) (deliveries : List (Delivery L)) :
    (Reporting.machine L).Visits Reporting.AtMostOnce
        (.initial contacts data deviceGroupKey) deliveries ↔
      Delivery.Distinct contacts data deviceGroupKey deliveries := by
  obtain ⟨s, hrun⟩ := (Reporting.initial contacts data deviceGroupKey).exec_total deliveries
  rw [(Reporting.machine L).visits_iff_last (fun s delivery s' hl h => ?_) hrun]
  · have hperm := Reporting.pairs_exec hrun
    rw [Reporting.AtMostOnce, hperm.nodup_iff]
    show (deliveries.filterMap _ ++ ((Acceptance.firsts (Acceptance.unseen ∅ _)).filterMap
      Acceptance.textPair)).Nodup ↔ _
    rw [Acceptance.unseen_empty, List.nodup_append]
    constructor
    · rintro ⟨hreflected, -, hne⟩
      exact ⟨hreflected, fun pair hpair hmem => hne pair hmem pair hpair rfl⟩
    · rintro ⟨hreflected, hchat⟩
      refine ⟨hreflected, Delivery.nodup_firstTexts contacts data deliveries, ?_⟩
      rintro pair hmem pair' hpair rfl
      exact hchat pair hpair hmem
  · cases hl
    exact List.Nodup.sublist ((s.reports_next delivery).sublist.map _) h

open SampleText in
/-- The one-to-one text is reported twice on two paths, in either order, and
twice from two reflections.  A reflection leaves it unmarked. -/
theorem reports_not_atMostOnce :
    let text : Delivery SampleText := .chat (TextKind.text.chat echo 7 1700000000000 "hi")
    let initial := Reporting.initial (L := SampleText) store contacts ()
    (initial.next (.reflected [1])).provider.messageIsMarkedUsed echo 7 = false ∧
      ¬ ((initial.next (.reflected [1])).next text).AtMostOnce ∧
      ¬ ((initial.next text).next (.reflected [1])).AtMostOnce ∧
      ¬ ((initial.next (.reflected [1])).next (.reflected [1])).AtMostOnce := by
  unfold Reporting.AtMostOnce
  decide

end MultideviceClient
