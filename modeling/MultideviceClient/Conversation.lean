import MultideviceClient.Event
import MultideviceClient.Store.Contacts

/-!
# Reports of the chat server

`EventConversationProvider` turns the messages that the chat server delivered
into events.  libthreema calls it while it processes a message.  It remembers
the sender and the id of every message it accepted, and reports a message with
a remembered pair no second time.

The event channel is unbounded, and a send on it can only fail once the
embedder has dropped the receiver, which changes nothing here.  So an emission is a
value: the event a call emits, if any.  What becomes of it is up to the client.
-/

namespace MultideviceClient

variable {L : Libthreema}

/-- `contact_name`: the nickname, else the full name, else nothing. -/
def contactName (contacts : ContactStore L) (data : ContactMap) (identity : L.ThreemaId) :
    Option String := do
  let contact ← (contacts.get data identity).toOption.join
  match contact.nickname.filter fun name => !name.isEmpty with
  | some nickname => return nickname
  | none =>
      let fullName := " ".intercalate ([contact.firstName, contact.lastName].filterMap id)
      if !fullName.isEmpty then return fullName else none

/-- `EventConversationProvider`. -/
structure EventConversationProvider (L : Libthreema) where
  contacts : ContactStore L
  seen : Finset (L.ThreemaId × UInt64)

namespace EventConversationProvider

/-- `EventConversationProvider::new`. -/
def new (contacts : ContactStore L) : EventConversationProvider L where
  contacts := contacts
  seen := ∅

/-- `message_is_marked_used`. -/
def messageIsMarkedUsed (self : EventConversationProvider L) (senderIdentity : L.ThreemaId)
    (id : UInt64) : Bool :=
  decide ((senderIdentity, id) ∈ self.seen)

/-- The conversation of a message, with the checks that the trait asks for. -/
def conversation (self : EventConversationProvider L) (data : ContactMap)
    (message : IncomingMessage L) : Except ProviderError Conversation :=
  match message.body with
  | .contact _ => do
      if !(← self.contacts.has data message.senderIdentity) then
        throw (.invalidState "Contact the incoming message refers to does not exist")
      return .contact (L.toText message.senderIdentity)
        (contactName self.contacts data message.senderIdentity)
  | .group groupIdentity _ =>
      return .group (L.toText groupIdentity.creatorIdentity) groupIdentity.groupId

/-- The text of a message, if it is one that is reported. -/
def reportedText : IncomingMessageBody L → Option String
  | .contact (.text text) => some text
  | .group _ (.text text) => some text
  | .contact .other => none
  | .group _ .other => none

/-- `add_or_update_incoming_message`: the provider after the call, and the event
it emits.  An error changes nothing. -/
def addOrUpdateIncomingMessage (self : EventConversationProvider L) (data : ContactMap)
    (message : IncomingMessage L) :
    Except ProviderError (EventConversationProvider L × Option Event) := do
  let conversation ← self.conversation data message
  if (message.senderIdentity, message.id) ∈ self.seen then
    return (self, none)
  let self := { self with seen := insert (message.senderIdentity, message.id) self.seen }
  match reportedText message.body with
  | none => return (self, none)
  | some text =>
      return (self, some (.textMessage {
        timestampMs := message.createdAt
        outgoing := false
        conversation := conversation
        senderIdentity := some (L.toText message.senderIdentity)
        senderName := contactName self.contacts data message.senderIdentity
        text := text }))

/-! ## What a call does -/

/-- A message of a known contact, or of a group. -/
def accepts (self : EventConversationProvider L) (data : ContactMap)
    (message : IncomingMessage L) : Bool :=
  match message.body with
  | .contact _ => decide (message.senderIdentity ≠ self.contacts.userIdentity) &&
      data.containsKey (L.toText message.senderIdentity)
  | .group _ _ => true

/-- The conversation that an accepted message belongs to. -/
def conversationOf (contacts : ContactStore L) (data : ContactMap) (message : IncomingMessage L) :
    Conversation :=
  match message.body with
  | .contact _ => .contact (L.toText message.senderIdentity)
      (contactName contacts data message.senderIdentity)
  | .group groupIdentity _ => .group (L.toText groupIdentity.creatorIdentity) groupIdentity.groupId

/-- The report of an accepted message, if it is a text. -/
def report (contacts : ContactStore L) (data : ContactMap) (message : IncomingMessage L) :
    Option Event :=
  (reportedText message.body).map fun text => .textMessage {
    timestampMs := message.createdAt
    outgoing := false
    conversation := conversationOf contacts data message
    senderIdentity := some (L.toText message.senderIdentity)
    senderName := contactName contacts data message.senderIdentity
    text := text }

variable (self : EventConversationProvider L) (data : ContactMap) (message : IncomingMessage L)

/-- The checks pass for the accepted messages. -/
theorem conversation_accepted (h : self.accepts data message = true) :
    self.conversation data message = .ok (conversationOf self.contacts data message) := by
  unfold accepts at h
  unfold conversation conversationOf
  cases hbody : message.body with
  | group groupIdentity body => rfl
  | contact body =>
      rw [hbody] at h
      simp only [Bool.and_eq_true, decide_eq_true_eq] at h
      simp [ContactStore.has, ContactStore.ensureNotUser_of_ne _ h.1, bind, Except.bind, pure,
        Except.pure, h.2]

/-- Everything a call does to a message of an unknown sender. -/
theorem addOrUpdateIncomingMessage_rejected (h : self.accepts data message = false) :
    ∃ e, self.addOrUpdateIncomingMessage data message = .error e := by
  unfold accepts at h
  unfold addOrUpdateIncomingMessage conversation
  cases hbody : message.body with
  | group groupIdentity body =>
      rw [hbody] at h
      cases h
  | contact body =>
      rw [hbody] at h
      by_cases huser : message.senderIdentity = self.contacts.userIdentity
      · exact ⟨_, by rw [huser, ContactStore.has, ContactStore.ensureNotUser_user]; rfl⟩
      · have hkey : data.containsKey (L.toText message.senderIdentity) = false := by
          simpa [huser] using h
        exact ⟨_, by
          rw [ContactStore.has, ContactStore.ensureNotUser_of_ne _ huser, hkey]
          rfl⟩

/-- Everything a call does to a message it has seen. -/
theorem addOrUpdateIncomingMessage_seen (h : self.accepts data message = true)
    (hseen : (message.senderIdentity, message.id) ∈ self.seen) :
    self.addOrUpdateIncomingMessage data message = .ok (self, none) := by
  unfold addOrUpdateIncomingMessage
  rw [self.conversation_accepted data message h]
  simp [bind, Except.bind, pure, Except.pure, hseen]

/-- Everything a call does to a first message. -/
theorem addOrUpdateIncomingMessage_first (h : self.accepts data message = true)
    (hfirst : (message.senderIdentity, message.id) ∉ self.seen) :
    self.addOrUpdateIncomingMessage data message =
      .ok ({ self with seen := insert (message.senderIdentity, message.id) self.seen },
        report self.contacts data message) := by
  unfold addOrUpdateIncomingMessage report
  rw [self.conversation_accepted data message h]
  cases htext : reportedText message.body <;>
    simp [bind, Except.bind, pure, Except.pure, hfirst]

/-- The messages that are not accepted are rejected. -/
theorem addOrUpdateIncomingMessage_error_iff :
    (∃ e, self.addOrUpdateIncomingMessage data message = .error e) ↔
      self.accepts data message = false := by
  constructor
  · rintro ⟨e, he⟩
    cases haccepts : self.accepts data message with
    | false => rfl
    | true =>
        by_cases hseen : (message.senderIdentity, message.id) ∈ self.seen
        · rw [self.addOrUpdateIncomingMessage_seen data message haccepts hseen] at he
          cases he
        · rw [self.addOrUpdateIncomingMessage_first data message haccepts hseen] at he
          cases he
  · exact self.addOrUpdateIncomingMessage_rejected data message

end EventConversationProvider

end MultideviceClient
