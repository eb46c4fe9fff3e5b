import MultideviceClient.Conversation

/-!
# Reports of sibling devices

`handle_reflected_envelope` turns the envelopes that the mediator reflects from
sibling devices into events.  Decryption and protobuf decoding are parameters.
The conversation and the sender of a message come from the envelope, the names
from the contact store.

As in the provider of the chat server, an emission is a value: the event a call
emits, if any.
-/

namespace MultideviceClient

variable {L : Libthreema}

/-- `conversation`. -/
def conversation (contacts : ContactStore L) (data : ContactMap) :
    Option ConversationId → Conversation
  | some (.contact identity) =>
      .contact identity ((L.parse identity).bind (contactName contacts data))
  | some (.group group) =>
      match L.reflection.groupCreatorTryFrom group with
      | some creatorIdentity => .group (L.toText creatorIdentity) group.groupId
      | none => .unknown
  | some (.distributionList id) => .distributionList id
  | none => .unknown

/-- `is_text_type`. -/
def isTextType (reflection : Reflection L.ThreemaId) (messageType : Int32) : Bool :=
  match reflection.messageTypeTryFrom messageType with
  | some .text | some .groupText => true
  | _ => false

/-- Decrypt and decode a reflected envelope. -/
def openReflectedEnvelope (deviceGroupKey : L.reflection.DeviceGroupKey) (envelope : Bytes) :
    Except String Envelope :=
  match L.reflection.decryptReflectedEnvelope deviceGroupKey envelope with
  | none => .error "Decrypting reflected D2D envelope failed"
  | some plaintext =>
      match L.reflection.decodeEnvelope plaintext with
      | .error _ => .error "Failed to decode d2d.Envelope"
      | .ok envelope => .ok envelope

/-- `handle_reflected_envelope`: the event the call emits. -/
def handleReflectedEnvelope (deviceGroupKey : L.reflection.DeviceGroupKey) (envelope : Bytes)
    (contacts : ContactStore L) (data : ContactMap) : Except String (Option Event) := do
  let envelope ← openReflectedEnvelope deviceGroupKey envelope
  match envelope.content with
  | some (.outgoingMessage message) =>
      if !isTextType L.reflection message.type then
        return none
      match fromUtf8 message.body with
      | none => throw "Outgoing message body is not valid UTF-8"
      | some text =>
          return some (.textMessage {
            timestampMs := message.createdAt
            outgoing := true
            conversation := conversation contacts data message.conversation
            senderIdentity := none
            senderName := none
            text := text })
  | some (.incomingMessage message) =>
      if !isTextType L.reflection message.type then
        return none
      match fromUtf8 message.body with
      | none => throw "Incoming message body is not valid UTF-8"
      | some text =>
          let senderName := (L.parse message.senderIdentity).bind (contactName contacts data)
          -- only a one-to-one text implies its conversation
          let conversation := match L.reflection.messageTypeTryFrom message.type with
            | some .text => Conversation.contact message.senderIdentity senderName
            | _ => .unknown
          return some (.textMessage {
            timestampMs := message.createdAt
            outgoing := false
            conversation := conversation
            senderIdentity := some message.senderIdentity
            senderName := senderName
            text := text })
  | _ => return none

end MultideviceClient
