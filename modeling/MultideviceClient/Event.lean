import MultideviceClient.Libthreema

/-!
# Events

What the client reports to its embedder.  All of it is plain data.
-/

namespace MultideviceClient

/-- The conversation a message belongs to. -/
inductive Conversation where
  /-- A one-to-one conversation. -/
  | contact (identity : String) (name : Option String)
  /-- A group, named by its creator and an id. -/
  | group (creatorIdentity : String) (groupId : UInt64)
  | distributionList (id : UInt64)
  /-- Notably the conversation of a reflected incoming group message. -/
  | unknown
deriving DecidableEq, Repr

/-- A plain-text message. -/
structure TextMessage where
  timestampMs : UInt64
  /-- The user sent it, from any linked device. -/
  outgoing : Bool
  conversation : Conversation
  /-- Absent when `outgoing`. -/
  senderIdentity : Option String
  senderName : Option String
  text : String
deriving DecidableEq, Repr

/-- Everything the client reports. -/
inductive Event where
  | connected
  | textMessage (message : TextMessage)
deriving DecidableEq, Repr

end MultideviceClient
