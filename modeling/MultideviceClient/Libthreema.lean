import Mathlib.Data.List.Basic

/-!
# What the client takes from libthreema

libthreema is a dependency that is not part of the repository.  Its data types
that the client only passes on are opaque here, and its functions are
parameters.  A `Libthreema` packs these parameters together with the few laws
the client relies on:

* printing an identity and parsing it back gives the identity
  (`parse_toText`), and an identity prints as its eight bytes;
* a public key survives its hexadecimal text (`fromHex_toText`);
* a prost enumeration survives its raw `i32` (`tryFrom_toI32`).

Decryption, protobuf decoding and the conversion of protobuf group identities
carry no law at all.

`Libthreema.sample` is an instance with eight-character identities, so the laws
are satisfiable.
-/

namespace MultideviceClient

/-- Byte strings. -/
abbrev Bytes := List UInt8

/-! ## UTF-8 -/

/-- `String::from_utf8`. -/
def fromUtf8 (bytes : Bytes) : Option String := String.fromUTF8? ⟨bytes.toArray⟩

/-- The UTF-8 encoding of a text. -/
def utf8 (text : String) : Bytes := text.toByteArray.data.toList

@[simp] theorem fromUtf8_utf8 (text : String) : fromUtf8 (utf8 text) = some text := by
  have h : (⟨(utf8 text).toArray⟩ : ByteArray) = text.toByteArray := by simp [utf8]
  unfold fromUtf8 String.fromUTF8?
  rw [h, dif_pos text.isValidUTF8]
  rfl

/-- A decoded text encodes to the bytes it was decoded from. -/
theorem utf8_of_fromUtf8 {bytes : Bytes} {text : String} (h : fromUtf8 bytes = some text) :
    utf8 text = bytes := by
  unfold fromUtf8 String.fromUTF8? at h
  split at h
  next valid =>
    cases h
    simp [utf8, String.fromUTF8]
  next invalid => cases h

/-! ## Fields of a contact -/

/-- The fields of a contact that hold a prost enumeration. -/
inductive EnumField where
  | verificationLevel
  | workVerificationLevel
  | identityType
  | acquaintanceLevel
  | activityState
  | syncState
  | conversationCategory
  | conversationVisibility
deriving DecidableEq, Repr

/-- The fields of a contact that are not persisted. -/
inductive WorkField where
  | lastFullSyncAt
  | availabilityStatus
  | readReceiptPolicyOverride
  | typingIndicatorPolicyOverride
  | notificationTriggerPolicyOverride
deriving DecidableEq, Repr

/-- An update of an optional field. -/
inductive Delta (α : Type) where
  | unchanged
  | update (value : α)
  | remove
deriving DecidableEq, Repr

/-! ## Envelopes of sibling devices -/

/-- `common::GroupIdentity` as protobuf decodes it. -/
structure ProtobufGroupIdentity where
  creatorIdentity : String
  groupId : UInt64
deriving DecidableEq, Repr

/-- `d2d::conversation_id::Id`. -/
inductive ConversationId where
  | contact (identity : String)
  | group (group : ProtobufGroupIdentity)
  | distributionList (id : UInt64)
deriving DecidableEq, Repr

/-- `d2d::OutgoingMessage`.  The `conversation` is absent when the message or
its oneof is. -/
structure ReflectedOutgoingMessage where
  conversation : Option ConversationId
  messageId : UInt64
  createdAt : UInt64
  type : Int32
  body : Bytes
deriving DecidableEq, Repr

/-- `d2d::IncomingMessage`. -/
structure ReflectedIncomingMessage where
  senderIdentity : String
  messageId : UInt64
  createdAt : UInt64
  type : Int32
  body : Bytes
deriving DecidableEq, Repr

/-- `d2d::envelope::Content`, with the kinds of content the client handles. -/
inductive Content where
  | outgoingMessage (message : ReflectedOutgoingMessage)
  | incomingMessage (message : ReflectedIncomingMessage)
  | other
deriving DecidableEq, Repr

/-- `d2d::Envelope`. -/
structure Envelope where
  content : Option Content
deriving DecidableEq, Repr

/-- `CspE2eMessageType`, with the two types that carry a plain text. -/
inductive CspE2eMessageType where
  | text
  | groupText
  | other (discriminant : Int32)
deriving DecidableEq, Repr

/-! ## The parameters -/

/-- Identities and public keys. -/
structure Identities where
  ThreemaId : Type
  decEqThreemaId : DecidableEq ThreemaId
  /-- `Display for ThreemaId`. -/
  toText : ThreemaId → String
  /-- `FromStr for ThreemaId`. -/
  parse : String → Option ThreemaId
  parse_toText : ∀ identity, parse (toText identity) = some identity
  toText_length : ∀ identity, (utf8 (toText identity)).length = 8
  PublicKey : Type
  /-- `Display for PublicKey`. -/
  keyToText : PublicKey → String
  /-- `PublicKey::from_hex`. -/
  fromHex : String → Except String PublicKey
  fromHex_keyToText : ∀ key, fromHex (keyToText key) = .ok key

/-- The types of the fields of a contact. -/
structure ContactFields where
  /-- The prost enumeration of a field. -/
  Enum : EnumField → Type
  /-- `value as i32`. -/
  toI32 : {field : EnumField} → Enum field → Int32
  /-- `TryFrom<i32>`. -/
  tryFrom : {field : EnumField} → Int32 → Option (Enum field)
  /-- `Default`. -/
  enumDefault : (field : EnumField) → Enum field
  tryFrom_toI32 : ∀ {field : EnumField} (value : Enum field), tryFrom (toI32 value) = some value
  /-- The type of a field that is not persisted. -/
  Work : WorkField → Type

/-- Decryption and decoding of reflected envelopes. -/
structure Reflection (Identity : Type) where
  DeviceGroupKey : Type
  /-- `DeviceGroupKey::decrypt_reflected_envelope`. -/
  decryptReflectedEnvelope : DeviceGroupKey → Bytes → Option Bytes
  /-- `d2d::Envelope::decode`. -/
  decodeEnvelope : Bytes → Except String Envelope
  /-- `CspE2eMessageType as i32`. -/
  messageTypeToI32 : CspE2eMessageType → Int32
  /-- `CspE2eMessageType::try_from`. -/
  messageTypeTryFrom : Int32 → Option CspE2eMessageType
  messageTypeTryFrom_text : messageTypeTryFrom (messageTypeToI32 .text) = some .text
  messageTypeTryFrom_groupText :
    messageTypeTryFrom (messageTypeToI32 .groupText) = some .groupText
  /-- The creator in `GroupIdentity::try_from` of a protobuf group identity. -/
  groupCreatorTryFrom : ProtobufGroupIdentity → Option Identity

/-- The parameters of the client. -/
structure Libthreema extends Identities, ContactFields where
  reflection : Reflection ThreemaId

attribute [instance] Identities.decEqThreemaId

variable {L : Libthreema}

/-- Two identities that print alike are equal. -/
theorem Libthreema.toText_inj {a b : L.ThreemaId} : L.toText a = L.toText b ↔ a = b := by
  constructor
  · intro h
    have := L.parse_toText a
    rw [h, L.parse_toText b] at this
    exact (Option.some.inj this).symm
  · exact congrArg L.toText

/-! ## Messages of the chat server -/

/-- `GroupIdentity`. -/
structure GroupIdentity (L : Libthreema) where
  creatorIdentity : L.ThreemaId
  groupId : UInt64

/-- `ContactMessageBody`, with the kind the client reports. -/
inductive ContactMessageBody where
  | text (text : String)
  | other
deriving DecidableEq, Repr

/-- `GroupMessageBody`, with the kind the client reports. -/
inductive GroupMessageBody where
  | text (text : String)
  | other
deriving DecidableEq, Repr

/-- `IncomingMessageBody`. -/
inductive IncomingMessageBody (L : Libthreema) where
  | contact (body : ContactMessageBody)
  | group (groupIdentity : GroupIdentity L) (body : GroupMessageBody)

/-- `IncomingMessage`, a message that the chat server delivered. -/
structure IncomingMessage (L : Libthreema) where
  senderIdentity : L.ThreemaId
  id : UInt64
  createdAt : UInt64
  body : IncomingMessageBody L

/-- `ProviderError`. -/
inductive ProviderError where
  | invalidParameter (message : String)
  | invalidState (message : String)
  | foreign (message : String)
deriving DecidableEq, Repr

/-! ## A sample instance -/

/-- Eight upper-case letters, digits or asterisks. -/
def isIdentityText (text : String) : Bool :=
  (utf8 text).length == 8 && (utf8 text).all fun b =>
    (65 ≤ b && b ≤ 90) || (48 ≤ b && b ≤ 57) || b == 42

/-- Sixty-four lower-case hexadecimal digits. -/
def isKeyText (text : String) : Bool :=
  (utf8 text).length == 64 && (utf8 text).all fun b =>
    (97 ≤ b && b ≤ 102) || (48 ≤ b && b ≤ 57)

/-- The number of values of an enumeration. -/
def EnumField.size : EnumField → Nat
  | .verificationLevel => 3
  | .workVerificationLevel => 2
  | .identityType => 2
  | .acquaintanceLevel => 2
  | .activityState => 3
  | .syncState => 3
  | .conversationCategory => 2
  | .conversationVisibility => 3

theorem EnumField.size_pos (field : EnumField) : 0 < field.size := by
  cases field <;> decide

/-- Identities and keys are their texts. -/
def Identities.sample : Identities where
  ThreemaId := { text : String // isIdentityText text = true }
  decEqThreemaId := inferInstance
  toText identity := identity.val
  parse text := if h : isIdentityText text = true then some ⟨text, h⟩ else none
  parse_toText identity := dif_pos identity.property
  toText_length identity := by
    have h := identity.property
    simp only [isIdentityText, Bool.and_eq_true, beq_iff_eq] at h
    exact h.1
  PublicKey := { text : String // isKeyText text = true }
  keyToText key := key.val
  fromHex text := if h : isKeyText text = true then .ok ⟨text, h⟩ else .error "Invalid public key"
  fromHex_keyToText key := dif_pos key.property

def Identities.user : Identities.sample.ThreemaId := ⟨"USERUSER", by decide⟩

def Identities.echo : Identities.sample.ThreemaId := ⟨"ECHOECHO", by decide⟩

/-- Enumerations are their discriminants, counted from zero. -/
def ContactFields.sample : ContactFields where
  Enum field := Fin field.size
  toI32 value := Int32.ofNat value.val
  tryFrom {field} raw :=
    if h : raw.toInt.toNat < field.size then some ⟨raw.toInt.toNat, h⟩ else none
  enumDefault field := ⟨0, field.size_pos⟩
  tryFrom_toI32 {field} value := by
    have hsize : field.size ≤ 3 := by cases field <;> decide
    have hval : (Int32.ofNat value.val).toInt.toNat = value.val := by
      have := value.isLt
      rw [Int32.toInt_ofNat_of_lt (by omega)]
      rfl
    refine (dif_pos (by rw [hval]; exact value.isLt)).trans ?_
    exact congrArg some (Fin.ext hval)
  Work _ := UInt64

/-- Envelopes are not encrypted, and decoded by `decodeEnvelope`. -/
def Reflection.sample {Identity : Type} (decodeEnvelope : Bytes → Except String Envelope)
    (parse : String → Option Identity) : Reflection Identity where
  DeviceGroupKey := Unit
  decryptReflectedEnvelope _ envelope := some envelope
  decodeEnvelope := decodeEnvelope
  messageTypeToI32
    | .text => 1
    | .groupText => 65
    | .other discriminant => discriminant
  messageTypeTryFrom raw :=
    some (if raw = 1 then .text else if raw = 65 then .groupText else .other raw)
  messageTypeTryFrom_text := by decide
  messageTypeTryFrom_groupText := by decide
  groupCreatorTryFrom group := parse group.creatorIdentity

/-- The sample instance. -/
def Libthreema.sample (decodeEnvelope : Bytes → Except String Envelope) : Libthreema where
  toIdentities := Identities.sample
  toContactFields := ContactFields.sample
  reflection := Reflection.sample decodeEnvelope Identities.sample.parse

end MultideviceClient
