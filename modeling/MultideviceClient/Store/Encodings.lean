import MultideviceClient.Foundations.Codec
import MultideviceClient.Store.Contacts
import MultideviceClient.Store.Nonces

/-!
# The encodings of the stores

The stores take three encodings from their dependencies: hexadecimal texts for
nonces, and serde_json for the values of the two files.  `Encodings.sample`
satisfies their laws with decimal numbers and byte strings in place of JSON.
-/

namespace MultideviceClient

open Foundations

/-- The encodings of the client. -/
structure Encodings where
  hex : HexEncoding
  nonceFile : Serde NonceFile
  contactMap : Serde ContactMap

/-- A family of codecs that read the same way.  The text must end with the
value. -/
def Serde.ofCodec {α : Type} (codec : Nat → Codec α)
    (h : ∀ order, (codec 0).get = (codec order).get) : Serde α where
  toWriterPretty order value := (codec order).put value
  fromSlice bytes :=
    match (codec 0).get bytes with
    | some (value, []) => .ok value
    | _ => .error "invalid state"
  fromSlice_toWriterPretty order value := by
    have hget := (codec order).get_put value []
    rw [List.append_nil, ← h order] at hget
    rw [hget]

namespace Codec

def string : Codec String :=
  Codec.bytes.comap utf8 fromUtf8 fromUtf8_utf8

def uint64 : Codec UInt64 :=
  Codec.nat.comap UInt64.toNat (fun n => some (UInt64.ofNat n)) fun n => by simp

def int32 : Codec Int32 :=
  Codec.nat.comap (fun n => n.toUInt32.toNat) (fun n => some ⟨UInt32.ofNat n⟩) fun n => by simp

end Codec

open Codec in
/-- Contacts, field after field. -/
def StoredContact.codec : Codec StoredContact :=
  (string.pair (uint64.pair ((string.option.pair (string.option.pair string.option)).pair
    ((int32.pair (int32.pair (int32.pair int32))).pair
      ((int32.pair (uint64.pair int32)).pair (int32.pair int32)))))).comap
    (fun c => (c.publicKey, c.createdAt, (c.firstName, c.lastName, c.nickname),
      (c.verificationLevel, c.workVerificationLevel, c.identityType, c.acquaintanceLevel),
      (c.activityState, c.featureMask, c.syncState),
      c.conversationCategory, c.conversationVisibility))
    (fun (publicKey, createdAt, (firstName, lastName, nickname),
      (verificationLevel, workVerificationLevel, identityType, acquaintanceLevel),
      (activityState, featureMask, syncState), conversationCategory, conversationVisibility) =>
      some { publicKey, createdAt, firstName, lastName, nickname, verificationLevel,
             workVerificationLevel, identityType, acquaintanceLevel, activityState, featureMask,
             syncState, conversationCategory, conversationVisibility })
    fun _ => rfl

/-- Both sets of a nonce file. -/
def NonceFile.codec (order : Nat) : Codec NonceFile :=
  ((Codec.string.finset order).pair (Codec.string.finset order)).comap
    (fun data => (data.cspE2e, data.d2x))
    (fun sets => some { cspE2e := sets.1, d2x := sets.2 })
    fun _ => rfl

/-- Encodings that satisfy the laws. -/
def Encodings.sample : Encodings where
  hex := .lower
  nonceFile := .ofCodec NonceFile.codec fun _ => rfl
  contactMap := .ofCodec (Codec.string.finmap StoredContact.codec) fun _ => rfl

end MultideviceClient
