import MultideviceClient.Foundations.Link
import MultideviceClient.Libthreema

/-!
# The chat server connection

`CspProtocolRunner` owns the TCP stream to the chat server and libthreema's
protocol state (`CspProtocol`, a parameter).  Its payload flow is a loop that
polls the protocol, waits for bytes or for an outgoing payload when there is
nothing to poll, and processes one instruction at a time.

The loop is a machine.  `CspPc` says where the task is suspended, or that it is
at the top of the loop, and a label says what ends the suspension.  Everything
between two suspensions is one step.  The loop receives from `queues.outgoing`
only in its `select!`, so not while it forwards a payload, nor while the
protocol has frames to poll.
-/

namespace MultideviceClient

open Foundations

/-! ## Payloads -/

/-- `MessageWithMetadataBox`, an encrypted message. -/
structure MessageWithMetadataBox where
  box : Bytes
deriving DecidableEq, Repr

/-- `MessageAck`. -/
structure MessageAck where
  ack : Bytes
deriving DecidableEq, Repr

/-- `IncomingPayloadForCspE2e`. -/
inductive IncomingPayloadForCspE2e where
  | message (message : MessageWithMetadataBox)
  | messageAck (messageAck : MessageAck)
deriving DecidableEq, Repr

/-- `OutgoingPayloadForCspE2e`. -/
inductive OutgoingPayloadForCspE2e where
  | messageAck (messageAck : MessageAck)
  | unblockIncomingMessages
deriving DecidableEq, Repr

/-- `csp::payload::IncomingPayload`. -/
inductive CspIncomingPayload where
  | echoRequest (payload : Bytes)
  | echoResponse (payload : Bytes)
  | messageWithMetadataBox (payload : MessageWithMetadataBox)
  | messageAck (payload : MessageAck)
  | queueSendComplete
  | deviceCookieChangeIndication
  | closeError
  | serverAlert
  | unknownPayload
deriving DecidableEq, Repr

/-- `csp::payload::OutgoingPayload`, with the payloads the client sends. -/
inductive CspOutgoingPayload where
  | echoResponse (payload : Bytes)
  | messageAck (messageAck : MessageAck)
  | unblockIncomingMessages
deriving DecidableEq, Repr

/-- `From<OutgoingPayloadForCspE2e>`. -/
def OutgoingPayloadForCspE2e.toOutgoingPayload : OutgoingPayloadForCspE2e → CspOutgoingPayload
  | .messageAck ack => .messageAck ack
  | .unblockIncomingMessages => .unblockIncomingMessages

/-- `CspStateUpdate`, with the update that ends the handshake. -/
inductive CspStateUpdate where
  | postHandshake
  | other
deriving DecidableEq, Repr

/-- `CspInstruction`. -/
structure CspInstruction where
  stateUpdate : Option CspStateUpdate
  incomingPayload : Option CspIncomingPayload
  outgoingFrame : Option Bytes
deriving DecidableEq, Repr

/-- libthreema's `CspProtocol`. -/
structure CspProtocol where
  State : Type
  nextRequiredLength : State → Except String Nat
  poll : State → Except String (Option CspInstruction × State)
  addChunks : State → Bytes → Except String State
  createPayload : State → CspOutgoingPayload → Except String (CspInstruction × State)

/-! ## The runner -/

/-- The outcome of `try_read` on a readable stream. -/
inductive TryRead where
  /-- `Ok(0)`. -/
  | closed
  /-- Some bytes, as many as the read buffer holds at most. -/
  | bytes (bytes : Bytes)
  | wouldBlock
  | error (message : String)
deriving DecidableEq, Repr

/-- Where the payload flow is. -/
inductive CspPc where
  /-- At the top of the loop, with `next_instruction`. -/
  | top (nextInstruction : Option CspInstruction)
  /-- Suspended in `select!`. -/
  | select
  /-- Suspended in `queues.incoming.send`.  The frame and the next instruction
  come after. -/
  | forward (payload : IncomingPayloadForCspE2e) (outgoingFrame : Option Bytes)
  /-- Suspended in `self.send`. -/
  | write (frame : Bytes) (nextInstruction : Option CspInstruction)
  /-- `run_payload_flow` has returned. -/
  | returned (result : Except String Unit)

/-- `CspProtocolRunner` in its payload flow. -/
structure CspRunner (P : CspProtocol) where
  protocol : P.State
  pc : CspPc

/-- What ends a suspension of the payload flow. -/
inductive CspLabel where
  /-- Nothing: the loop goes on from its top. -/
  | turn
  /-- The stream is readable. -/
  | readable (read : TryRead)
  /-- `queues.outgoing.recv` completes, with `none` when the channel is closed. -/
  | recvOutgoing (payload : Option OutgoingPayloadForCspE2e)
  /-- `queues.incoming.send` completes. -/
  | sentIncoming (payload : IncomingPayloadForCspE2e)
  /-- `queues.incoming.send` fails, since the receiver is gone. -/
  | sendFailed
  /-- `write_all` completes or fails. -/
  | written (error : Option String)
deriving DecidableEq, Repr

namespace CspRunner

variable {P : CspProtocol}

/-- `try_receive`. -/
def tryReceive : TryRead → Except String Bytes
  | .closed => .ok []
  | .bytes bytes => .ok bytes
  | .wouldBlock => .ok []
  | .error message => .error message

/-- The end of an iteration: send the frame, if there is one. -/
def finish (outgoingFrame : Option Bytes) (nextInstruction : Option CspInstruction) : CspPc :=
  match outgoingFrame with
  | some frame => .write frame nextInstruction
  | none => .top nextInstruction

/-- The processing of the current instruction. -/
def process (self : CspRunner P) (instruction : CspInstruction) : CspRunner P :=
  if instruction.stateUpdate.isSome then
    { self with pc := .returned (.error "Unexpected state update after handshake") }
  else
    match instruction.incomingPayload with
    | some (.echoRequest payload) =>
        match P.createPayload self.protocol (.echoResponse payload) with
        | .error message => { self with pc := .returned (.error message) }
        | .ok (nextInstruction, protocol) =>
            { protocol := protocol
              pc := finish instruction.outgoingFrame (some nextInstruction) }
    | some (.messageWithMetadataBox payload) =>
        { self with pc := .forward (.message payload) instruction.outgoingFrame }
    | some (.messageAck payload) =>
        { self with pc := .forward (.messageAck payload) instruction.outgoingFrame }
    | _ => { self with pc := finish instruction.outgoingFrame none }

/-- The loop from its top to the next suspension. -/
def turn (self : CspRunner P) : Option CspInstruction → CspRunner P
  | some instruction => self.process instruction
  | none =>
      match P.poll self.protocol with
      | .error message => { self with pc := .returned (.error message) }
      | .ok (none, protocol) => { protocol := protocol, pc := .select }
      | .ok (some instruction, protocol) => process { self with protocol := protocol } instruction

/-- The step of a label.  A read gives at most 8192 bytes. -/
def next (self : CspRunner P) : CspLabel → Option (CspRunner P)
  | .turn =>
      match self.pc with
      | .top nextInstruction => some (self.turn nextInstruction)
      | _ => none
  | .readable read =>
      match self.pc, tryReceive read with
      | .select, .error message => some { self with pc := .returned (.error message) }
      | .select, .ok bytes =>
          if bytes.length ≤ 8192 then
            match P.addChunks self.protocol bytes with
            | .error message => some { self with pc := .returned (.error message) }
            | .ok protocol => some { protocol := protocol, pc := .top none }
          else none
      | _, _ => none
  | .recvOutgoing payload =>
      match self.pc, payload with
      | .select, none => some { self with pc := .returned (.ok ()) }
      | .select, some payload =>
          match P.createPayload self.protocol payload.toOutgoingPayload with
          | .error message => some { self with pc := .returned (.error message) }
          | .ok (instruction, protocol) =>
              some (process { self with protocol := protocol } instruction)
      | _, _ => none
  | .sentIncoming payload =>
      match self.pc with
      | .forward payload' outgoingFrame =>
          if payload' = payload then some { self with pc := finish outgoingFrame none } else none
      | _ => none
  | .sendFailed =>
      match self.pc with
      | .forward _ _ => some { self with pc := .returned (.error "channel closed") }
      | _ => none
  | .written error =>
      match self.pc, error with
      | .write _ nextInstruction, none => some { self with pc := .top nextInstruction }
      | .write _ _, some message => some { self with pc := .returned (.error message) }
      | _, _ => none

/-- The runner forwards a payload. -/
def forwarding (self : CspRunner P) : Bool :=
  match self.pc with
  | .forward _ _ => true
  | _ => false

end CspRunner

/-- What a label does to the channels between the runner and the E2E driver. -/
def CspLabel.port : CspLabel → Port IncomingPayloadForCspE2e OutgoingPayloadForCspE2e
  | .sentIncoming payload => .send payload
  | .recvOutgoing (some payload) => .recv payload
  | _ => .idle

/-- The runner as a party of its link with the E2E driver. -/
def CspRunner.party (P : CspProtocol) :
    Party (CspRunner P) CspLabel IncomingPayloadForCspE2e OutgoingPayloadForCspE2e where
  next := CspRunner.next
  port := CspLabel.port
  sending := CspRunner.forwarding

/-- Frames are length-prefixed and not encrypted, and every incoming frame is a
message. -/
def CspProtocol.sample : CspProtocol where
  State := Bytes
  nextRequiredLength buffer :=
    match buffer with
    | [] => .ok 1
    | length :: rest => .ok (length.toNat - rest.length)
  poll buffer :=
    match buffer with
    | [] => .ok (none, [])
    | length :: rest =>
        if rest.length < length.toNat then .ok (none, buffer)
        else
          .ok (some
            { stateUpdate := none
              incomingPayload := some (.messageWithMetadataBox ⟨rest.take length.toNat⟩)
              outgoingFrame := none }, rest.drop length.toNat)
  addChunks buffer chunk := .ok (buffer ++ chunk)
  createPayload buffer payload :=
    let frame :=
      match payload with
      | .echoResponse payload => payload
      | .messageAck messageAck => messageAck.ack
      | .unblockIncomingMessages => []
    .ok ({ stateUpdate := none, incomingPayload := none, outgoingFrame := some frame }, buffer)

end MultideviceClient
