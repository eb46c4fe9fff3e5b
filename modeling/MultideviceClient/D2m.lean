import MultideviceClient.Foundations.Link
import MultideviceClient.Libthreema

/-!
# The mediator connection

`D2mProtocolRunner` owns the WebSocket to the mediator and libthreema's protocol
state (`D2mProtocol`, a parameter).  It relays every payload after the handshake
to and from the E2E driver.

As for the chat server, the payload flow is a machine whose states are the
points where the task is suspended (`D2mPc`).  One suspension covers both
branches of the `select!`: the task waits for the next WebSocket message, or to
feed a pong, and for an outgoing payload.  Taking an outgoing payload drops
`self.receive()`, and with it a pong that was not fed yet.
-/

namespace MultideviceClient

open Foundations

/-! ## Payloads -/

/-- `d2m::payload::IncomingPayload`, with the payloads the driver handles. -/
inductive D2mIncomingPayload where
  | reflected (reflectId : UInt32) (envelope : Bytes)
  | rolePromotedToLeader
  | reflectionQueueDry
  | reflectAck (reflectId : UInt32)
  | beginTransactionAck
  | commitTransactionAck
  | transactionRejected (deviceId : UInt64) (encryptedScope : Bytes)
  | transactionEnded (deviceId : UInt64) (encryptedScope : Bytes)
  | other
deriving DecidableEq, Repr

/-- `d2m::payload::OutgoingPayload`, with the payloads the driver sends. -/
inductive D2mOutgoingPayload where
  | beginTransaction (encryptedScope : Bytes) (ttlSeconds : Option UInt32)
  | commitTransaction
  | reflect (ephemeral : Bool) (reflectId : UInt32) (envelope : Bytes)
  | reflectedAck (reflectId : UInt32)
deriving DecidableEq, Repr

/-- `D2mStateUpdate`, with the update that ends the handshake. -/
inductive D2mStateUpdate where
  | postHandshake
  | other
deriving DecidableEq, Repr

/-- `D2mInstruction`. -/
structure D2mInstruction where
  stateUpdate : Option D2mStateUpdate
  incomingPayload : Option D2mIncomingPayload
  outgoingDatagram : Option Bytes
deriving DecidableEq, Repr

/-- libthreema's `D2mProtocol`. -/
structure D2mProtocol where
  State : Type
  poll : State → Except String (Option D2mInstruction × State)
  addDatagrams : State → List Bytes → Except String State
  createPayload : State → D2mOutgoingPayload → Except String (D2mInstruction × State)

/-! ## The runner -/

/-- What `try_next` gives on the WebSocket. -/
inductive WebSocketMessage where
  | binary (bytes : Bytes)
  | text (text : String)
  | ping (bytes : Bytes)
  | pong
  | close
  | frame
  /-- `Ok(None)`. -/
  | ended
  | error (message : String)
deriving DecidableEq, Repr

/-- Where the payload flow is. -/
inductive D2mPc where
  /-- At the top of the loop. -/
  | top
  /-- Suspended in `select!`, with a pong that `self.receive()` feeds. -/
  | select (pong : Option Bytes)
  /-- Suspended in `incoming.send`.  The datagram comes after. -/
  | forward (payload : D2mIncomingPayload) (outgoingDatagram : Option Bytes)
  /-- Suspended in `self.send`. -/
  | write (datagram : Bytes)
  /-- `run_payload_flow` has returned, which it does with an error only. -/
  | returned (error : String)
deriving DecidableEq, Repr

/-- `D2mProtocolRunner` in its payload flow. -/
structure D2mRunner (P : D2mProtocol) where
  protocol : P.State
  pc : D2mPc

/-- What ends a suspension of the payload flow. -/
inductive D2mLabel where
  /-- Nothing: the loop goes on from its top. -/
  | turn
  /-- `try_next` completes. -/
  | received (message : WebSocketMessage)
  /-- `feed` completes or fails. -/
  | pongFed (error : Option String)
  /-- `outgoing.recv` completes.  A closed channel disables the branch. -/
  | recvOutgoing (payload : D2mOutgoingPayload)
  /-- `incoming.send` completes. -/
  | sentIncoming (payload : D2mIncomingPayload)
  /-- `incoming.send` fails, since the receiver is gone. -/
  | sendFailed
  /-- The WebSocket's `send` completes or fails. -/
  | written (error : Option String)
deriving DecidableEq, Repr

namespace D2mRunner

variable {P : D2mProtocol}

/-- The end of an iteration: send the datagram, if there is one. -/
def finish (outgoingDatagram : Option Bytes) : D2mPc :=
  match outgoingDatagram with
  | some datagram => .write datagram
  | none => .top

/-- The processing of an instruction. -/
def process (self : D2mRunner P) (instruction : D2mInstruction) : D2mRunner P :=
  if instruction.stateUpdate.isSome then
    { self with pc := .returned "Unexpected state update after handshake" }
  else
    match instruction.incomingPayload with
    | some payload => { self with pc := .forward payload instruction.outgoingDatagram }
    | none => { self with pc := finish instruction.outgoingDatagram }

/-- The loop from its top to the next suspension. -/
def turn (self : D2mRunner P) : D2mRunner P :=
  match P.poll self.protocol with
  | .error message => { self with pc := .returned message }
  | .ok (none, protocol) => { protocol := protocol, pc := .select none }
  | .ok (some instruction, protocol) => process { self with protocol := protocol } instruction

/-- `receive`, from the message it waited for to the next suspension. -/
def receive (self : D2mRunner P) : WebSocketMessage → D2mRunner P
  | .binary bytes =>
      match P.addDatagrams self.protocol [bytes] with
      | .error message => { self with pc := .returned message }
      | .ok protocol => { protocol := protocol, pc := .top }
  | .text text => { self with pc := .returned ("Received unexpected text message: " ++ text) }
  | .ping bytes => { self with pc := .select (some bytes) }
  | .pong => self
  | .close => self
  | .frame => { self with pc := .returned "Received unexpected raw frame" }
  | .ended => { self with pc := .returned "WebSocket reading end closed" }
  | .error message => { self with pc := .returned message }

/-- The step of a label. -/
def next (self : D2mRunner P) : D2mLabel → Option (D2mRunner P)
  | .turn =>
      match self.pc with
      | .top => some self.turn
      | _ => none
  | .received message =>
      match self.pc with
      | .select none => some (self.receive message)
      | _ => none
  | .pongFed error =>
      match self.pc, error with
      | .select (some _), none => some { self with pc := .select none }
      | .select (some _), some message => some { self with pc := .returned message }
      | _, _ => none
  | .recvOutgoing payload =>
      match self.pc with
      | .select _ =>
          match P.createPayload self.protocol payload with
          | .error message => some { self with pc := .returned message }
          | .ok (instruction, protocol) =>
              some (process { self with protocol := protocol } instruction)
      | _ => none
  | .sentIncoming payload =>
      match self.pc with
      | .forward payload' outgoingDatagram =>
          if payload' = payload then some { self with pc := finish outgoingDatagram } else none
      | _ => none
  | .sendFailed =>
      match self.pc with
      | .forward _ _ => some { self with pc := .returned "channel closed" }
      | _ => none
  | .written error =>
      match self.pc, error with
      | .write _, none => some { self with pc := .top }
      | .write _, some message => some { self with pc := .returned message }
      | _, _ => none

/-- The runner forwards a payload. -/
def forwarding (self : D2mRunner P) : Bool :=
  match self.pc with
  | .forward _ _ => true
  | _ => false

end D2mRunner

/-- What a label does to the channels between the runner and the E2E driver. -/
def D2mLabel.port : D2mLabel → Port D2mIncomingPayload D2mOutgoingPayload
  | .sentIncoming payload => .send payload
  | .recvOutgoing payload => .recv payload
  | _ => .idle

/-- The runner as a party of its link with the E2E driver. -/
def D2mRunner.party (P : D2mProtocol) :
    Party (D2mRunner P) D2mLabel D2mIncomingPayload D2mOutgoingPayload where
  next := D2mRunner.next
  port := D2mLabel.port
  sending := D2mRunner.forwarding

/-- A datagram is the id of a reflected payload. -/
def D2mProtocol.sample : D2mProtocol where
  State := List Bytes
  poll datagrams :=
    match datagrams with
    | [] => .ok (none, [])
    | datagram :: rest =>
        .ok (some
          { stateUpdate := none
            incomingPayload := some (.reflected (datagram.headD 0).toUInt32 [])
            outgoingDatagram := none }, rest)
  addDatagrams datagrams added := .ok (datagrams ++ added)
  createPayload datagrams _ :=
    .ok ({ stateUpdate := none, incomingPayload := none, outgoingDatagram := some [] }, datagrams)

end MultideviceClient
