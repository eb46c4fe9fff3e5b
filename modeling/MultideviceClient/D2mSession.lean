import MultideviceClient.D2m
import MultideviceClient.Foundations.Machine

/-!
# A whole run of the mediator connection

`D2mProtocolRunner::run` is the handshake, then the payload flow (`D2mRunner`),
then the close of the WebSocket.  Both flows receive with `receive`, which passes
over everything that is not a binary message, and answers pings on the way.

As for the chat server, `D2mProtocol.recorded` also writes down the calls that are
made of the protocol, and a run over it is the run over the protocol itself, with
the list of the calls (`exec_erase`).
-/

namespace MultideviceClient

open Foundations

/-! ## The handshake -/

/-- Where the handshake flow is. -/
inductive D2mHandshakePc where
  /-- Suspended in `self.receive`, with a pong that it feeds. -/
  | receive (pong : Option Bytes)
  /-- Suspended in `self.send` of a datagram.  The state update comes after. -/
  | write (datagram : Bytes) (stateUpdate : Option D2mStateUpdate)
deriving DecidableEq, Repr

/-- Where `run` is. -/
inductive D2mSessionPc where
  | handshake (pc : D2mHandshakePc)
  /-- In the payload flow.  When that has returned: suspended in `shutdown`. -/
  | payload (pc : D2mPc)
  /-- `run` has returned, which it does with an error only. -/
  | returned (error : String)
deriving DecidableEq, Repr

/-- `D2mProtocolRunner` in its `run`. -/
structure D2mSession (P : D2mProtocol) where
  protocol : P.State
  pc : D2mSessionPc

/-- What ends a suspension of the handshake flow. -/
inductive D2mHandshakeLabel where
  /-- `try_next` completes. -/
  | received (message : WebSocketMessage)
  /-- `feed` completes or fails. -/
  | pongFed (error : Option String)
  /-- The WebSocket's `send` completes or fails. -/
  | written (error : Option String)
deriving DecidableEq, Repr

/-- What ends a suspension of `run`. -/
inductive D2mSessionLabel where
  | handshake (l : D2mHandshakeLabel)
  | payload (l : D2mLabel)
  /-- `shutdown` completes or fails. -/
  | shutdown (error : Option String)
deriving DecidableEq, Repr

namespace D2mSession

variable {P : D2mProtocol}

/-- `run`, from its start. -/
def start (protocol : P.State) : D2mSession P where
  protocol := protocol
  pc := .handshake (.receive none)

/-- The end of an iteration of the handshake. -/
def afterInstruction (stateUpdate : Option D2mStateUpdate) : D2mSessionPc :=
  if stateUpdate = some .postHandshake then .payload .top else .handshake (.receive none)

/-- The processing of an instruction during the handshake. -/
def processHandshake (self : D2mSession P) (instruction : D2mInstruction) : D2mSession P :=
  if instruction.incomingPayload.isSome then
    { self with pc := .returned "Unexpected incoming payload during handshake" }
  else
    match instruction.outgoingDatagram with
    | some datagram => { self with pc := .handshake (.write datagram instruction.stateUpdate) }
    | none => { self with pc := afterInstruction instruction.stateUpdate }

/-- The handshake loop from the end of `receive`. -/
def addDatagram (self : D2mSession P) (datagram : Bytes) : D2mSession P :=
  match P.addDatagrams self.protocol [datagram] with
  | .error message => { self with pc := .returned message }
  | .ok protocol =>
      match P.poll protocol with
      | .error message => { protocol := protocol, pc := .returned message }
      | .ok (none, protocol) => { protocol := protocol, pc := .handshake (.receive none) }
      | .ok (some instruction, protocol) =>
          processHandshake { self with protocol := protocol } instruction

/-- `receive`, from the message it waited for to the next suspension. -/
def receive (self : D2mSession P) : WebSocketMessage → D2mSession P
  | .binary bytes => self.addDatagram bytes
  | .text text => { self with pc := .returned ("Received unexpected text message: " ++ text) }
  | .ping bytes => { self with pc := .handshake (.receive (some bytes)) }
  | .pong => self
  | .close => self
  | .frame => { self with pc := .returned "Received unexpected raw frame" }
  | .ended => { self with pc := .returned "WebSocket reading end closed" }
  | .error message => { self with pc := .returned message }

/-- The step of a label during the handshake. -/
def nextHandshake (self : D2mSession P) (pc : D2mHandshakePc) :
    D2mHandshakeLabel → Option (D2mSession P)
  | .received message =>
      match pc with
      | .receive none => some (self.receive message)
      | _ => none
  | .pongFed error =>
      match pc, error with
      | .receive (some _), none => some { self with pc := .handshake (.receive none) }
      | .receive (some _), some message => some { self with pc := .returned message }
      | _, _ => none
  | .written error =>
      match pc, error with
      | .write _ stateUpdate, none => some { self with pc := afterInstruction stateUpdate }
      | .write _ _, some message => some { self with pc := .returned message }
      | _, _ => none

/-- The step of a label. -/
def next (self : D2mSession P) : D2mSessionLabel → Option (D2mSession P)
  | .handshake l =>
      match self.pc with
      | .handshake pc => self.nextHandshake pc l
      | _ => none
  | .payload l =>
      match self.pc with
      | .payload pc =>
          (D2mRunner.next ⟨self.protocol, pc⟩ l).map fun runner =>
            { protocol := runner.protocol, pc := .payload runner.pc }
      | _ => none
  | .shutdown error =>
      match self.pc, error with
      | .payload (.returned message), none => some { self with pc := .returned message }
      | .payload (.returned _), some message => some { self with pc := .returned message }
      | _, _ => none

/-- `run` as a machine. -/
def machine (P : D2mProtocol) : Machine (D2mSession P) D2mSessionLabel where
  next := next

end D2mSession

/-! ## Recorded calls -/

/-- A call of the protocol that succeeds, with its result. -/
inductive D2mCall where
  | addDatagrams (datagrams : List Bytes)
  | poll (instruction : Option D2mInstruction)
  | createPayload (payload : D2mOutgoingPayload) (instruction : D2mInstruction)
deriving DecidableEq, Repr

/-- The protocol, with the calls that were made of it. -/
def D2mProtocol.recorded (P : D2mProtocol) : D2mProtocol where
  State := P.State × List D2mCall
  poll s := (P.poll s.1).map fun r => (r.1, r.2, s.2 ++ [.poll r.1])
  addDatagrams s datagrams :=
    (P.addDatagrams s.1 datagrams).map fun s' => (s', s.2 ++ [.addDatagrams datagrams])
  createPayload s payload :=
    (P.createPayload s.1 payload).map fun r => (r.1, r.2, s.2 ++ [.createPayload payload r.1])

variable {P : D2mProtocol}

/-- The runner without the calls. -/
def D2mRunner.erase (self : D2mRunner P.recorded) : D2mRunner P := ⟨self.protocol.1, self.pc⟩

theorem D2mRunner.process_erase (self : D2mRunner P.recorded) (instruction : D2mInstruction) :
    (self.process instruction).erase = self.erase.process instruction := by
  simp only [process]
  split
  next => rfl
  next => cases instruction.incomingPayload <;> rfl

theorem D2mRunner.turn_erase (self : D2mRunner P.recorded) : self.turn.erase = self.erase.turn := by
  simp only [turn, D2mProtocol.recorded, erase]
  cases P.poll self.protocol.1 with
  | error message => rfl
  | ok r =>
      obtain ⟨instruction, protocol⟩ := r
      cases instruction with
      | none => rfl
      | some instruction => exact process_erase _ instruction

theorem D2mRunner.next_erase (self : D2mRunner P.recorded) (l : D2mLabel) :
    (self.next l).map erase = self.erase.next l := by
  obtain ⟨⟨protocol, calls⟩, pc⟩ := self
  cases l with
  | turn =>
      cases pc with
      | top => exact congrArg some (turn_erase _)
      | _ => rfl
  | received message =>
      cases pc with
      | select pong =>
          cases pong with
          | some bytes => rfl
          | none =>
              cases message with
              | binary bytes =>
                  simp only [next, receive, erase, D2mProtocol.recorded]
                  cases P.addDatagrams protocol [bytes] <;> rfl
              | _ => rfl
      | _ => rfl
  | pongFed error =>
      cases pc with
      | select pong => cases pong <;> cases error <;> rfl
      | _ => rfl
  | recvOutgoing payload =>
      cases pc with
      | select pong =>
          simp only [next, erase, D2mProtocol.recorded]
          cases P.createPayload protocol payload with
          | error message => rfl
          | ok r => exact congrArg some (process_erase _ r.1)
      | _ => rfl
  | sentIncoming payload =>
      cases pc with
      | forward payload' datagram =>
          simp only [next, erase]
          split <;> rfl
      | _ => rfl
  | sendFailed => cases pc <;> rfl
  | written error => cases pc <;> cases error <;> rfl

namespace D2mSession

/-- The session without the calls. -/
def erase (self : D2mSession P.recorded) : D2mSession P := ⟨self.protocol.1, self.pc⟩

theorem processHandshake_erase (self : D2mSession P.recorded) (instruction : D2mInstruction) :
    (self.processHandshake instruction).erase = self.erase.processHandshake instruction := by
  simp only [processHandshake]
  split
  next => rfl
  next => cases instruction.outgoingDatagram <;> rfl

theorem addDatagram_erase (self : D2mSession P.recorded) (datagram : Bytes) :
    (self.addDatagram datagram).erase = self.erase.addDatagram datagram := by
  simp only [addDatagram, D2mProtocol.recorded, erase]
  cases P.addDatagrams self.protocol.1 [datagram] with
  | error message => rfl
  | ok protocol =>
      simp only [Except.map]
      cases P.poll protocol with
      | error message => rfl
      | ok r =>
          obtain ⟨instruction, protocol⟩ := r
          cases instruction with
          | none => rfl
          | some instruction => exact processHandshake_erase _ instruction

theorem nextHandshake_erase (self : D2mSession P.recorded) (pc : D2mHandshakePc)
    (l : D2mHandshakeLabel) :
    (self.nextHandshake pc l).map erase = self.erase.nextHandshake pc l := by
  cases l with
  | received message =>
      cases pc with
      | receive pong =>
          cases pong with
          | some bytes => rfl
          | none =>
              cases message with
              | binary bytes => exact congrArg some (self.addDatagram_erase bytes)
              | _ => rfl
      | write datagram stateUpdate => rfl
  | pongFed error =>
      cases pc with
      | receive pong => cases pong <;> cases error <;> rfl
      | write datagram stateUpdate => rfl
  | written error => cases pc <;> cases error <;> rfl

theorem next_erase (self : D2mSession P.recorded) (l : D2mSessionLabel) :
    (self.next l).map erase = self.erase.next l := by
  obtain ⟨protocol, pc⟩ := self
  cases l with
  | handshake l =>
      cases pc with
      | handshake pc => exact nextHandshake_erase _ pc l
      | _ => rfl
  | payload l =>
      cases pc with
      | payload pc =>
          have hrunner := D2mRunner.next_erase ⟨protocol, pc⟩ l
          simp only [next, erase, D2mRunner.erase] at hrunner ⊢
          rw [← hrunner]
          cases D2mRunner.next (⟨protocol, pc⟩ : D2mRunner P.recorded) l <;> rfl
      | _ => rfl
  | shutdown error =>
      cases pc with
      | payload pc => cases pc <;> cases error <;> rfl
      | _ => rfl

/-- A run over the recorded protocol is the run over the protocol. -/
theorem exec_erase (self : D2mSession P.recorded) (ls : List D2mSessionLabel) :
    ((machine P.recorded).exec self ls).map erase = (machine P).exec self.erase ls :=
  (machine P.recorded).exec_map next_erase self ls

end D2mSession

end MultideviceClient
