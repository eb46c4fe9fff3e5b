import MultideviceClient.Csp
import MultideviceClient.Foundations.Machine

/-!
# A whole run of the chat server connection

`CspProtocolRunner::run` is the handshake, then the payload flow, then the
shutdown of the stream.  The payload flow is `CspRunner`; here it is put behind
`run_handshake_flow`.

*Reads.*  `receive_required` fills a buffer of zeros with `read_exact`, in as
many reads as it takes, and appends what `try_read_buf` finds.  The labels choose
where the reads are cut, and so they choose the stream.

*Calls.*  `CspProtocol.recorded` is a protocol that also writes down the calls
that are made of it.  A run over it is the run over the protocol itself, with the
list of the calls (`exec_erase`).
-/

namespace MultideviceClient

open Foundations

/-! ## The handshake -/

/-- Where the handshake flow is. -/
inductive CspHandshakePc where
  /-- Suspended in `self.send` of the client hello. -/
  | sendHello (clientHello : Bytes)
  /-- At the top of the loop. -/
  | top
  /-- Suspended in `read_exact`, which has filled the front of the buffer. -/
  | readExact (buffer : Bytes) (filled : Nat)
  /-- About to call `try_read_buf`. -/
  | tryReadBuf (buffer : Bytes)
  /-- Suspended in `self.send` of a frame.  The state update comes after. -/
  | write (frame : Bytes) (stateUpdate : Option CspStateUpdate)
deriving DecidableEq, Repr

/-- Where `run` is. -/
inductive CspSessionPc where
  | handshake (pc : CspHandshakePc)
  /-- In the payload flow.  When that has returned: suspended in `shutdown`. -/
  | payload (pc : CspPc)
  /-- `run` has returned. -/
  | returned (result : Except String Unit)

/-- `CspProtocolRunner` in its `run`. -/
structure CspSession (P : CspProtocol) where
  protocol : P.State
  /-- What a receive that failed had read. -/
  dropped : Bytes
  pc : CspSessionPc

/-- What ends a suspension of the handshake flow. -/
inductive CspHandshakeLabel where
  /-- Nothing: the loop goes on from its top. -/
  | turn
  /-- A read of `read_exact`.  No bytes are the end of the stream. -/
  | read (result : Except String Bytes)
  /-- `try_read_buf` returns. -/
  | tryReadBuf (read : TryRead)
  /-- `write_all` completes or fails. -/
  | written (error : Option String)
deriving DecidableEq

/-- What ends a suspension of `run`. -/
inductive CspSessionLabel where
  | handshake (l : CspHandshakeLabel)
  | payload (l : CspLabel)
  /-- `shutdown` completes or fails. -/
  | shutdown (error : Option String)
deriving DecidableEq

namespace CspSession

variable {P : CspProtocol}

/-- `run`, from its start. -/
def start (protocol : P.State) (clientHello : Bytes) : CspSession P where
  protocol := protocol
  dropped := []
  pc := .handshake (.sendHello clientHello)

/-- `run` returns with an error. -/
def fail (self : CspSession P) (dropped : Bytes) (message : String) : CspSession P :=
  { self with dropped := dropped, pc := .returned (.error message) }

/-- The end of an iteration of the handshake. -/
def afterInstruction (stateUpdate : Option CspStateUpdate) : CspSessionPc :=
  if stateUpdate = some .postHandshake then .payload (.top none) else .handshake .top

/-- The processing of an instruction during the handshake. -/
def processHandshake (self : CspSession P) (instruction : CspInstruction) : CspSession P :=
  if instruction.incomingPayload.isSome then
    self.fail [] "Unexpected incoming payload during handshake"
  else
    match instruction.outgoingFrame with
    | some frame => { self with pc := .handshake (.write frame instruction.stateUpdate) }
    | none => { self with pc := afterInstruction instruction.stateUpdate }

/-- The handshake loop from the end of `receive_required`. -/
def addChunk (self : CspSession P) (bytes : Bytes) : CspSession P :=
  match P.addChunks self.protocol bytes with
  | .error message => self.fail bytes message
  | .ok protocol =>
      match P.poll protocol with
      | .error message => fail { self with protocol := protocol } [] message
      | .ok (none, protocol) => { self with protocol := protocol, pc := .handshake .top }
      | .ok (some instruction, protocol) =>
          processHandshake { self with protocol := protocol } instruction

/-- `receive_required`, up to its first read. -/
def receiveRequired (self : CspSession P) : CspSession P :=
  match P.nextRequiredLength self.protocol with
  | .error message => self.fail [] message
  | .ok 0 => self.addChunk []
  | .ok length => { self with pc := .handshake (.readExact (List.replicate length 0) 0) }

/-- `read_exact` reads some bytes, as many as it still needs at most. -/
def readExact (self : CspSession P) (buffer : Bytes) (filled : Nat) (bytes : Bytes) :
    Option (CspSession P) :=
  if bytes = [] then some (self.fail (buffer.take filled) "early eof")
  else if filled + bytes.length < buffer.length then
    some { self with
      pc := .handshake (.readExact
        (buffer.take filled ++ bytes ++ buffer.drop (filled + bytes.length))
        (filled + bytes.length)) }
  else if filled + bytes.length = buffer.length then
    some { self with
      pc := .handshake (.tryReadBuf
        (buffer.take filled ++ bytes ++ buffer.drop (filled + bytes.length))) }
  else none

/-- `try_read_buf` returns, and with it `receive_required`. -/
def tryReadBuf (self : CspSession P) (buffer : Bytes) : TryRead → CspSession P
  | .closed => self.fail buffer "TCP reading end closed"
  | .bytes bytes => self.addChunk (buffer ++ bytes)
  | .wouldBlock => self.addChunk buffer
  | .error message => self.fail buffer message

/-- The step of a label during the handshake. -/
def nextHandshake (self : CspSession P) (pc : CspHandshakePc) :
    CspHandshakeLabel → Option (CspSession P)
  | .turn =>
      match pc with
      | .top => some self.receiveRequired
      | _ => none
  | .read result =>
      match pc, result with
      | .readExact buffer filled, .error message =>
          some (self.fail (buffer.take filled) message)
      | .readExact buffer filled, .ok bytes => self.readExact buffer filled bytes
      | _, _ => none
  | .tryReadBuf read =>
      match pc with
      | .tryReadBuf buffer => some (self.tryReadBuf buffer read)
      | _ => none
  | .written error =>
      match pc, error with
      | .sendHello _, none => some { self with pc := .handshake .top }
      | .write _ stateUpdate, none => some { self with pc := afterInstruction stateUpdate }
      | .sendHello _, some message => some (self.fail [] message)
      | .write _ _, some message => some (self.fail [] message)
      | _, _ => none

/-- What a read of the payload flow loses when the flow returns. -/
def droppedBy : CspLabel → CspPc → Bytes
  | .readable (.bytes bytes), .returned _ => bytes
  | _, _ => []

/-- The step of a label. -/
def next (self : CspSession P) : CspSessionLabel → Option (CspSession P)
  | .handshake l =>
      match self.pc with
      | .handshake pc => self.nextHandshake pc l
      | _ => none
  | .payload l =>
      match self.pc with
      | .payload pc =>
          (CspRunner.next ⟨self.protocol, pc⟩ l).map fun runner =>
            { protocol := runner.protocol
              dropped := droppedBy l runner.pc
              pc := .payload runner.pc }
      | _ => none
  | .shutdown error =>
      match self.pc, error with
      | .payload (.returned result), none => some { self with pc := .returned result }
      | .payload (.returned _), some message =>
          some { self with pc := .returned (.error message) }
      | _, _ => none

/-- `run` as a machine. -/
def machine (P : CspProtocol) : Machine (CspSession P) CspSessionLabel where
  next := next

end CspSession

/-! ## Recorded calls -/

/-- A call of the protocol that succeeds, with its result. -/
inductive CspCall where
  | addChunks (bytes : Bytes)
  | poll (instruction : Option CspInstruction)
  | createPayload (payload : CspOutgoingPayload) (instruction : CspInstruction)
deriving DecidableEq, Repr

/-- The protocol, with the calls that were made of it. -/
def CspProtocol.recorded (P : CspProtocol) : CspProtocol where
  State := P.State × List CspCall
  nextRequiredLength s := P.nextRequiredLength s.1
  poll s := (P.poll s.1).map fun r => (r.1, r.2, s.2 ++ [.poll r.1])
  addChunks s bytes := (P.addChunks s.1 bytes).map fun s' => (s', s.2 ++ [.addChunks bytes])
  createPayload s payload :=
    (P.createPayload s.1 payload).map fun r => (r.1, r.2, s.2 ++ [.createPayload payload r.1])

variable {P : CspProtocol}

/-- The runner without the calls. -/
def CspRunner.erase (self : CspRunner P.recorded) : CspRunner P := ⟨self.protocol.1, self.pc⟩

theorem CspRunner.process_erase (self : CspRunner P.recorded) (instruction : CspInstruction) :
    (self.process instruction).erase = self.erase.process instruction := by
  simp only [process]
  split
  next => rfl
  next =>
      split
      next payload _ =>
          simp only [CspProtocol.recorded, erase]
          cases P.createPayload self.protocol.1 (.echoResponse payload) <;> rfl
      all_goals rfl

theorem CspRunner.turn_erase (self : CspRunner P.recorded) (instruction : Option CspInstruction) :
    (self.turn instruction).erase = self.erase.turn instruction := by
  cases instruction with
  | some instruction => exact self.process_erase instruction
  | none =>
      simp only [turn, CspProtocol.recorded, erase]
      cases hpoll : P.poll self.protocol.1 with
      | error message => rfl
      | ok r =>
          obtain ⟨instruction, protocol⟩ := r
          cases instruction with
          | none => rfl
          | some instruction => exact process_erase _ instruction

theorem CspRunner.next_erase (self : CspRunner P.recorded) (l : CspLabel) :
    (self.next l).map erase = self.erase.next l := by
  cases l with
  | turn =>
      simp only [next, erase]
      split
      next instruction hpc => exact congrArg some (self.turn_erase instruction)
      next => rfl
  | readable read =>
      simp only [next, CspProtocol.recorded, erase]
      split
      next => rfl
      next bytes _ _ =>
          split
          next =>
              cases P.addChunks self.protocol.1 bytes <;> rfl
          next => rfl
      next => rfl
  | recvOutgoing payload =>
      obtain ⟨⟨protocol, calls⟩, pc⟩ := self
      cases pc with
      | select =>
          cases payload with
          | none => rfl
          | some payload =>
              simp only [next, erase, CspProtocol.recorded]
              cases P.createPayload protocol payload.toOutgoingPayload with
              | error message => rfl
              | ok r => exact congrArg some (process_erase _ r.1)
      | _ => rfl
  | sentIncoming payload =>
      simp only [next, erase]
      split
      next => split <;> rfl
      next => rfl
  | sendFailed =>
      simp only [next, erase]
      split <;> rfl
  | written error =>
      simp only [next, erase]
      split <;> rfl

namespace CspSession

/-- The session without the calls. -/
def erase (self : CspSession P.recorded) : CspSession P := ⟨self.protocol.1, self.dropped, self.pc⟩

theorem processHandshake_erase (self : CspSession P.recorded) (instruction : CspInstruction) :
    (self.processHandshake instruction).erase = self.erase.processHandshake instruction := by
  simp only [processHandshake]
  split
  next => rfl
  next => cases instruction.outgoingFrame <;> rfl

theorem addChunk_erase (self : CspSession P.recorded) (bytes : Bytes) :
    (self.addChunk bytes).erase = self.erase.addChunk bytes := by
  simp only [addChunk, CspProtocol.recorded, erase]
  cases P.addChunks self.protocol.1 bytes with
  | error message => rfl
  | ok protocol =>
      simp only [Except.map]
      cases P.poll protocol with
      | error message => rfl
      | ok r =>
          obtain ⟨instruction, protocol⟩ := r
          cases instruction with
          | none => rfl
          | some instruction => exact processHandshake_erase _ instruction

theorem receiveRequired_erase (self : CspSession P.recorded) :
    self.receiveRequired.erase = self.erase.receiveRequired := by
  simp only [receiveRequired, CspProtocol.recorded, erase]
  cases P.nextRequiredLength self.protocol.1 with
  | error message => rfl
  | ok length =>
      cases length with
      | zero => exact self.addChunk_erase []
      | succ length => rfl

theorem nextHandshake_erase (self : CspSession P.recorded) (pc : CspHandshakePc)
    (l : CspHandshakeLabel) :
    (self.nextHandshake pc l).map erase = self.erase.nextHandshake pc l := by
  cases l with
  | turn =>
      cases pc with
      | top => exact congrArg some self.receiveRequired_erase
      | _ => rfl
  | read result =>
      cases pc with
      | readExact buffer filled =>
          cases result with
          | error message => rfl
          | ok bytes =>
              simp only [nextHandshake, readExact]
              split
              next => rfl
              next => split <;> first | rfl | (split <;> rfl)
      | _ => rfl
  | tryReadBuf read =>
      cases pc with
      | tryReadBuf buffer =>
          cases read with
          | bytes bytes => exact congrArg some (self.addChunk_erase (buffer ++ bytes))
          | wouldBlock => exact congrArg some (self.addChunk_erase buffer)
          | _ => rfl
      | _ => rfl
  | written error => cases pc <;> cases error <;> rfl

theorem next_erase (self : CspSession P.recorded) (l : CspSessionLabel) :
    (self.next l).map erase = self.erase.next l := by
  obtain ⟨protocol, dropped, pc⟩ := self
  cases l with
  | handshake l =>
      cases pc with
      | handshake pc => exact nextHandshake_erase _ pc l
      | _ => rfl
  | payload l =>
      cases pc with
      | payload pc =>
          have hrunner := CspRunner.next_erase ⟨protocol, pc⟩ l
          simp only [next, erase, CspRunner.erase] at hrunner ⊢
          rw [← hrunner]
          cases CspRunner.next (⟨protocol, pc⟩ : CspRunner P.recorded) l <;> rfl
      | _ => rfl
  | shutdown error =>
      cases pc with
      | payload pc => cases pc <;> cases error <;> rfl
      | _ => rfl

/-- A run over the recorded protocol is the run over the protocol. -/
theorem exec_erase (self : CspSession P.recorded) (ls : List CspSessionLabel) :
    ((machine P.recorded).exec self ls).map erase = (machine P).exec self.erase ls :=
  (machine P.recorded).exec_map next_erase self ls

end CspSession

end MultideviceClient
