import MultideviceClient.CspMoves

/-!
# The chat server connection relays faithfully

Over a whole run, from the client hello to the shutdown: the bytes that are read
are the bytes that the protocol is given, the frames that it creates are written
in that order, every echo request is answered at once, and the payloads of the
payload flow reach the driver in their order (`csp_relays`).

`CspSession.Moves` puts the handshake before `CspRunner.Moves`.  A receive of the
handshake holds bytes over several steps (`buffer`), and one that fails drops them
(`dropped`).  So the account of the bytes is exact even when `run` returns.  The
other accounts may leave open what was in progress at that time.
-/

namespace MultideviceClient

open Foundations

variable {P : CspProtocol}

/-! ## Moves of the whole run -/

/-- The flows have returned. -/
def CspSessionPc.hasEnded : CspSessionPc → Bool
  | .payload pc => pc.hasReturned
  | .returned _ => true
  | _ => false

/-- The bytes that a receive of the handshake has read so far. -/
def CspSessionPc.buffer : CspSessionPc → Bytes
  | .handshake (.readExact buffer filled) => buffer.take filled
  | .handshake (.tryReadBuf buffer) => buffer
  | _ => []

/-- The frames that are still to be written. -/
def CspSessionPc.dueFrames : CspSessionPc → List Bytes
  | .handshake (.sendHello clientHello) => [clientHello]
  | .handshake (.write frame _) => [frame]
  | .payload pc => pc.dueFrames
  | _ => []

/-- The echo request that is still to be answered. -/
def CspSessionPc.dueEcho : CspSessionPc → Option Bytes
  | .payload pc => pc.dueEcho
  | _ => none

/-- The payload that is still to be forwarded. -/
def CspSessionPc.dueForward : CspSessionPc → List IncomingPayloadForCspE2e
  | .payload pc => pc.dueForward
  | _ => []

/-- The frame that a label writes. -/
def CspSessionPc.written : CspSessionPc → CspSessionLabel → List Bytes
  | .handshake (.sendHello clientHello), .handshake (.written none) => [clientHello]
  | .handshake (.write frame _), .handshake (.written none) => [frame]
  | .payload pc, .payload l => pc.written l
  | _, _ => []

/-- The payload that a label forwards. -/
def CspSessionLabel.forwarded : CspSessionLabel → List IncomingPayloadForCspE2e
  | .payload l => l.forwarded
  | _ => []

/-- The bytes that a label reads. -/
def CspSessionLabel.bytesRead : CspSessionLabel → Bytes
  | .handshake (.read (.ok bytes)) => bytes
  | .handshake (.tryReadBuf (.bytes bytes)) => bytes
  | .payload l => l.bytesRead
  | _ => []

namespace CspSession

/-- The calls that were made of the protocol. -/
def calls (self : CspSession P.recorded) : List CspCall := self.protocol.2

/-- The bytes that were read and not given to the protocol. -/
def inHand (self : CspSession P) : Bytes :=
  if self.pc.hasEnded then self.dropped else self.pc.buffer

/-- What a chunk of the handshake can lead to, with the bytes that are dropped. -/
inductive ChunkAdded (bytes : Bytes) : List CspCall → CspSessionPc → Bytes → Prop where
  | refused {error : String} : ChunkAdded bytes [] (.returned (.error error)) bytes
  | pollFails {error : String} :
      ChunkAdded bytes [.addChunks bytes] (.returned (.error error)) []
  | idle {dropped : Bytes} :
      ChunkAdded bytes [.addChunks bytes, .poll none] (.handshake .top) dropped
  | unexpected {instruction : CspInstruction} {error : String} :
      ChunkAdded bytes [.addChunks bytes, .poll (some instruction)] (.returned (.error error)) []
  | frame {instruction : CspInstruction} {frame dropped : Bytes}
      (h : instruction.incomingPayload = none) (hframe : instruction.outgoingFrame = some frame) :
      ChunkAdded bytes [.addChunks bytes, .poll (some instruction)]
        (.handshake (.write frame instruction.stateUpdate)) dropped
  | noFrame {instruction : CspInstruction} {dropped : Bytes}
      (h : instruction.incomingPayload = none) (hframe : instruction.outgoingFrame = none) :
      ChunkAdded bytes [.addChunks bytes, .poll (some instruction)]
        (afterInstruction instruction.stateUpdate) dropped

/-- What a step can do before the flows have returned. -/
inductive Moves (P : CspProtocol) :
    CspSessionPc → CspSessionLabel → List CspCall → CspSessionPc → Bytes → Prop where
  | helloSent {clientHello dropped : Bytes} :
      Moves P (.handshake (.sendHello clientHello)) (.handshake (.written none)) []
        (.handshake .top) dropped
  | helloFails {clientHello : Bytes} {error : String} :
      Moves P (.handshake (.sendHello clientHello)) (.handshake (.written (some error))) []
        (.returned (.error error)) []
  | frameSent {frame dropped : Bytes} {stateUpdate : Option CspStateUpdate} :
      Moves P (.handshake (.write frame stateUpdate)) (.handshake (.written none)) []
        (afterInstruction stateUpdate) dropped
  | frameFails {frame : Bytes} {stateUpdate : Option CspStateUpdate} {error : String} :
      Moves P (.handshake (.write frame stateUpdate)) (.handshake (.written (some error))) []
        (.returned (.error error)) []
  | lengthFails {error : String} :
      Moves P (.handshake .top) (.handshake .turn) [] (.returned (.error error)) []
  | noLength {calls : List CspCall} {pc : CspSessionPc} {dropped : Bytes}
      (h : ChunkAdded [] calls pc dropped) :
      Moves P (.handshake .top) (.handshake .turn) calls pc dropped
  | required {length : Nat} {dropped : Bytes} :
      Moves P (.handshake .top) (.handshake .turn) []
        (.handshake (.readExact (List.replicate length 0) 0)) dropped
  | readFails {buffer : Bytes} {filled : Nat} {error error' : String} :
      Moves P (.handshake (.readExact buffer filled)) (.handshake (.read (.error error))) []
        (.returned (.error error')) (buffer.take filled)
  | readEnds {buffer : Bytes} {filled : Nat} {error : String} :
      Moves P (.handshake (.readExact buffer filled)) (.handshake (.read (.ok []))) []
        (.returned (.error error)) (buffer.take filled)
  | readSome {buffer bytes dropped : Bytes} {filled : Nat}
      (h : filled + bytes.length < buffer.length) :
      Moves P (.handshake (.readExact buffer filled)) (.handshake (.read (.ok bytes))) []
        (.handshake (.readExact
          (buffer.take filled ++ bytes ++ buffer.drop (filled + bytes.length))
          (filled + bytes.length))) dropped
  | readAll {buffer bytes dropped : Bytes} {filled : Nat}
      (h : filled + bytes.length = buffer.length) :
      Moves P (.handshake (.readExact buffer filled)) (.handshake (.read (.ok bytes))) []
        (.handshake (.tryReadBuf
          (buffer.take filled ++ bytes ++ buffer.drop (filled + bytes.length)))) dropped
  | tryFails {buffer : Bytes} {read : TryRead} {error : String}
      (h : ∀ bytes, read ≠ .bytes bytes) :
      Moves P (.handshake (.tryReadBuf buffer)) (.handshake (.tryReadBuf read)) []
        (.returned (.error error)) buffer
  | tryRead {buffer bytes dropped : Bytes} {read : TryRead} {calls : List CspCall}
      {pc : CspSessionPc} (hread : read = .bytes bytes ∨ read = .wouldBlock ∧ bytes = [])
      (h : ChunkAdded (buffer ++ bytes) calls pc dropped) :
      Moves P (.handshake (.tryReadBuf buffer)) (.handshake (.tryReadBuf read)) calls pc dropped
  | payload {pc pc' : CspPc} {l : CspLabel} {calls : List CspCall}
      (h : CspRunner.Moves P pc l calls pc') :
      Moves P (.payload pc) (.payload l) calls (.payload pc') (droppedBy l pc')

theorem chunkAdded_of_addChunk (self : CspSession P.recorded) (bytes : Bytes) :
    ∃ calls, ChunkAdded bytes calls (self.addChunk bytes).pc (self.addChunk bytes).dropped ∧
      (self.addChunk bytes).protocol.2 = self.protocol.2 ++ calls := by
  simp only [addChunk, CspProtocol.recorded]
  cases P.addChunks self.protocol.1 bytes with
  | error message => exact ⟨[], .refused, (List.append_nil _).symm⟩
  | ok protocol =>
      simp only [Except.map]
      cases P.poll protocol with
      | error message => exact ⟨_, .pollFails, rfl⟩
      | ok r =>
          obtain ⟨instruction, protocol⟩ := r
          cases instruction with
          | none => exact ⟨_, .idle, List.append_assoc ..⟩
          | some instruction =>
              simp only [processHandshake]
              cases hin : instruction.incomingPayload with
              | some payload => exact ⟨_, .unexpected, List.append_assoc ..⟩
              | none =>
                  cases hframe : instruction.outgoingFrame with
                  | some frame => exact ⟨_, .frame hin hframe, List.append_assoc ..⟩
                  | none => exact ⟨_, .noFrame hin hframe, List.append_assoc ..⟩

/-- Everything `receive_required` can do up to its first read. -/
theorem moves_of_receiveRequired (self : CspSession P.recorded) :
    ∃ calls, Moves P (.handshake .top) (.handshake .turn) calls self.receiveRequired.pc
        self.receiveRequired.dropped ∧
      self.receiveRequired.protocol.2 = self.protocol.2 ++ calls := by
  simp only [receiveRequired]
  split
  next message _ => exact ⟨[], .lengthFails, (List.append_nil _).symm⟩
  next =>
      obtain ⟨calls, hadded, hcalls⟩ := self.chunkAdded_of_addChunk []
      exact ⟨calls, .noLength hadded, hcalls⟩
  next length _ _ => exact ⟨[], .required, (List.append_nil _).symm⟩

/-- Everything a read of `read_exact` can do. -/
theorem moves_of_readExact {self self' : CspSession P.recorded} {buffer bytes : Bytes}
    {filled : Nat} (h : self.readExact buffer filled bytes = some self') :
    ∃ calls, Moves P (.handshake (.readExact buffer filled)) (.handshake (.read (.ok bytes))) calls
        self'.pc self'.dropped ∧
      self'.protocol.2 = self.protocol.2 ++ calls := by
  simp only [readExact] at h
  split at h
  next hempty =>
      cases h
      rw [hempty]
      exact ⟨[], .readEnds, (List.append_nil _).symm⟩
  next =>
      split at h
      next hlt =>
          cases h
          exact ⟨[], .readSome hlt, (List.append_nil _).symm⟩
      next =>
          split at h <;> cases h
          next heq => exact ⟨[], .readAll heq, (List.append_nil _).symm⟩

/-- Everything the end of `receive_required` can do. -/
theorem moves_of_tryReadBuf (self : CspSession P.recorded) (buffer : Bytes) (read : TryRead) :
    ∃ calls, Moves P (.handshake (.tryReadBuf buffer)) (.handshake (.tryReadBuf read)) calls
        (self.tryReadBuf buffer read).pc (self.tryReadBuf buffer read).dropped ∧
      (self.tryReadBuf buffer read).protocol.2 = self.protocol.2 ++ calls := by
  cases read with
  | closed =>
      refine ⟨[], .tryFails ?_, (List.append_nil _).symm⟩
      intro bytes hread
      cases hread
  | error message =>
      refine ⟨[], .tryFails ?_, (List.append_nil _).symm⟩
      intro bytes hread
      cases hread
  | bytes bytes =>
      obtain ⟨calls, hadded, hcalls⟩ := self.chunkAdded_of_addChunk (buffer ++ bytes)
      exact ⟨calls, .tryRead (Or.inl rfl) hadded, hcalls⟩
  | wouldBlock =>
      obtain ⟨calls, hadded, hcalls⟩ := self.chunkAdded_of_addChunk buffer
      have hnothing : ChunkAdded (buffer ++ []) calls (self.addChunk buffer).pc
          (self.addChunk buffer).dropped := by
        rw [List.append_nil]
        exact hadded
      exact ⟨calls, .tryRead (Or.inr ⟨rfl, rfl⟩) hnothing, hcalls⟩

theorem moves_of_nextHandshake {self self' : CspSession P.recorded} {pc : CspHandshakePc}
    {l : CspHandshakeLabel} (h : self.nextHandshake pc l = some self') :
    ∃ calls, Moves P (.handshake pc) (.handshake l) calls self'.pc self'.dropped ∧
      self'.protocol.2 = self.protocol.2 ++ calls := by
  cases l with
  | turn =>
      simp only [nextHandshake] at h
      split at h <;> cases h
      exact self.moves_of_receiveRequired
  | read result =>
      simp only [nextHandshake] at h
      split at h
      next =>
          cases h
          exact ⟨[], .readFails, (List.append_nil _).symm⟩
      next buffer filled bytes => exact moves_of_readExact h
      next => cases h
  | tryReadBuf read =>
      simp only [nextHandshake] at h
      split at h <;> cases h
      next buffer => exact self.moves_of_tryReadBuf buffer read
  | written error =>
      simp only [nextHandshake] at h
      split at h <;> cases h
      next => exact ⟨[], .helloSent, (List.append_nil _).symm⟩
      next => exact ⟨[], .frameSent, (List.append_nil _).symm⟩
      next => exact ⟨[], .helloFails, (List.append_nil _).symm⟩
      next => exact ⟨[], .frameFails, (List.append_nil _).symm⟩

/-- Everything a label can do before the flows have returned. -/
theorem moves_of_next {self self' : CspSession P.recorded} {l : CspSessionLabel}
    (hlive : self.pc.hasEnded = false) (h : self.next l = some self') :
    ∃ calls, Moves P self.pc l calls self'.pc self'.dropped ∧
      self'.protocol.2 = self.protocol.2 ++ calls := by
  cases l with
  | handshake l =>
      simp only [next] at h
      split at h
      next pc hpc =>
          rw [hpc]
          exact moves_of_nextHandshake h
      next => cases h
  | payload l =>
      simp only [next] at h
      split at h
      next pc hpc =>
          obtain ⟨runner, hrunner, rfl⟩ := Option.map_eq_some_iff.mp h
          obtain ⟨calls, hmoves, hcalls⟩ := CspRunner.moves_of_next hrunner
          rw [hpc]
          exact ⟨calls, .payload hmoves, hcalls⟩
      next => cases h
  | shutdown error =>
      simp only [next] at h
      split at h
      next hpc =>
          rw [hpc] at hlive
          cases hlive
      next hpc =>
          rw [hpc] at hlive
          cases hlive
      next => cases h

/-- Afterwards there is only the shutdown. -/
theorem next_of_hasEnded {self self' : CspSession P.recorded} {l : CspSessionLabel}
    (hend : self.pc.hasEnded = true) (h : self.next l = some self') :
    (∃ error, l = .shutdown error) ∧ self'.pc.hasEnded = true ∧
      self'.protocol = self.protocol ∧ self'.dropped = self.dropped := by
  cases l with
  | handshake l =>
      simp only [next] at h
      split at h
      next pc hpc =>
          rw [hpc] at hend
          cases hend
      next => cases h
  | payload l =>
      simp only [next] at h
      split at h
      next pc hpc =>
          rw [hpc] at hend
          obtain ⟨runner, hrunner, -⟩ := Option.map_eq_some_iff.mp h
          obtain ⟨calls, hmoves, -⟩ := CspRunner.moves_of_next hrunner
          have hlive : pc.hasReturned = false := hmoves.live
          rw [CspSessionPc.hasEnded, hlive] at hend
          cases hend
      next => cases h
  | shutdown error =>
      simp only [next] at h
      split at h
      next => cases h; exact ⟨⟨_, rfl⟩, rfl, rfl, rfl⟩
      next => cases h; exact ⟨⟨_, rfl⟩, rfl, rfl, rfl⟩
      next => cases h

/-! ### Accounts of the whole run -/

variable {l : CspSessionLabel} {calls : List CspCall} {pc pc' : CspSessionPc} {dropped : Bytes}

theorem afterInstruction_live (stateUpdate : Option CspStateUpdate) :
    (afterInstruction stateUpdate).hasEnded = false ∧
      (afterInstruction stateUpdate).buffer = [] ∧
      (afterInstruction stateUpdate).dueFrames = [] ∧
      (afterInstruction stateUpdate).dueEcho = none ∧
      (afterInstruction stateUpdate).dueForward = [] := by
  simp only [afterInstruction]
  split <;> exact ⟨rfl, rfl, rfl, rfl, rfl⟩

/-- The bytes of a chunk are given to the protocol, or dropped. -/
theorem ChunkAdded.bytes {bytes : Bytes} (h : ChunkAdded bytes calls pc dropped) :
    (calls.filterMap CspCall.chunk).flatten ++
      (if pc.hasEnded then dropped else pc.buffer) = bytes := by
  have hgiven : ∀ tail : Bytes, tail = [] → [bytes].flatten ++ tail = bytes := by
    intro tail htail
    rw [htail, List.append_nil, List.flatten_singleton]
  cases h with
  | refused => rfl
  | noFrame h hframe =>
      obtain ⟨hlive, hbuffer, -⟩ := afterInstruction_live ‹CspInstruction›.stateUpdate
      rw [hlive]
      exact hgiven _ hbuffer
  | _ => exact hgiven _ rfl

/-- What a read adds to the buffer. -/
theorem take_filled {buffer bytes : Bytes} {filled : Nat}
    (h : filled + bytes.length ≤ buffer.length) :
    (buffer.take filled ++ bytes ++ buffer.drop (filled + bytes.length)).take
      (filled + bytes.length) = buffer.take filled ++ bytes := by
  have hlength : (buffer.take filled ++ bytes).length = filled + bytes.length := by
    rw [List.length_append, List.length_take]
    omega
  rw [← hlength, List.take_left]

theorem Moves.bytes (h : Moves P pc l calls pc' dropped) :
    (calls.filterMap CspCall.chunk).flatten ++
      (if pc'.hasEnded then dropped else pc'.buffer) = pc.buffer ++ l.bytesRead := by
  cases h with
  | @frameSent _ _ stateUpdate =>
      obtain ⟨hlive, hbuffer, -⟩ := afterInstruction_live stateUpdate
      rw [hlive]
      exact hbuffer
  | noLength h => exact h.bytes
  | readFails => exact (List.append_nil _).symm
  | readEnds => exact (List.append_nil _).symm
  | readSome h => exact take_filled (Nat.le_of_lt h)
  | @readAll buffer bytes _ filled h =>
      show buffer.take filled ++ bytes ++ buffer.drop (filled + bytes.length) =
        buffer.take filled ++ bytes
      rw [h, List.drop_length, List.append_nil]
  | @tryFails buffer read error h =>
      cases read with
      | bytes bytes => exact (h bytes rfl).elim
      | _ => exact (List.append_nil _).symm
  | tryRead hread h =>
      rcases hread with rfl | ⟨rfl, rfl⟩
      · exact h.bytes
      · exact h.bytes
  | @payload pc pc' l calls h =>
      have hbytes := h.bytes
      cases hreturned : pc'.hasReturned with
      | true =>
          rw [CspSessionPc.hasEnded, hreturned]
          exact hbytes
      | false =>
          have hnone : droppedBy l pc' = [] := by
            simp only [droppedBy]
            split
            next => cases hreturned
            next => rfl
          rw [hnone] at hbytes
          rw [CspSessionPc.hasEnded, hreturned]
          exact hbytes
  | _ => rfl

theorem ChunkAdded.echoes {bytes : Bytes} (h : ChunkAdded bytes calls pc dropped) :
    ∃ rest, EchoesAnswered none calls rest ∧ (pc.hasEnded = false → rest = pc.dueEcho) := by
  have hquiet : ∀ {instruction : CspInstruction}, instruction.incomingPayload = none →
      instruction.echoRequest = none := by
    intro instruction h
    rw [CspInstruction.echoRequest, h]
  cases h with
  | refused =>
      refine ⟨none, rfl, ?_⟩
      intro hlive
      cases hlive
  | pollFails =>
      refine ⟨none, ⟨rfl, rfl⟩, ?_⟩
      intro hlive
      cases hlive
  | idle => exact ⟨none, ⟨rfl, rfl, rfl⟩, fun _ => rfl⟩
  | unexpected =>
      refine ⟨_, ⟨rfl, rfl, rfl⟩, ?_⟩
      intro hlive
      cases hlive
  | frame h hframe => exact ⟨none, ⟨rfl, rfl, (hquiet h).symm⟩, fun _ => rfl⟩
  | noFrame h hframe =>
      obtain ⟨-, -, -, hecho, -⟩ := afterInstruction_live ‹CspInstruction›.stateUpdate
      exact ⟨none, ⟨rfl, rfl, (hquiet h).symm⟩, fun _ => hecho.symm⟩

theorem Moves.echoes (h : Moves P pc l calls pc' dropped) :
    ∃ rest, EchoesAnswered pc.dueEcho calls rest ∧ (pc'.hasEnded = false → rest = pc'.dueEcho) := by
  cases h with
  | noLength h => exact h.echoes
  | tryRead hread h => exact h.echoes
  | payload h => exact h.echoes
  | @frameSent _ _ stateUpdate =>
      obtain ⟨-, -, -, hecho, -⟩ := afterInstruction_live stateUpdate
      exact ⟨none, rfl, fun _ => hecho.symm⟩
  | _ => exact ⟨none, rfl, fun _ => rfl⟩

theorem ChunkAdded.frames {bytes : Bytes} (h : ChunkAdded bytes calls pc dropped)
    (hlive : pc.hasEnded = false) : pc.dueFrames = calls.filterMap CspCall.frame := by
  cases h with
  | idle => rfl
  | @frame instruction frame _ h hframe =>
      rw [CspCall.filterMap_frame_poll, hframe]
      rfl
  | @noFrame instruction _ h hframe =>
      obtain ⟨-, -, hframes, -⟩ := afterInstruction_live instruction.stateUpdate
      rw [hframes, CspCall.filterMap_frame_poll, hframe]
      rfl
  | _ => cases hlive

theorem ChunkAdded.frames_end {bytes : Bytes} (h : ChunkAdded bytes calls pc dropped)
    (hend : pc.hasEnded = true) : (calls.filterMap CspCall.frame).length ≤ 1 := by
  cases h with
  | refused => exact Nat.zero_le 1
  | pollFails => exact Nat.zero_le 1
  | @unexpected instruction error =>
      rw [CspCall.filterMap_frame_poll]
      exact Option.length_toList_le
  | @noFrame instruction _ h hframe =>
      rw [(afterInstruction_live instruction.stateUpdate).1] at hend
      cases hend
  | _ => cases hend

theorem Moves.frames (h : Moves P pc l calls pc' dropped) (hlive : pc'.hasEnded = false) :
    pc.written l ++ pc'.dueFrames = pc.dueFrames ++ calls.filterMap CspCall.frame := by
  cases h with
  | @frameSent _ _ stateUpdate =>
      obtain ⟨-, -, hframes, -⟩ := afterInstruction_live stateUpdate
      rw [hframes]
      rfl
  | noLength h => exact h.frames hlive
  | tryRead hread h => exact h.frames hlive
  | payload h => exact h.frames hlive
  | helloSent => rfl
  | required => rfl
  | readSome h => rfl
  | readAll h => rfl
  | _ => cases hlive

/-- When the flows return, at most two frames have not been written. -/
theorem Moves.frames_end (h : Moves P pc l calls pc' dropped) (hend : pc'.hasEnded = true) :
    ∃ rest : List Bytes, rest.length ≤ 2 ∧
      pc.written l ++ rest = pc.dueFrames ++ calls.filterMap CspCall.frame := by
  cases h with
  | noLength h => exact ⟨_, Nat.le_succ_of_le (h.frames_end hend), rfl⟩
  | tryRead hread h => exact ⟨_, Nat.le_succ_of_le (h.frames_end hend), rfl⟩
  | payload h => exact h.frames_end hend
  | @helloFails clientHello error => exact ⟨[clientHello], by simp, rfl⟩
  | @frameFails frame stateUpdate error => exact ⟨[frame], by simp, rfl⟩
  | @frameSent _ _ stateUpdate =>
      rw [(afterInstruction_live stateUpdate).1] at hend
      cases hend
  | helloSent => cases hend
  | required => cases hend
  | readSome h => cases hend
  | readAll h => cases hend
  | _ => exact ⟨[], Nat.zero_le 2, rfl⟩

/-- The calls that are made in the payload flow. -/
def payloadCalls (calls : List CspCall) : CspSessionLabel → List CspCall
  | .payload _ => calls
  | _ => []

theorem ChunkAdded.forwards {bytes : Bytes} (h : ChunkAdded bytes calls pc dropped) :
    pc.dueForward = [] := by
  cases h with
  | @noFrame instruction _ h hframe => exact (afterInstruction_live instruction.stateUpdate).2.2.2.2
  | _ => rfl

theorem Moves.forwards (h : Moves P pc l calls pc' dropped) (hlive : pc'.hasEnded = false) :
    l.forwarded ++ pc'.dueForward =
      pc.dueForward ++ (payloadCalls calls l).filterMap CspCall.forwardable := by
  cases h with
  | @frameSent _ _ stateUpdate => exact (afterInstruction_live stateUpdate).2.2.2.2
  | noLength h => exact h.forwards
  | tryRead hread h => exact h.forwards
  | payload h => exact h.forwards hlive
  | _ => rfl

/-- When the flows return, at most one payload has not been forwarded. -/
theorem Moves.forwards_end (h : Moves P pc l calls pc' dropped) (hend : pc'.hasEnded = true) :
    ∃ rest : List IncomingPayloadForCspE2e, rest.length ≤ 1 ∧ l.forwarded ++ rest =
      pc.dueForward ++ (payloadCalls calls l).filterMap CspCall.forwardable := by
  cases h with
  | payload h => exact h.forwards_end hend
  | _ => exact ⟨[], Nat.zero_le 1, rfl⟩

theorem ChunkAdded.made {bytes : Bytes} (h : ChunkAdded bytes calls pc dropped) :
    ∀ payload echo, .createPayload payload echo ∉ calls := by
  intro payload echo hmem
  cases h <;> simp at hmem

theorem Moves.made (h : Moves P pc l calls pc' dropped) :
    ∀ payload echo, .createPayload payload echo ∈ calls → P.Creates payload echo := by
  intro payload echo hmem
  cases h with
  | noLength h => exact (h.made payload echo hmem).elim
  | tryRead hread h => exact (h.made payload echo hmem).elim
  | payload h => exact h.made payload echo hmem
  | _ => cases hmem

/-! ## Runs -/

theorem length_dueFrames (pc : CspSessionPc) : pc.dueFrames.length ≤ 2 := by
  have hoption : ∀ frame : Option Bytes, frame.toList.length ≤ 1 := fun _ =>
    Option.length_toList_le
  cases pc with
  | handshake pc =>
      cases pc with
      | sendHello clientHello => exact Nat.le_succ 1
      | write frame stateUpdate => exact Nat.le_succ 1
      | _ => exact Nat.zero_le 2
  | payload pc =>
      cases pc with
      | top nextInstruction => exact Nat.le_succ_of_le (hoption _)
      | forward payload frame => exact Nat.le_succ_of_le (hoption frame)
      | write frame nextInstruction => exact Nat.succ_le_succ (hoption _)
      | _ => exact Nat.zero_le 2
  | returned result => exact Nat.zero_le 2

theorem length_dueForward (pc : CspSessionPc) : pc.dueForward.length ≤ 1 := by
  cases pc with
  | payload pc =>
      cases pc with
      | top nextInstruction => exact Option.length_toList_le
      | write frame nextInstruction => exact Option.length_toList_le
      | forward payload frame => exact Nat.le_refl 1
      | _ => exact Nat.zero_le 1
  | _ => exact Nat.zero_le 1

/-- The calls that a step makes. -/
def newCalls (self : CspSession P.recorded) (l : CspSessionLabel) : List CspCall :=
  (machine P.recorded).growth CspSession.calls self l

/-- What a step does to the accounts, before the flows have returned and after. -/
theorem newCalls_of_next {self self' : CspSession P.recorded} (h : self.next l = some self') :
    self'.calls = self.calls ++ self.newCalls l ∧
      (self.pc.hasEnded = false → Moves P self.pc l (self.newCalls l) self'.pc self'.dropped) ∧
      (self.pc.hasEnded = true → self.newCalls l = [] ∧ self'.pc.hasEnded = true ∧
        self'.dropped = self.dropped ∧ ∃ error, l = .shutdown error) := by
  cases hended : self.pc.hasEnded with
  | false =>
      obtain ⟨calls, hmoves, hcalls⟩ := moves_of_next hended h
      have hnew : self.newCalls l = calls := (machine P.recorded).growth_eq h hcalls
      rw [hnew]
      exact ⟨hcalls, fun _ => hmoves, nofun⟩
  | true =>
      obtain ⟨hshutdown, hended', hprotocol, hdropped⟩ := next_of_hasEnded hended h
      have hcalls : self'.calls = self.calls ++ [] := by
        rw [List.append_nil, calls, hprotocol, calls]
      have hnew : self.newCalls l = [] := (machine P.recorded).growth_eq h hcalls
      rw [hnew]
      exact ⟨hcalls, nofun, fun _ => ⟨rfl, hended', hdropped, hshutdown⟩⟩

/-- The calls of a run are those of its steps. -/
theorem calls_exec {self self' : CspSession P.recorded} {ls : List CspSessionLabel}
    (hrun : (machine P.recorded).exec self ls = some self') :
    self'.calls = self.calls ++ (machine P.recorded).collect newCalls self ls :=
  (machine P.recorded).collect_growth
    (fun _ _ _ h => ⟨_, (newCalls_of_next h).1.symm⟩) hrun

/-- The calls of the payload flow. -/
def callsOfPayloadFlow (self : CspSession P.recorded) (ls : List CspSessionLabel) : List CspCall :=
  (machine P.recorded).collect (fun s l => payloadCalls (s.newCalls l) l) self ls

/-- The frames that a run writes. -/
def writes (self : CspSession P.recorded) (ls : List CspSessionLabel) : List Bytes :=
  (machine P.recorded).collect (fun s l => s.pc.written l) self ls

/-- The bytes that are read are given to the protocol, up to those in hand. -/
theorem bytes_exec {self self' : CspSession P.recorded} {ls : List CspSessionLabel}
    (hrun : (machine P.recorded).exec self ls = some self') :
    (((machine P.recorded).collect newCalls self ls).filterMap CspCall.chunk).flatten ++
        self'.inHand = self.inHand ++ ls.flatMap CspSessionLabel.bytesRead := by
  induction ls generalizing self with
  | nil =>
      cases hrun
      exact (List.append_nil _).symm
  | cons l ls ih =>
      obtain ⟨s₁, hl, hrest⟩ := (machine P.recorded).exec_cons_eq_some.mp hrun
      have hstep : ((self.newCalls l).filterMap CspCall.chunk).flatten ++ s₁.inHand =
          self.inHand ++ l.bytesRead := by
        obtain ⟨-, hlive, hended⟩ := newCalls_of_next hl
        cases hpc : self.pc.hasEnded with
        | false =>
            have hbytes := (hlive hpc).bytes
            simp only [inHand, hpc, Bool.false_eq_true, if_false]
            exact hbytes
        | true =>
            obtain ⟨hnew, hpc', hdropped, error, rfl⟩ := hended hpc
            simp only [inHand, hnew, hpc, hpc', if_true, hdropped]
            exact (List.append_nil _).symm
      rw [(machine P.recorded).collect_cons hl, List.filterMap_append, List.flatten_append,
        List.append_assoc, ih hrest, ← List.append_assoc, hstep, List.append_assoc,
        List.flatMap_cons]

/-- An account that the moves balance is balanced over a run. -/
theorem account_exec {ω : Type} (n : ℕ) (due : CspSessionPc → List ω)
    (out script : CspSessionPc → CspSessionLabel → List CspCall → List ω)
    (hbound : ∀ pc, (due pc).length ≤ n)
    (hlive : ∀ {pc l calls pc' dropped}, Moves P pc l calls pc' dropped → pc'.hasEnded = false →
      out pc l calls ++ due pc' = due pc ++ script pc l calls)
    (hend : ∀ {pc l calls pc' dropped}, Moves P pc l calls pc' dropped → pc'.hasEnded = true →
      ∃ rest, rest.length ≤ n ∧ out pc l calls ++ rest = due pc ++ script pc l calls)
    (hshutdown : ∀ pc error, out pc (.shutdown error) [] = [] ∧ script pc (.shutdown error) [] = [])
    {self self' : CspSession P.recorded} {ls : List CspSessionLabel}
    (hstart : self.pc.hasEnded = false) (hrun : (machine P.recorded).exec self ls = some self') :
    ∃ rest, Machine.Leaves n self'.pc.hasEnded (due self'.pc) rest ∧
      (machine P.recorded).collect (fun s l => out s.pc l (s.newCalls l)) self ls ++ rest =
        due self.pc ++
          (machine P.recorded).collect (fun s l => script s.pc l (s.newCalls l)) self ls := by
  refine (machine P.recorded).collect_account (fun s => s.pc.hasEnded) _ _ (fun s => due s.pc) n
    (fun s _ => hbound s.pc) ?_ ?_ ?_ hstart hrun
  · intro s l s' hs hl hs'
    exact hlive ((newCalls_of_next hl).2.1 hs) hs'
  · intro s l s' hs hl hs'
    exact hend ((newCalls_of_next hl).2.1 hs) hs'
  · intro s l s' hs hl
    obtain ⟨hnew, hs', -, error, rfl⟩ := (newCalls_of_next hl).2.2 hs
    rw [hnew]
    exact ⟨hs', hshutdown s.pc error⟩

/-- The frames that are created are written, up to those in progress. -/
theorem frames_exec {self self' : CspSession P.recorded} {ls : List CspSessionLabel}
    (hstart : self.pc.hasEnded = false)
    (hrun : (machine P.recorded).exec self ls = some self') :
    ∃ rest, Machine.Leaves 2 self'.pc.hasEnded self'.pc.dueFrames rest ∧
      self.writes ls ++ rest = self.pc.dueFrames ++
        ((machine P.recorded).collect newCalls self ls).filterMap CspCall.frame := by
  rw [(machine P.recorded).filterMap_collect_eq]
  refine account_exec 2 CspSessionPc.dueFrames (fun pc l _ => pc.written l)
    (fun _ _ calls => calls.filterMap CspCall.frame) length_dueFrames Moves.frames Moves.frames_end
    ?_ hstart hrun
  intro pc error
  cases pc with
  | handshake pc => cases pc <;> exact ⟨rfl, rfl⟩
  | _ => exact ⟨rfl, rfl⟩

/-- The payloads of the payload flow are forwarded, up to the one in progress. -/
theorem forwards_exec {self self' : CspSession P.recorded} {ls : List CspSessionLabel}
    (hstart : self.pc.hasEnded = false)
    (hrun : (machine P.recorded).exec self ls = some self') :
    ∃ rest, Machine.Leaves 1 self'.pc.hasEnded self'.pc.dueForward rest ∧
      ls.flatMap CspSessionLabel.forwarded ++ rest = self.pc.dueForward ++
        (self.callsOfPayloadFlow ls).filterMap CspCall.forwardable := by
  rw [callsOfPayloadFlow, (machine P.recorded).filterMap_collect_eq,
    ← (machine P.recorded).collect_flatMap hrun]
  exact account_exec 1 CspSessionPc.dueForward (fun _ l _ => l.forwarded)
    (fun _ l calls => (payloadCalls calls l).filterMap CspCall.forwardable) length_dueForward
    Moves.forwards Moves.forwards_end (fun _ _ => ⟨rfl, rfl⟩) hstart hrun

/-- Echo requests are answered at once in every run. -/
theorem echoes_exec {self self' : CspSession P.recorded} {ls : List CspSessionLabel}
    (hrun : (machine P.recorded).exec self ls = some self')
    (h : ∃ rest, EchoesAnswered none self.calls rest ∧
      (self.pc.hasEnded = false → rest = self.pc.dueEcho)) :
    ∃ rest, EchoesAnswered none self'.calls rest ∧
      (self'.pc.hasEnded = false → rest = self'.pc.dueEcho) := by
  refine (machine P.recorded).exec_invariant (I := fun s => ∃ rest,
    EchoesAnswered none s.calls rest ∧ (s.pc.hasEnded = false → rest = s.pc.dueEcho)) ?_ h hrun
  rintro s l s' ⟨rest, hrest, hdue⟩ hl
  obtain ⟨hcalls, hlive, hended⟩ := newCalls_of_next hl
  cases hpc : s.pc.hasEnded with
  | false =>
      rw [hdue hpc] at hrest
      obtain ⟨rest', hrest', hdue'⟩ := (hlive hpc).echoes
      rw [hcalls]
      exact ⟨rest', hrest.append hrest', hdue'⟩
  | true =>
      obtain ⟨hnew, hpc', -⟩ := hended hpc
      rw [hcalls, hnew, List.append_nil]
      refine ⟨rest, hrest, ?_⟩
      intro h
      rw [hpc'] at h
      cases h

/-- Every call of a run is one that the protocol can answer so. -/
theorem made_exec {self self' : CspSession P.recorded} {ls : List CspSessionLabel}
    (hrun : (machine P.recorded).exec self ls = some self') (hstart : self.calls = []) :
    ∀ payload echo, .createPayload payload echo ∈ self'.calls → P.Creates payload echo := by
  refine (machine P.recorded).exec_invariant (I := fun s => ∀ payload echo,
    .createPayload payload echo ∈ s.calls → P.Creates payload echo) ?_ ?_ hrun
  · intro s l s' hs hl payload echo hmem
    obtain ⟨hcalls, hlive, hended⟩ := newCalls_of_next hl
    rw [hcalls, List.mem_append] at hmem
    rcases hmem with hmem | hmem
    · exact hs payload echo hmem
    · cases hpc : s.pc.hasEnded with
      | false => exact (hlive hpc).made payload echo hmem
      | true =>
          rw [(hended hpc).1] at hmem
          cases hmem
  · intro payload echo hmem
    rw [hstart] at hmem
    cases hmem

/-- The payloads of the payload flow come out of `poll`, when created instructions
carry none. -/
theorem forwardable_eq_polled {self self' : CspSession P.recorded} {ls : List CspSessionLabel}
    (hrun : (machine P.recorded).exec self ls = some self') (hstart : self.calls = [])
    (hframes : P.CreatesFrames) :
    (self.callsOfPayloadFlow ls).filterMap CspCall.forwardable =
      (self.callsOfPayloadFlow ls).filterMap CspCall.polled := by
  refine List.filterMap_congr fun call hcall => ?_
  have hsublist : (self.callsOfPayloadFlow ls).Sublist
      ((machine P.recorded).collect newCalls self ls) := by
    refine (machine P.recorded).collect_sublist (fun s l => ?_) self ls
    cases l with
    | payload l => exact List.Sublist.refl _
    | _ => exact List.nil_sublist _
  have hmem : call ∈ self'.calls := by
    rw [calls_exec hrun, hstart]
    exact hsublist.subset hcall
  cases call with
  | createPayload payload instruction =>
      have hnone := hframes payload instruction (made_exec hrun hstart payload instruction hmem)
      show instruction.forwardable = none
      rw [CspInstruction.forwardable, hnone]
  | _ => rfl

/-- What a run has relayed, up to what is in progress at its end. -/
structure Relayed (self self' : CspSession P.recorded) (clientHello : Bytes)
    (ls : List CspSessionLabel) : Prop where
  /-- The protocol is given the bytes that are read. -/
  bytes : (self'.calls.filterMap CspCall.chunk).flatten ++ self'.inHand =
    ls.flatMap CspSessionLabel.bytesRead
  /-- The client hello and the frames that the protocol creates are written. -/
  frames : ∃ rest, Machine.Leaves 2 self'.pc.hasEnded self'.pc.dueFrames rest ∧
    self.writes ls ++ rest = clientHello :: self'.calls.filterMap CspCall.frame
  /-- Every echo request is answered by the next call. -/
  echoes : ∃ rest, EchoesAnswered none self'.calls rest ∧
    (self'.pc.hasEnded = false → rest = self'.pc.dueEcho)
  /-- The payloads of the payload flow are forwarded. -/
  forwards : ∃ rest, Machine.Leaves 1 self'.pc.hasEnded self'.pc.dueForward rest ∧
    ls.flatMap CspSessionLabel.forwarded ++ rest =
      (self.callsOfPayloadFlow ls).filterMap CspCall.forwardable
  /-- Those are the payloads that `poll` returned. -/
  polled : P.CreatesFrames → (self.callsOfPayloadFlow ls).filterMap CspCall.forwardable =
    (self.callsOfPayloadFlow ls).filterMap CspCall.polled

/-- The start of `run`, with nothing recorded. -/
def startRecorded (protocol : P.State) (clientHello : Bytes) : CspSession P.recorded :=
  start (P := P.recorded) (protocol, []) clientHello

/-- Every run relays faithfully.  It is the run over the recorded protocol without
the calls, and the calls say what was relayed. -/
theorem csp_relays (protocol : P.State) (clientHello : Bytes) {self : CspSession P}
    {ls : List CspSessionLabel}
    (hrun : (machine P).exec (start protocol clientHello) ls = some self) :
    ∃ self' : CspSession P.recorded,
      (machine P.recorded).exec (startRecorded protocol clientHello) ls = some self' ∧
      self'.erase = self ∧
      (startRecorded protocol clientHello).Relayed self' clientHello ls := by
  have herase := (startRecorded protocol clientHello).exec_erase ls
  rw [show (startRecorded protocol clientHello).erase = start protocol clientHello from rfl, hrun]
    at herase
  obtain ⟨self', hrecorded, heq⟩ := Option.map_eq_some_iff.mp herase
  have hcalls := calls_exec hrecorded
  rw [show (startRecorded protocol clientHello).calls = [] from rfl, List.nil_append] at hcalls
  refine ⟨self', hrecorded, heq, ?_, ?_, ?_, ?_, ?_⟩
  · rw [hcalls]
    exact bytes_exec hrecorded
  · rw [hcalls]
    exact frames_exec rfl hrecorded
  · exact echoes_exec hrecorded ⟨none, rfl, fun _ => rfl⟩
  · exact forwards_exec rfl hrecorded
  · exact forwardable_eq_polled hrecorded rfl

end CspSession

/-! ### A login -/

/-- The first frame is the login acknowledgement, which is answered.  A frame that
starts with a zero is an echo request. -/
def CspProtocol.sampleLogin : CspProtocol where
  State := Bool × Bytes
  nextRequiredLength s := CspProtocol.sample.nextRequiredLength s.2
  poll s :=
    match CspProtocol.sample.poll s.2 with
    | .error message => .error message
    | .ok (none, buffer) => .ok (none, (s.1, buffer))
    | .ok (some instruction, buffer) =>
        match s.1, instruction.incomingPayload with
        | false, _ => .ok (some ⟨some .postHandshake, none, some [9]⟩, (true, buffer))
        | true, some (.messageWithMetadataBox ⟨0 :: payload⟩) =>
            .ok (some ⟨none, some (.echoRequest payload), none⟩, (true, buffer))
        | true, _ => .ok (some instruction, (true, buffer))
  addChunks s chunk := .ok (s.1, s.2 ++ chunk)
  createPayload s payload :=
    match CspProtocol.sample.createPayload s.2 payload with
    | .error message => .error message
    | .ok (instruction, buffer) => .ok (instruction, (s.1, buffer))

namespace CspSession

/-- The read after the login acknowledgement brings an echo request, and the start
of a message. -/
def login : List CspSessionLabel :=
  [.handshake (.written none), .handshake .turn, .handshake (.read (.ok [1])),
    .handshake (.tryReadBuf (.bytes [7, 2, 0, 5, 1])), .handshake (.written none),
    .payload .turn, .payload .turn, .payload (.written none), .payload .turn,
    .payload (.readable (.bytes [3])), .payload .turn,
    .payload (.sentIncoming (.message ⟨[3]⟩))]

theorem csp_relays_login : ∃ self' : CspSession CspProtocol.sampleLogin.recorded,
    (machine CspProtocol.sampleLogin.recorded).exec
        (startRecorded (P := .sampleLogin) (false, []) [42]) login = some self' ∧
      (startRecorded (P := .sampleLogin) (false, []) [42]).Relayed self' [42] login := by
  obtain ⟨self', hrun, -, h⟩ := @csp_relays .sampleLogin (false, []) [42] _ login rfl
  exact ⟨self', hrun, h⟩

example : (startRecorded (P := .sampleLogin) (false, []) [42]).writes login =
    [[42], [9], [5]] := by
  decide

end CspSession

end MultideviceClient
