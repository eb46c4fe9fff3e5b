import MultideviceClient.CspSession

/-!
# What a step of the payload flow can do

`CspRunner.Moves` lists it, with the calls that the step makes of the protocol.  It
speaks of the points of the program and of the calls only, so every account below
is read off it case by case.

*Accounts.*  What the protocol has returned and the program has not dealt with is
in the `CspPc`: frames that are still to be written (`dueFrames`), an echo that is
still to be answered (`dueEcho`) and a payload that is still to be forwarded
(`dueForward`).  Every step pays from what is due and leaves the rest.
-/

namespace MultideviceClient

open Foundations

variable {P : CspProtocol}

/-! ## Calls and instructions -/

/-- The echo request of an instruction. -/
def CspInstruction.echoRequest (instruction : CspInstruction) : Option Bytes :=
  match instruction.incomingPayload with
  | some (.echoRequest payload) => some payload
  | _ => none

/-- The payload of an instruction for the driver. -/
def CspInstruction.forwardable (instruction : CspInstruction) :
    Option IncomingPayloadForCspE2e :=
  match instruction.incomingPayload with
  | some (.messageWithMetadataBox payload) => some (.message payload)
  | some (.messageAck payload) => some (.messageAck payload)
  | _ => none

namespace CspCall

/-- The bytes that the protocol is given. -/
def chunk : CspCall → Option Bytes
  | .addChunks bytes => some bytes
  | _ => none

/-- The instruction that the protocol returns. -/
def instruction : CspCall → Option CspInstruction
  | .addChunks _ => none
  | .poll instruction => instruction
  | .createPayload _ instruction => some instruction

/-- The frame that the protocol creates. -/
def frame (call : CspCall) : Option Bytes := call.instruction.bind CspInstruction.outgoingFrame

/-- The echo request that the protocol returns. -/
def echoRequest (call : CspCall) : Option Bytes := call.instruction.bind CspInstruction.echoRequest

/-- The echo response that the protocol is asked to create. -/
def echoResponse : CspCall → Option Bytes
  | .createPayload (.echoResponse payload) _ => some payload
  | _ => none

/-- The payload for the driver that the protocol returns. -/
def forwardable (call : CspCall) : Option IncomingPayloadForCspE2e :=
  call.instruction.bind CspInstruction.forwardable

/-- The payload for the driver that `poll` returns. -/
def polled : CspCall → Option IncomingPayloadForCspE2e
  | .poll instruction => instruction.bind CspInstruction.forwardable
  | _ => none

theorem filterMap_frame_cons (call : CspCall) (calls : List CspCall) :
    (call :: calls).filterMap frame = call.frame.toList ++ calls.filterMap frame := by
  rw [List.filterMap_cons]
  cases call.frame <;> rfl

theorem filterMap_forwardable_cons (call : CspCall) (calls : List CspCall) :
    (call :: calls).filterMap forwardable =
      call.forwardable.toList ++ calls.filterMap forwardable := by
  rw [List.filterMap_cons]
  cases call.forwardable <;> rfl

/-- A chunk and a poll create the frame of the instruction. -/
theorem filterMap_frame_poll (bytes : Bytes) (instruction : CspInstruction) :
    [addChunks bytes, poll (some instruction)].filterMap frame =
      instruction.outgoingFrame.toList := by
  rw [filterMap_frame_cons, filterMap_frame_cons]
  exact List.append_nil _

end CspCall

/-- The protocol can create the instruction for the payload. -/
def CspProtocol.Creates (P : CspProtocol) (payload : CspOutgoingPayload)
    (instruction : CspInstruction) : Prop :=
  ∃ s s', P.createPayload s payload = .ok (instruction, s')

/-- A created instruction carries no incoming payload. -/
def CspProtocol.CreatesFrames (P : CspProtocol) : Prop :=
  ∀ payload instruction, P.Creates payload instruction → instruction.incomingPayload = none

/-- Echo requests are answered at once: the call after one that returns an echo
request asks for its response, and no other call does.  The first call answers
`owed`, and `rest` is what the last one leaves to answer. -/
def EchoesAnswered : Option Bytes → List CspCall → Option Bytes → Prop
  | owed, [], rest => rest = owed
  | owed, call :: calls, rest =>
      call.echoResponse = owed ∧ EchoesAnswered call.echoRequest calls rest

theorem EchoesAnswered.append {owed mid rest : Option Bytes} {calls calls' : List CspCall}
    (h : EchoesAnswered owed calls mid) (h' : EchoesAnswered mid calls' rest) :
    EchoesAnswered owed (calls ++ calls') rest := by
  induction calls generalizing owed with
  | nil =>
      cases h
      exact h'
  | cons call calls ih => exact ⟨h.1, ih h.2⟩

/-! ## What is in progress -/

/-- The payload flow has returned. -/
def CspPc.hasReturned : CspPc → Bool
  | .returned _ => true
  | _ => false

/-- The frames that are still to be written. -/
def CspPc.dueFrames : CspPc → List Bytes
  | .top nextInstruction => (nextInstruction.bind CspInstruction.outgoingFrame).toList
  | .forward _ frame => frame.toList
  | .write frame nextInstruction =>
      frame :: (nextInstruction.bind CspInstruction.outgoingFrame).toList
  | _ => []

/-- The echo request that is still to be answered. -/
def CspPc.dueEcho : CspPc → Option Bytes
  | .top nextInstruction => nextInstruction.bind CspInstruction.echoRequest
  | .write _ nextInstruction => nextInstruction.bind CspInstruction.echoRequest
  | _ => none

/-- The payload that is still to be forwarded. -/
def CspPc.dueForward : CspPc → List IncomingPayloadForCspE2e
  | .top nextInstruction => (nextInstruction.bind CspInstruction.forwardable).toList
  | .write _ nextInstruction => (nextInstruction.bind CspInstruction.forwardable).toList
  | .forward payload _ => [payload]
  | _ => []

/-- The frame that a label writes. -/
def CspPc.written : CspPc → CspLabel → List Bytes
  | .write frame _, .written none => [frame]
  | _, _ => []

/-- The payload that a label forwards. -/
def CspLabel.forwarded : CspLabel → List IncomingPayloadForCspE2e
  | .sentIncoming payload => [payload]
  | _ => []

/-- The bytes that a label reads. -/
def CspLabel.bytesRead : CspLabel → Bytes
  | .readable (.bytes bytes) => bytes
  | _ => []

/-! ## Moves of the payload flow -/

namespace CspRunner

/-- What the processing of an instruction can lead to. -/
inductive Processed (P : CspProtocol) (instruction : CspInstruction) :
    List CspCall → CspPc → Prop where
  | failed {error : String} : Processed P instruction [] (.returned (.error error))
  | echoed {payload : Bytes} {echo : CspInstruction}
      (h : instruction.incomingPayload = some (.echoRequest payload))
      (hcreate : P.Creates (.echoResponse payload) echo) :
      Processed P instruction [.createPayload (.echoResponse payload) echo]
        (finish instruction.outgoingFrame (some echo))
  | forwarded {payload : IncomingPayloadForCspE2e} (h : instruction.forwardable = some payload) :
      Processed P instruction [] (.forward payload instruction.outgoingFrame)
  | quiet (hecho : instruction.echoRequest = none) (hforward : instruction.forwardable = none) :
      Processed P instruction [] (finish instruction.outgoingFrame none)

/-- What a step of the payload flow can do. -/
inductive Moves (P : CspProtocol) : CspPc → CspLabel → List CspCall → CspPc → Prop where
  | process {instruction : CspInstruction} {calls : List CspCall} {pc : CspPc}
      (h : Processed P instruction calls pc) : Moves P (.top (some instruction)) .turn calls pc
  | poll {instruction : CspInstruction} {calls : List CspCall} {pc : CspPc}
      (h : Processed P instruction calls pc) :
      Moves P (.top none) .turn (.poll (some instruction) :: calls) pc
  | idle : Moves P (.top none) .turn [.poll none] .select
  | pollFails {error : String} : Moves P (.top none) .turn [] (.returned (.error error))
  | read {read : TryRead} {bytes : Bytes} (h : tryReceive read = .ok bytes) :
      Moves P .select (.readable read) [.addChunks bytes] (.top none)
  | readFails {read : TryRead} {error : String} :
      Moves P .select (.readable read) [] (.returned (.error error))
  | create {payload : OutgoingPayloadForCspE2e} {instruction : CspInstruction}
      {calls : List CspCall} {pc : CspPc}
      (hcreate : P.Creates payload.toOutgoingPayload instruction)
      (h : Processed P instruction calls pc) :
      Moves P .select (.recvOutgoing (some payload))
        (.createPayload payload.toOutgoingPayload instruction :: calls) pc
  | recvFails {payload : Option OutgoingPayloadForCspE2e} {result : Except String Unit} :
      Moves P .select (.recvOutgoing payload) [] (.returned result)
  | sent {payload : IncomingPayloadForCspE2e} {frame : Option Bytes} :
      Moves P (.forward payload frame) (.sentIncoming payload) [] (finish frame none)
  | sendFailed {payload : IncomingPayloadForCspE2e} {frame : Option Bytes} {error : String} :
      Moves P (.forward payload frame) .sendFailed [] (.returned (.error error))
  | written {frame : Bytes} {nextInstruction : Option CspInstruction} :
      Moves P (.write frame nextInstruction) (.written none) [] (.top nextInstruction)
  | writeFails {frame : Bytes} {nextInstruction : Option CspInstruction} {error : String} :
      Moves P (.write frame nextInstruction) (.written (some error)) [] (.returned (.error error))

theorem processed_of_process (self : CspRunner P.recorded) (instruction : CspInstruction) :
    ∃ calls, Processed P instruction calls (self.process instruction).pc ∧
      (self.process instruction).protocol.2 = self.protocol.2 ++ calls := by
  simp only [process]
  split
  next => exact ⟨[], .failed, (List.append_nil _).symm⟩
  next =>
      split
      next payload h =>
          simp only [CspProtocol.recorded]
          cases hcreate : P.createPayload self.protocol.1 (.echoResponse payload) with
          | error message => exact ⟨[], .failed, (List.append_nil _).symm⟩
          | ok r => exact ⟨_, .echoed h ⟨_, r.2, hcreate⟩, rfl⟩
      next payload h =>
          refine ⟨[], .forwarded ?_, (List.append_nil _).symm⟩
          simp only [CspInstruction.forwardable, h]
      next payload h =>
          refine ⟨[], .forwarded ?_, (List.append_nil _).symm⟩
          simp only [CspInstruction.forwardable, h]
      next hecho hmessage hack =>
          refine ⟨[], .quiet ?_ ?_, (List.append_nil _).symm⟩
          · simp only [CspInstruction.echoRequest]
          · simp only [CspInstruction.forwardable]

/-- Everything the top of the loop can do. -/
theorem moves_of_turn (self : CspRunner P.recorded) (instruction : Option CspInstruction) :
    ∃ calls, Moves P (.top instruction) .turn calls (self.turn instruction).pc ∧
      (self.turn instruction).protocol.2 = self.protocol.2 ++ calls := by
  cases instruction with
  | some instruction =>
      obtain ⟨calls, hprocessed, hcalls⟩ := self.processed_of_process instruction
      exact ⟨calls, .process hprocessed, hcalls⟩
  | none =>
      simp only [turn, CspProtocol.recorded]
      cases P.poll self.protocol.1 with
      | error message => exact ⟨[], .pollFails, (List.append_nil _).symm⟩
      | ok r =>
          obtain ⟨instruction, protocol⟩ := r
          cases instruction with
          | none => exact ⟨_, .idle, rfl⟩
          | some instruction =>
              obtain ⟨calls, hprocessed, hcalls⟩ := processed_of_process
                (P := P) ⟨(protocol, self.protocol.2 ++ [.poll (some instruction)]),
                  self.pc⟩ instruction
              refine ⟨_, .poll hprocessed, ?_⟩
              exact hcalls.trans (List.append_assoc ..)

/-- Everything a read can do. -/
theorem moves_of_readable {self self' : CspRunner P.recorded} {read : TryRead}
    (h : self.next (.readable read) = some self') :
    ∃ calls, Moves P self.pc (.readable read) calls self'.pc ∧
      self'.protocol.2 = self.protocol.2 ++ calls := by
  simp only [next] at h
  split at h
  next message hpc _ =>
      cases h
      rw [hpc]
      exact ⟨[], .readFails, (List.append_nil _).symm⟩
  next bytes hpc hread =>
      rw [hpc]
      simp only [CspProtocol.recorded] at h
      split at h
      next =>
          cases hadd : P.addChunks self.protocol.1 bytes with
          | error message =>
              simp only [hadd] at h
              cases h
              exact ⟨[], .readFails, (List.append_nil _).symm⟩
          | ok protocol =>
              simp only [hadd] at h
              cases h
              exact ⟨_, .read hread, rfl⟩
      next => cases h
  next => cases h

/-- Everything a payload of the driver can do. -/
theorem moves_of_recvOutgoing {self self' : CspRunner P.recorded}
    {payload : Option OutgoingPayloadForCspE2e}
    (h : self.next (.recvOutgoing payload) = some self') :
    ∃ calls, Moves P self.pc (.recvOutgoing payload) calls self'.pc ∧
      self'.protocol.2 = self.protocol.2 ++ calls := by
  simp only [next] at h
  split at h
  next hpc =>
      cases h
      rw [hpc]
      exact ⟨[], .recvFails, (List.append_nil _).symm⟩
  next payload hpc =>
      rw [hpc]
      simp only [CspProtocol.recorded] at h
      cases hcreate : P.createPayload self.protocol.1 payload.toOutgoingPayload with
      | error message =>
          simp only [hcreate] at h
          cases h
          exact ⟨[], .recvFails, (List.append_nil _).symm⟩
      | ok r =>
          simp only [hcreate] at h
          cases h
          obtain ⟨calls, hprocessed, hcalls⟩ := processed_of_process (P := P)
            ⟨(r.2, self.protocol.2 ++ [.createPayload payload.toOutgoingPayload r.1]),
              self.pc⟩ r.1
          exact ⟨_, .create ⟨_, r.2, hcreate⟩ hprocessed, hcalls.trans (List.append_assoc ..)⟩
  next => cases h

/-- Everything a label can do. -/
theorem moves_of_next {self self' : CspRunner P.recorded} {l : CspLabel}
    (h : self.next l = some self') :
    ∃ calls, Moves P self.pc l calls self'.pc ∧ self'.protocol.2 = self.protocol.2 ++ calls := by
  cases l with
  | turn =>
      simp only [next] at h
      split at h <;> cases h
      next instruction hpc =>
          rw [hpc]
          exact self.moves_of_turn instruction
  | readable read => exact moves_of_readable h
  | recvOutgoing payload => exact moves_of_recvOutgoing h
  | sentIncoming payload =>
      simp only [next] at h
      split at h
      next payload' frame hpc =>
          split at h <;> cases h
          next heq =>
              rw [hpc, heq]
              exact ⟨[], .sent, (List.append_nil _).symm⟩
      next => cases h
  | sendFailed =>
      simp only [next] at h
      split at h <;> cases h
      next hpc =>
          rw [hpc]
          exact ⟨[], .sendFailed, (List.append_nil _).symm⟩
  | written error =>
      simp only [next] at h
      split at h <;> cases h
      next hpc =>
          rw [hpc]
          exact ⟨[], .written, (List.append_nil _).symm⟩
      next hpc =>
          rw [hpc]
          exact ⟨[], .writeFails, (List.append_nil _).symm⟩

/-! ### Accounts of the payload flow -/

theorem dueFrames_finish (frame : Option Bytes) (nextInstruction : Option CspInstruction) :
    (finish frame nextInstruction).dueFrames =
      frame.toList ++ (nextInstruction.bind CspInstruction.outgoingFrame).toList := by
  cases frame <;> rfl

theorem dueEcho_finish (frame : Option Bytes) (nextInstruction : Option CspInstruction) :
    (finish frame nextInstruction).dueEcho = nextInstruction.bind CspInstruction.echoRequest := by
  cases frame <;> rfl

theorem dueForward_finish (frame : Option Bytes) (nextInstruction : Option CspInstruction) :
    (finish frame nextInstruction).dueForward =
      (nextInstruction.bind CspInstruction.forwardable).toList := by
  cases frame <;> rfl

theorem hasReturned_finish (frame : Option Bytes) (nextInstruction : Option CspInstruction) :
    (finish frame nextInstruction).hasReturned = false := by
  cases frame <;> rfl

variable {instruction : CspInstruction} {l : CspLabel} {calls : List CspCall} {pc pc' : CspPc}

theorem Processed.frames (h : Processed P instruction calls pc) (hlive : pc.hasReturned = false) :
    pc.dueFrames = instruction.outgoingFrame.toList ++ calls.filterMap CspCall.frame := by
  cases h with
  | failed => cases hlive
  | @echoed payload echo h hcreate =>
      rw [dueFrames_finish]
      cases hframe : echo.outgoingFrame <;> simp [CspCall.frame, CspCall.instruction, hframe]
  | forwarded h => exact (List.append_nil _).symm
  | quiet hecho hforward => rw [dueFrames_finish]; rfl

theorem Processed.failed_calls (h : Processed P instruction calls pc)
    (hend : pc.hasReturned = true) : calls = [] := by
  cases h with
  | failed => rfl
  | echoed h hcreate =>
      rw [hasReturned_finish] at hend
      cases hend
  | forwarded h => rfl
  | quiet hecho hforward => rfl

/-- The echo of an instruction is answered by the next call, or the flow returns. -/
theorem Processed.echoes (h : Processed P instruction calls pc) :
    ∃ rest, EchoesAnswered instruction.echoRequest calls rest ∧
      (pc.hasReturned = false → rest = pc.dueEcho) := by
  cases h with
  | failed => exact ⟨_, rfl, nofun⟩
  | @echoed payload echo h hcreate =>
      refine ⟨echo.echoRequest, ⟨?_, rfl⟩, fun _ => by rw [dueEcho_finish]; rfl⟩
      simp only [CspInstruction.echoRequest, h]
      rfl
  | @forwarded payload h =>
      refine ⟨none, ?_, fun _ => rfl⟩
      simp only [CspInstruction.forwardable] at h
      simp only [CspInstruction.echoRequest]
      split
      next hecho =>
          rw [hecho] at h
          cases h
      next => rfl
  | quiet hecho hforward => exact ⟨none, hecho.symm, fun _ => by rw [dueEcho_finish]; rfl⟩

theorem Processed.forwards (h : Processed P instruction calls pc)
    (hlive : pc.hasReturned = false) :
    pc.dueForward = instruction.forwardable.toList ++ calls.filterMap CspCall.forwardable := by
  cases h with
  | failed => cases hlive
  | @echoed payload echo h hcreate =>
      have hnone : instruction.forwardable = none := by
        simp only [CspInstruction.forwardable, h]
      rw [dueForward_finish, hnone]
      cases hforward : echo.forwardable <;>
        simp [CspCall.forwardable, CspCall.instruction, hforward]
  | forwarded h =>
      rw [h]
      rfl
  | quiet hecho hforward =>
      rw [dueForward_finish, hforward]
      rfl

theorem Processed.chunks (h : Processed P instruction calls pc) :
    calls.filterMap CspCall.chunk = [] := by
  cases h <;> rfl

/-- Every call is one that the protocol can answer so. -/
theorem Processed.made (h : Processed P instruction calls pc) :
    ∀ payload echo, .createPayload payload echo ∈ calls → P.Creates payload echo := by
  intro payload echo hmem
  cases h with
  | echoed h hcreate =>
      rw [List.mem_singleton] at hmem
      cases hmem
      exact hcreate
  | _ => cases hmem

theorem Moves.live (h : Moves P pc l calls pc') : pc.hasReturned = false := by
  cases h <;> rfl

theorem Moves.frames (h : Moves P pc l calls pc') (hlive : pc'.hasReturned = false) :
    pc.written l ++ pc'.dueFrames = pc.dueFrames ++ calls.filterMap CspCall.frame := by
  cases h with
  | process h => exact h.frames hlive
  | poll h =>
      rw [CspCall.filterMap_frame_cons]
      exact h.frames hlive
  | create hcreate h =>
      rw [CspCall.filterMap_frame_cons]
      exact h.frames hlive
  | sent => rw [dueFrames_finish]; rfl
  | written => exact (List.append_nil _).symm
  | idle => rfl
  | read h => rfl
  | _ => cases hlive

/-- When the flow returns, at most two frames have not been written. -/
theorem Moves.frames_end (h : Moves P pc l calls pc') (hend : pc'.hasReturned = true) :
    ∃ rest : List Bytes, rest.length ≤ 2 ∧
      pc.written l ++ rest = pc.dueFrames ++ calls.filterMap CspCall.frame := by
  have hoption : ∀ frame : Option Bytes, frame.toList.length ≤ 1 := fun _ =>
    Option.length_toList_le
  cases h with
  | @process instruction _ _ h =>
      rw [h.failed_calls hend]
      exact ⟨_, Nat.le_succ_of_le (hoption instruction.outgoingFrame), (List.append_nil _).symm⟩
  | @poll instruction _ _ h =>
      rw [h.failed_calls hend, CspCall.filterMap_frame_cons]
      exact ⟨_, Nat.le_succ_of_le (hoption instruction.outgoingFrame), (List.append_nil _).symm⟩
  | @create payload instruction _ _ hcreate h =>
      rw [h.failed_calls hend, CspCall.filterMap_frame_cons]
      exact ⟨_, Nat.le_succ_of_le (hoption instruction.outgoingFrame), (List.append_nil _).symm⟩
  | @sendFailed payload frame error =>
      exact ⟨_, Nat.le_succ_of_le (hoption frame), (List.append_nil _).symm⟩
  | @writeFails frame nextInstruction error =>
      refine ⟨_, ?_, (List.append_nil _).symm⟩
      have hnext := hoption (nextInstruction.bind CspInstruction.outgoingFrame)
      show _ + 1 ≤ 2
      omega
  | @sent payload frame =>
      rw [hasReturned_finish] at hend
      cases hend
  | pollFails => exact ⟨[], by simp, rfl⟩
  | readFails => exact ⟨[], by simp, rfl⟩
  | recvFails => exact ⟨[], by simp, rfl⟩
  | _ => cases hend

theorem Moves.echoes (h : Moves P pc l calls pc') :
    ∃ rest, EchoesAnswered pc.dueEcho calls rest ∧
      (pc'.hasReturned = false → rest = pc'.dueEcho) := by
  cases h with
  | process h => exact h.echoes
  | poll h =>
      obtain ⟨rest, hrest, hdue⟩ := h.echoes
      exact ⟨rest, ⟨rfl, hrest⟩, hdue⟩
  | @create payload _ _ _ hcreate h =>
      obtain ⟨rest, hrest, hdue⟩ := h.echoes
      refine ⟨rest, ⟨?_, hrest⟩, hdue⟩
      cases payload <;> rfl
  | sent => exact ⟨none, rfl, fun _ => by rw [dueEcho_finish]; rfl⟩
  | idle => exact ⟨none, ⟨rfl, rfl⟩, fun _ => rfl⟩
  | read h => exact ⟨none, ⟨rfl, rfl⟩, fun _ => rfl⟩
  | _ => exact ⟨_, rfl, fun _ => by first | rfl | contradiction⟩

theorem Moves.forwards (h : Moves P pc l calls pc') (hlive : pc'.hasReturned = false) :
    l.forwarded ++ pc'.dueForward = pc.dueForward ++ calls.filterMap CspCall.forwardable := by
  cases h with
  | process h => exact h.forwards hlive
  | poll h =>
      rw [CspCall.filterMap_forwardable_cons]
      exact h.forwards hlive
  | create hcreate h =>
      rw [CspCall.filterMap_forwardable_cons]
      exact h.forwards hlive
  | sent => rw [dueForward_finish]; rfl
  | written => exact (List.append_nil _).symm
  | idle => rfl
  | read h => rfl
  | _ => cases hlive

/-- When the flow returns, at most one payload has not been forwarded. -/
theorem Moves.forwards_end (h : Moves P pc l calls pc') (hend : pc'.hasReturned = true) :
    ∃ rest : List IncomingPayloadForCspE2e, rest.length ≤ 1 ∧
      l.forwarded ++ rest = pc.dueForward ++ calls.filterMap CspCall.forwardable := by
  cases h with
  | @process instruction _ _ h =>
      rw [h.failed_calls hend]
      exact ⟨_, Option.length_toList_le, (List.append_nil instruction.forwardable.toList).symm⟩
  | @poll instruction _ _ h =>
      rw [h.failed_calls hend, CspCall.filterMap_forwardable_cons]
      exact ⟨_, Option.length_toList_le, (List.append_nil instruction.forwardable.toList).symm⟩
  | @create payload instruction _ _ hcreate h =>
      rw [h.failed_calls hend, CspCall.filterMap_forwardable_cons]
      exact ⟨_, Option.length_toList_le, (List.append_nil instruction.forwardable.toList).symm⟩
  | @sendFailed payload frame error => exact ⟨[payload], Nat.le_refl 1, rfl⟩
  | @writeFails frame nextInstruction error =>
      exact ⟨_, Option.length_toList_le, (List.append_nil _).symm⟩
  | @sent payload frame =>
      rw [hasReturned_finish] at hend
      cases hend
  | pollFails => exact ⟨[], Nat.zero_le 1, rfl⟩
  | readFails => exact ⟨[], Nat.zero_le 1, rfl⟩
  | recvFails => exact ⟨[], Nat.zero_le 1, rfl⟩
  | _ => cases hend

/-- The bytes that are read are given to the protocol, or dropped. -/
theorem Moves.bytes (h : Moves P pc l calls pc') :
    (calls.filterMap CspCall.chunk).flatten ++ CspSession.droppedBy l pc' = l.bytesRead := by
  cases h with
  | process h =>
      rw [h.chunks]
      rfl
  | poll h =>
      rw [List.filterMap_cons, h.chunks]
      rfl
  | create hcreate h =>
      rw [List.filterMap_cons, h.chunks]
      rfl
  | @read read bytes h =>
      cases read with
      | bytes bytes =>
          cases h
          simp [CspCall.chunk, CspSession.droppedBy, CspLabel.bytesRead]
      | error message => cases h
      | _ =>
          cases h
          rfl
  | @readFails read error => cases read <;> rfl
  | _ => rfl

theorem Moves.made (h : Moves P pc l calls pc') :
    ∀ payload echo, .createPayload payload echo ∈ calls → P.Creates payload echo := by
  intro payload echo hmem
  cases h with
  | process h => exact h.made payload echo hmem
  | poll h =>
      rcases List.mem_cons.mp hmem with heq | hmem
      · cases heq
      · exact h.made payload echo hmem
  | create hcreate h =>
      rcases List.mem_cons.mp hmem with heq | hmem
      · cases heq
        exact hcreate
      · exact h.made payload echo hmem
  | idle => cases List.mem_singleton.mp hmem
  | read h => cases List.mem_singleton.mp hmem
  | _ => cases hmem

end CspRunner

end MultideviceClient
