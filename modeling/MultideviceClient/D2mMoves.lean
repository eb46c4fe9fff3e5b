import MultideviceClient.D2mSession

/-!
# What a step of the mediator's payload flow can do

`D2mRunner.Moves` lists it, with the calls that the step makes of the protocol, and
every account below is read off it case by case.  What the protocol has returned
and the program has not dealt with is in the `D2mPc`.  A `receive` that the
`select!` drops has read pings, pongs and closes only, so it holds no datagram.
-/

namespace MultideviceClient

open Foundations

variable {P : D2mProtocol}

/-! ## Calls -/

namespace D2mCall

/-- The datagrams that the protocol is given. -/
def given : D2mCall → List Bytes
  | .addDatagrams datagrams => datagrams
  | _ => []

/-- The payload that the protocol is asked to create. -/
def created : D2mCall → List D2mOutgoingPayload
  | .createPayload payload _ => [payload]
  | _ => []

/-- The instruction that the protocol returns. -/
def instruction : D2mCall → Option D2mInstruction
  | .addDatagrams _ => none
  | .poll instruction => instruction
  | .createPayload _ instruction => some instruction

/-- The datagram that the protocol creates. -/
def datagram (call : D2mCall) : List Bytes :=
  (call.instruction.bind D2mInstruction.outgoingDatagram).toList

/-- The payload for the driver that the protocol returns. -/
def forwardable (call : D2mCall) : List D2mIncomingPayload :=
  (call.instruction.bind D2mInstruction.incomingPayload).toList

/-- The payload for the driver that `poll` returns. -/
def polled : D2mCall → List D2mIncomingPayload
  | .poll instruction => (instruction.bind D2mInstruction.incomingPayload).toList
  | _ => []

end D2mCall

/-- The protocol can create the instruction for the payload. -/
def D2mProtocol.Creates (P : D2mProtocol) (payload : D2mOutgoingPayload)
    (instruction : D2mInstruction) : Prop :=
  ∃ s s', P.createPayload s payload = .ok (instruction, s')

/-- A created instruction carries no incoming payload. -/
def D2mProtocol.CreatesDatagrams (P : D2mProtocol) : Prop :=
  ∀ payload instruction, P.Creates payload instruction → instruction.incomingPayload = none

/-! ## What is in progress -/

/-- The payload flow has returned. -/
def D2mPc.hasReturned : D2mPc → Bool
  | .returned _ => true
  | _ => false

/-- The datagram that is still to be written. -/
def D2mPc.dueDatagram : D2mPc → List Bytes
  | .forward _ datagram => datagram.toList
  | .write datagram => [datagram]
  | _ => []

/-- The payload that is still to be forwarded. -/
def D2mPc.dueForward : D2mPc → List D2mIncomingPayload
  | .forward payload _ => [payload]
  | _ => []

/-- The datagram that a label writes. -/
def D2mPc.written : D2mPc → D2mLabel → List Bytes
  | .write datagram, .written none => [datagram]
  | _, _ => []

/-- The payload that a label forwards. -/
def D2mLabel.forwarded : D2mLabel → List D2mIncomingPayload
  | .sentIncoming payload => [payload]
  | _ => []

/-- The payload that a label takes from the driver. -/
def D2mLabel.taken : D2mLabel → List D2mOutgoingPayload
  | .recvOutgoing payload => [payload]
  | _ => []

/-- The contents of a binary message. -/
def WebSocketMessage.contents : WebSocketMessage → List Bytes
  | .binary bytes => [bytes]
  | _ => []

/-- The datagram that a label reads. -/
def D2mLabel.datagramsRead : D2mLabel → List Bytes
  | .received message => message.contents
  | _ => []

/-! ## Moves of the payload flow -/

namespace D2mRunner

/-- What the processing of an instruction can lead to. -/
inductive Processed (instruction : D2mInstruction) : D2mPc → Prop where
  | failed {error : String} : Processed instruction (.returned error)
  | forwarded {payload : D2mIncomingPayload} (h : instruction.incomingPayload = some payload) :
      Processed instruction (.forward payload instruction.outgoingDatagram)
  | quiet (h : instruction.incomingPayload = none) :
      Processed instruction (finish instruction.outgoingDatagram)

/-- What a step of the payload flow can do. -/
inductive Moves (P : D2mProtocol) : D2mPc → D2mLabel → List D2mCall → D2mPc → Prop where
  | poll {instruction : D2mInstruction} {pc : D2mPc} (h : Processed instruction pc) :
      Moves P .top .turn [.poll (some instruction)] pc
  | idle : Moves P .top .turn [.poll none] (.select none)
  | pollFails {error : String} : Moves P .top .turn [] (.returned error)
  | binary {bytes : Bytes} :
      Moves P (.select none) (.received (.binary bytes)) [.addDatagrams [bytes]] .top
  | receiveFails {message : WebSocketMessage} {error : String} :
      Moves P (.select none) (.received message) [] (.returned error)
  | receiveGoesOn {message : WebSocketMessage} {pong : Option Bytes}
      (h : message.contents = []) :
      Moves P (.select none) (.received message) [] (.select pong)
  | pongFed {pong : Bytes} : Moves P (.select (some pong)) (.pongFed none) [] (.select none)
  | pongFails {pong : Bytes} {error : String} :
      Moves P (.select (some pong)) (.pongFed (some error)) [] (.returned error)
  | create {payload : D2mOutgoingPayload} {instruction : D2mInstruction} {pong : Option Bytes}
      {pc : D2mPc} (hcreate : P.Creates payload instruction) (h : Processed instruction pc) :
      Moves P (.select pong) (.recvOutgoing payload) [.createPayload payload instruction] pc
  | createFails {payload : D2mOutgoingPayload} {pong : Option Bytes} {error : String} :
      Moves P (.select pong) (.recvOutgoing payload) [] (.returned error)
  | sent {payload : D2mIncomingPayload} {datagram : Option Bytes} :
      Moves P (.forward payload datagram) (.sentIncoming payload) [] (finish datagram)
  | sendFailed {payload : D2mIncomingPayload} {datagram : Option Bytes} {error : String} :
      Moves P (.forward payload datagram) .sendFailed [] (.returned error)
  | written {datagram : Bytes} : Moves P (.write datagram) (.written none) [] .top
  | writeFails {datagram : Bytes} {error : String} :
      Moves P (.write datagram) (.written (some error)) [] (.returned error)

theorem processed_of_process (self : D2mRunner P.recorded) (instruction : D2mInstruction) :
    Processed instruction (self.process instruction).pc ∧
      (self.process instruction).protocol = self.protocol := by
  simp only [process]
  split
  next => exact ⟨.failed, rfl⟩
  next =>
      cases h : instruction.incomingPayload with
      | some payload => exact ⟨.forwarded h, rfl⟩
      | none => exact ⟨.quiet h, rfl⟩

theorem moves_of_received {self : D2mRunner P.recorded} (h : self.pc = .select none)
    (message : WebSocketMessage) :
    ∃ calls, Moves P (.select none) (.received message) calls (self.receive message).pc ∧
      (self.receive message).protocol.2 = self.protocol.2 ++ calls := by
  cases message with
  | binary bytes =>
      simp only [receive, D2mProtocol.recorded]
      cases P.addDatagrams self.protocol.1 [bytes] with
      | error message => exact ⟨[], .receiveFails, (List.append_nil _).symm⟩
      | ok protocol => exact ⟨_, .binary, rfl⟩
  | ping bytes => exact ⟨[], .receiveGoesOn rfl, (List.append_nil _).symm⟩
  | pong =>
      simp only [receive, h]
      exact ⟨[], .receiveGoesOn rfl, (List.append_nil _).symm⟩
  | close =>
      simp only [receive, h]
      exact ⟨[], .receiveGoesOn rfl, (List.append_nil _).symm⟩
  | _ => exact ⟨[], .receiveFails, (List.append_nil _).symm⟩

/-- Everything the top of the loop can do. -/
theorem moves_of_turn (self : D2mRunner P.recorded) :
    ∃ calls, Moves P .top .turn calls self.turn.pc ∧
      self.turn.protocol.2 = self.protocol.2 ++ calls := by
  simp only [turn, D2mProtocol.recorded]
  cases P.poll self.protocol.1 with
  | error message => exact ⟨[], .pollFails, (List.append_nil _).symm⟩
  | ok r =>
      obtain ⟨instruction, protocol⟩ := r
      cases instruction with
      | none => exact ⟨_, .idle, rfl⟩
      | some instruction =>
          obtain ⟨hprocessed, hprotocol⟩ := processed_of_process (P := P)
            ⟨(protocol, self.protocol.2 ++ [.poll (some instruction)]), self.pc⟩ instruction
          exact ⟨_, .poll hprocessed, congrArg Prod.snd hprotocol⟩

/-- Everything a payload of the driver can do. -/
theorem moves_of_recvOutgoing {self self' : D2mRunner P.recorded} {payload : D2mOutgoingPayload}
    (h : self.next (.recvOutgoing payload) = some self') :
    ∃ calls, Moves P self.pc (.recvOutgoing payload) calls self'.pc ∧
      self'.protocol.2 = self.protocol.2 ++ calls := by
  simp only [next] at h
  split at h
  next pong hpc =>
      rw [hpc]
      simp only [D2mProtocol.recorded] at h
      cases hcreate : P.createPayload self.protocol.1 payload with
      | error message =>
          simp only [hcreate] at h
          cases h
          exact ⟨[], .createFails, (List.append_nil _).symm⟩
      | ok r =>
          simp only [hcreate] at h
          cases h
          obtain ⟨hprocessed, hprotocol⟩ := processed_of_process (P := P)
            ⟨(r.2, self.protocol.2 ++ [.createPayload payload r.1]), self.pc⟩ r.1
          exact ⟨_, .create ⟨_, r.2, hcreate⟩ hprocessed, congrArg Prod.snd hprotocol⟩
  next => cases h

/-- Everything a label can do. -/
theorem moves_of_next {self self' : D2mRunner P.recorded} {l : D2mLabel}
    (h : self.next l = some self') :
    ∃ calls, Moves P self.pc l calls self'.pc ∧ self'.protocol.2 = self.protocol.2 ++ calls := by
  cases l with
  | turn =>
      simp only [next] at h
      split at h <;> cases h
      next hpc =>
          rw [hpc]
          exact self.moves_of_turn
  | received message =>
      simp only [next] at h
      split at h <;> cases h
      next hpc =>
          rw [hpc]
          exact moves_of_received hpc message
  | pongFed error =>
      simp only [next] at h
      split at h <;> cases h
      next hpc =>
          rw [hpc]
          exact ⟨[], .pongFed, (List.append_nil _).symm⟩
      next hpc =>
          rw [hpc]
          exact ⟨[], .pongFails, (List.append_nil _).symm⟩
  | recvOutgoing payload => exact moves_of_recvOutgoing h
  | sentIncoming payload =>
      simp only [next] at h
      split at h
      next payload' datagram hpc =>
          split at h <;> cases h
          next heq =>
              rw [hpc, heq]
              exact ⟨[], .sent, (List.append_nil _).symm⟩
      next => cases h
  | sendFailed =>
      simp only [next] at h
      split at h <;> cases h
      next hpc =>
          rw [hpc]
          exact ⟨[], .sendFailed, (List.append_nil _).symm⟩
  | written error =>
      simp only [next] at h
      split at h <;> cases h
      next hpc =>
          rw [hpc]
          exact ⟨[], .written, (List.append_nil _).symm⟩
      next hpc =>
          rw [hpc]
          exact ⟨[], .writeFails, (List.append_nil _).symm⟩

/-! ### Accounts of the payload flow -/

theorem dueDatagram_finish (datagram : Option Bytes) :
    (finish datagram).dueDatagram = datagram.toList := by
  cases datagram <;> rfl

theorem dueForward_finish (datagram : Option Bytes) : (finish datagram).dueForward = [] := by
  cases datagram <;> rfl

theorem hasReturned_finish (datagram : Option Bytes) : (finish datagram).hasReturned = false := by
  cases datagram <;> rfl

variable {instruction : D2mInstruction} {l : D2mLabel} {calls : List D2mCall} {pc pc' : D2mPc}

theorem Processed.datagram (h : Processed instruction pc) (hlive : pc.hasReturned = false) :
    pc.dueDatagram = instruction.outgoingDatagram.toList := by
  cases h with
  | failed => cases hlive
  | forwarded h => rfl
  | quiet h => exact dueDatagram_finish _

theorem Processed.forwards (h : Processed instruction pc) (hlive : pc.hasReturned = false) :
    pc.dueForward = instruction.incomingPayload.toList := by
  cases h with
  | failed => cases hlive
  | forwarded h =>
      rw [h]
      rfl
  | quiet h =>
      rw [h]
      exact dueForward_finish _

theorem Moves.live (h : Moves P pc l calls pc') : pc.hasReturned = false := by
  cases h <;> rfl

theorem Moves.given (h : Moves P pc l calls pc') (hlive : pc'.hasReturned = false) :
    calls.flatMap D2mCall.given = l.datagramsRead := by
  cases h with
  | receiveFails => cases hlive
  | receiveGoesOn h => exact h.symm
  | _ => rfl

theorem Moves.given_end (h : Moves P pc l calls pc') (hend : pc'.hasReturned = true) :
    ∃ rest : List Bytes, rest.length ≤ 1 ∧
      calls.flatMap D2mCall.given ++ rest = l.datagramsRead := by
  cases h with
  | @receiveFails message error =>
      refine ⟨message.contents, ?_, rfl⟩
      cases message <;> first | exact Nat.le_refl 1 | exact Nat.zero_le 1
  | @binary bytes => cases hend
  | receiveGoesOn h => cases hend
  | _ => exact ⟨[], Nat.zero_le 1, rfl⟩

theorem Moves.created (h : Moves P pc l calls pc') (hlive : pc'.hasReturned = false) :
    calls.flatMap D2mCall.created = l.taken := by
  cases h with
  | createFails => cases hlive
  | _ => rfl

theorem Moves.created_end (h : Moves P pc l calls pc') :
    ∃ rest : List D2mOutgoingPayload, rest.length ≤ 1 ∧
      calls.flatMap D2mCall.created ++ rest = l.taken := by
  cases h with
  | @createFails payload pong error => exact ⟨[payload], Nat.le_refl 1, rfl⟩
  | _ => exact ⟨[], Nat.zero_le 1, rfl⟩

theorem Moves.datagrams (h : Moves P pc l calls pc') (hlive : pc'.hasReturned = false) :
    pc.written l ++ pc'.dueDatagram = pc.dueDatagram ++ calls.flatMap D2mCall.datagram := by
  cases h with
  | poll h =>
      rw [h.datagram hlive, List.flatMap_singleton]
      rfl
  | create hcreate h =>
      rw [h.datagram hlive, List.flatMap_singleton]
      rfl
  | sent =>
      rw [dueDatagram_finish]
      exact (List.append_nil _).symm
  | written => rfl
  | idle => rfl
  | binary => rfl
  | receiveGoesOn h => rfl
  | pongFed => rfl
  | _ => cases hlive

theorem Moves.datagrams_end (h : Moves P pc l calls pc') (hend : pc'.hasReturned = true) :
    ∃ rest : List Bytes, rest.length ≤ 1 ∧
      pc.written l ++ rest = pc.dueDatagram ++ calls.flatMap D2mCall.datagram := by
  cases h with
  | @poll instruction _ h =>
      exact ⟨instruction.outgoingDatagram.toList, Option.length_toList_le,
        by rw [List.flatMap_singleton]; rfl⟩
  | @create payload instruction _ _ hcreate h =>
      exact ⟨instruction.outgoingDatagram.toList, Option.length_toList_le,
        by rw [List.flatMap_singleton]; rfl⟩
  | @sendFailed payload datagram error =>
      exact ⟨datagram.toList, Option.length_toList_le, (List.append_nil _).symm⟩
  | @writeFails datagram error => exact ⟨[datagram], Nat.le_refl 1, rfl⟩
  | sent =>
      rw [hasReturned_finish] at hend
      cases hend
  | pollFails => exact ⟨[], Nat.zero_le 1, rfl⟩
  | receiveFails => exact ⟨[], Nat.zero_le 1, rfl⟩
  | pongFails => exact ⟨[], Nat.zero_le 1, rfl⟩
  | createFails => exact ⟨[], Nat.zero_le 1, rfl⟩
  | _ => cases hend

theorem Moves.forwards (h : Moves P pc l calls pc') (hlive : pc'.hasReturned = false) :
    l.forwarded ++ pc'.dueForward = pc.dueForward ++ calls.flatMap D2mCall.forwardable := by
  cases h with
  | poll h =>
      rw [h.forwards hlive, List.flatMap_singleton]
      rfl
  | create hcreate h =>
      rw [h.forwards hlive, List.flatMap_singleton]
      rfl
  | sent =>
      rw [dueForward_finish]
      rfl
  | written => rfl
  | idle => rfl
  | binary => rfl
  | receiveGoesOn h => rfl
  | pongFed => rfl
  | _ => cases hlive

theorem Moves.forwards_end (h : Moves P pc l calls pc') (hend : pc'.hasReturned = true) :
    ∃ rest : List D2mIncomingPayload, rest.length ≤ 1 ∧
      l.forwarded ++ rest = pc.dueForward ++ calls.flatMap D2mCall.forwardable := by
  cases h with
  | @poll instruction _ h =>
      exact ⟨instruction.incomingPayload.toList, Option.length_toList_le,
        by rw [List.flatMap_singleton]; rfl⟩
  | @create payload instruction _ _ hcreate h =>
      exact ⟨instruction.incomingPayload.toList, Option.length_toList_le,
        by rw [List.flatMap_singleton]; rfl⟩
  | @sendFailed payload datagram error => exact ⟨[payload], Nat.le_refl 1, rfl⟩
  | sent =>
      rw [hasReturned_finish] at hend
      cases hend
  | pollFails => exact ⟨[], Nat.zero_le 1, rfl⟩
  | receiveFails => exact ⟨[], Nat.zero_le 1, rfl⟩
  | pongFails => exact ⟨[], Nat.zero_le 1, rfl⟩
  | createFails => exact ⟨[], Nat.zero_le 1, rfl⟩
  | writeFails => exact ⟨[], Nat.zero_le 1, rfl⟩
  | _ => cases hend

theorem Moves.made (h : Moves P pc l calls pc') :
    ∀ payload instruction, .createPayload payload instruction ∈ calls →
      P.Creates payload instruction := by
  intro payload instruction hmem
  cases h with
  | create hcreate h =>
      cases List.mem_singleton.mp hmem
      exact hcreate
  | poll h => cases List.mem_singleton.mp hmem
  | idle => cases List.mem_singleton.mp hmem
  | binary => cases List.mem_singleton.mp hmem
  | _ => cases hmem

end D2mRunner

end MultideviceClient
