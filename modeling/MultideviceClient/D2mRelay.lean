import MultideviceClient.D2mMoves

/-!
# The mediator connection relays faithfully

Over a whole run, from the first datagram to the close: the protocol is given the
binary messages in their order, the payloads that it returns in the payload flow
reach the driver in their order, and the datagrams that it creates are written in
that order.  It is asked to create the driver's payloads in the order in which they
are received, so a `CommitTransaction` never overtakes a `Reflect` (`d2m_relays`).

`D2mSession.Moves` puts the handshake before `D2mRunner.Moves`.  Every account is
exact while `run` goes on, and at most one entry of each was in progress when it
returned.
-/

namespace MultideviceClient

open Foundations

variable {P : D2mProtocol}

/-! ## Moves of the whole run -/

/-- The flows have returned. -/
def D2mSessionPc.hasEnded : D2mSessionPc → Bool
  | .payload pc => pc.hasReturned
  | .returned _ => true
  | _ => false

/-- The datagram that is still to be written. -/
def D2mSessionPc.dueDatagram : D2mSessionPc → List Bytes
  | .handshake (.write datagram _) => [datagram]
  | .payload pc => pc.dueDatagram
  | _ => []

/-- The payload that is still to be forwarded. -/
def D2mSessionPc.dueForward : D2mSessionPc → List D2mIncomingPayload
  | .payload pc => pc.dueForward
  | _ => []

/-- The datagram that a label writes. -/
def D2mSessionPc.written : D2mSessionPc → D2mSessionLabel → List Bytes
  | .handshake (.write datagram _), .handshake (.written none) => [datagram]
  | .payload pc, .payload l => pc.written l
  | _, _ => []

/-- The payload that a label forwards. -/
def D2mSessionLabel.forwarded : D2mSessionLabel → List D2mIncomingPayload
  | .payload l => l.forwarded
  | _ => []

/-- The payload that a label takes from the driver. -/
def D2mSessionLabel.taken : D2mSessionLabel → List D2mOutgoingPayload
  | .payload l => l.taken
  | _ => []

/-- The datagram that a label reads. -/
def D2mSessionLabel.datagramsRead : D2mSessionLabel → List Bytes
  | .handshake (.received message) => message.contents
  | .payload l => l.datagramsRead
  | _ => []

/-- The calls that a label makes in the payload flow. -/
def D2mSessionLabel.payloadCalls : D2mSessionLabel → List D2mCall → List D2mCall
  | .payload _, calls => calls
  | _, _ => []

namespace D2mSession

/-- What a datagram of the handshake can lead to. -/
inductive DatagramAdded (bytes : Bytes) : List D2mCall → D2mSessionPc → Prop where
  | refused {error : String} : DatagramAdded bytes [] (.returned error)
  | pollFails {error : String} : DatagramAdded bytes [.addDatagrams [bytes]] (.returned error)
  | idle : DatagramAdded bytes [.addDatagrams [bytes], .poll none] (.handshake (.receive none))
  | unexpected {instruction : D2mInstruction} {error : String} :
      DatagramAdded bytes [.addDatagrams [bytes], .poll (some instruction)] (.returned error)
  | datagram {instruction : D2mInstruction} {datagram : Bytes}
      (hdatagram : instruction.outgoingDatagram = some datagram) :
      DatagramAdded bytes [.addDatagrams [bytes], .poll (some instruction)]
        (.handshake (.write datagram instruction.stateUpdate))
  | noDatagram {instruction : D2mInstruction} (hdatagram : instruction.outgoingDatagram = none) :
      DatagramAdded bytes [.addDatagrams [bytes], .poll (some instruction)]
        (afterInstruction instruction.stateUpdate)

/-- What a step can do before the flows have returned. -/
inductive Moves (P : D2mProtocol) :
    D2mSessionPc → D2mSessionLabel → List D2mCall → D2mSessionPc → Prop where
  | binary {bytes : Bytes} {calls : List D2mCall} {pc : D2mSessionPc}
      (h : DatagramAdded bytes calls pc) :
      Moves P (.handshake (.receive none)) (.handshake (.received (.binary bytes))) calls pc
  | receiveFails {message : WebSocketMessage} {error : String} (h : message.contents = []) :
      Moves P (.handshake (.receive none)) (.handshake (.received message)) [] (.returned error)
  | receiveGoesOn {message : WebSocketMessage} {pong : Option Bytes} (h : message.contents = []) :
      Moves P (.handshake (.receive none)) (.handshake (.received message)) []
        (.handshake (.receive pong))
  | pongFed {pong : Bytes} :
      Moves P (.handshake (.receive (some pong))) (.handshake (.pongFed none)) []
        (.handshake (.receive none))
  | pongFails {pong : Bytes} {error : String} :
      Moves P (.handshake (.receive (some pong))) (.handshake (.pongFed (some error))) []
        (.returned error)
  | sent {datagram : Bytes} {stateUpdate : Option D2mStateUpdate} :
      Moves P (.handshake (.write datagram stateUpdate)) (.handshake (.written none)) []
        (afterInstruction stateUpdate)
  | sendFails {datagram : Bytes} {stateUpdate : Option D2mStateUpdate} {error : String} :
      Moves P (.handshake (.write datagram stateUpdate)) (.handshake (.written (some error))) []
        (.returned error)
  | payload {pc pc' : D2mPc} {l : D2mLabel} {calls : List D2mCall}
      (h : D2mRunner.Moves P pc l calls pc') :
      Moves P (.payload pc) (.payload l) calls (.payload pc')

theorem datagramAdded_of_addDatagram (self : D2mSession P.recorded) (bytes : Bytes) :
    ∃ calls, DatagramAdded bytes calls (self.addDatagram bytes).pc ∧
      (self.addDatagram bytes).protocol.2 = self.protocol.2 ++ calls := by
  simp only [addDatagram, D2mProtocol.recorded]
  cases P.addDatagrams self.protocol.1 [bytes] with
  | error message => exact ⟨[], .refused, (List.append_nil _).symm⟩
  | ok protocol =>
      simp only [Except.map]
      cases P.poll protocol with
      | error message => exact ⟨_, .pollFails, rfl⟩
      | ok r =>
          obtain ⟨instruction, protocol⟩ := r
          cases instruction with
          | none => exact ⟨_, .idle, List.append_assoc ..⟩
          | some instruction =>
              simp only [processHandshake]
              cases instruction.incomingPayload with
              | some payload => exact ⟨_, .unexpected, List.append_assoc ..⟩
              | none =>
                  cases hdatagram : instruction.outgoingDatagram with
                  | some datagram => exact ⟨_, .datagram hdatagram, List.append_assoc ..⟩
                  | none => exact ⟨_, .noDatagram hdatagram, List.append_assoc ..⟩

theorem moves_of_nextHandshake {self self' : D2mSession P.recorded} {pc : D2mHandshakePc}
    {l : D2mHandshakeLabel} (hpc : self.pc = .handshake pc)
    (h : self.nextHandshake pc l = some self') :
    ∃ calls, Moves P (.handshake pc) (.handshake l) calls self'.pc ∧
      self'.protocol.2 = self.protocol.2 ++ calls := by
  cases l with
  | received message =>
      simp only [nextHandshake] at h
      split at h <;> cases h
      cases message with
      | binary bytes =>
          obtain ⟨calls, hadded, hcalls⟩ := self.datagramAdded_of_addDatagram bytes
          exact ⟨calls, .binary hadded, hcalls⟩
      | ping bytes => exact ⟨[], .receiveGoesOn rfl, (List.append_nil _).symm⟩
      | pong =>
          simp only [receive, hpc]
          exact ⟨[], .receiveGoesOn rfl, (List.append_nil _).symm⟩
      | close =>
          simp only [receive, hpc]
          exact ⟨[], .receiveGoesOn rfl, (List.append_nil _).symm⟩
      | _ => exact ⟨[], .receiveFails rfl, (List.append_nil _).symm⟩
  | pongFed error =>
      simp only [nextHandshake] at h
      split at h <;> cases h
      next => exact ⟨[], .pongFed, (List.append_nil _).symm⟩
      next => exact ⟨[], .pongFails, (List.append_nil _).symm⟩
  | written error =>
      simp only [nextHandshake] at h
      split at h <;> cases h
      next => exact ⟨[], .sent, (List.append_nil _).symm⟩
      next => exact ⟨[], .sendFails, (List.append_nil _).symm⟩

/-- Everything a label can do before the flows have returned. -/
theorem moves_of_next {self self' : D2mSession P.recorded} {l : D2mSessionLabel}
    (hlive : self.pc.hasEnded = false) (h : self.next l = some self') :
    ∃ calls, Moves P self.pc l calls self'.pc ∧ self'.protocol.2 = self.protocol.2 ++ calls := by
  cases l with
  | handshake l =>
      simp only [next] at h
      split at h
      next pc hpc =>
          rw [hpc]
          exact moves_of_nextHandshake hpc h
      next => cases h
  | payload l =>
      simp only [next] at h
      split at h
      next pc hpc =>
          obtain ⟨runner, hrunner, rfl⟩ := Option.map_eq_some_iff.mp h
          obtain ⟨calls, hmoves, hcalls⟩ := D2mRunner.moves_of_next hrunner
          rw [hpc]
          exact ⟨calls, .payload hmoves, hcalls⟩
      next => cases h
  | shutdown error =>
      simp only [next] at h
      split at h
      next hpc =>
          rw [hpc] at hlive
          cases hlive
      next hpc =>
          rw [hpc] at hlive
          cases hlive
      next => cases h

/-- Afterwards there is only the close. -/
theorem next_of_hasEnded {self self' : D2mSession P.recorded} {l : D2mSessionLabel}
    (hend : self.pc.hasEnded = true) (h : self.next l = some self') :
    (∃ error, l = .shutdown error) ∧ self'.pc.hasEnded = true ∧
      self'.protocol = self.protocol := by
  cases l with
  | handshake l =>
      simp only [next] at h
      split at h
      next pc hpc =>
          rw [hpc] at hend
          cases hend
      next => cases h
  | payload l =>
      simp only [next] at h
      split at h
      next pc hpc =>
          rw [hpc] at hend
          obtain ⟨runner, hrunner, -⟩ := Option.map_eq_some_iff.mp h
          obtain ⟨calls, hmoves, -⟩ := D2mRunner.moves_of_next hrunner
          have hlive : pc.hasReturned = false := hmoves.live
          rw [D2mSessionPc.hasEnded, hlive] at hend
          cases hend
      next => cases h
  | shutdown error =>
      simp only [next] at h
      split at h
      next => cases h; exact ⟨⟨_, rfl⟩, rfl, rfl⟩
      next => cases h; exact ⟨⟨_, rfl⟩, rfl, rfl⟩
      next => cases h

/-! ### Accounts of the whole run -/

variable {l : D2mSessionLabel} {calls : List D2mCall} {pc pc' : D2mSessionPc}

theorem afterInstruction_live (stateUpdate : Option D2mStateUpdate) :
    (afterInstruction stateUpdate).hasEnded = false ∧
      (afterInstruction stateUpdate).dueDatagram = [] ∧
      (afterInstruction stateUpdate).dueForward = [] := by
  simp only [afterInstruction]
  split <;> exact ⟨rfl, rfl, rfl⟩

theorem DatagramAdded.given {bytes : Bytes} (h : DatagramAdded bytes calls pc)
    (hlive : pc.hasEnded = false) : calls.flatMap D2mCall.given = [bytes] := by
  cases h with
  | refused => cases hlive
  | _ => rfl

theorem Moves.given (h : Moves P pc l calls pc') (hlive : pc'.hasEnded = false) :
    calls.flatMap D2mCall.given ++ [] = [] ++ l.datagramsRead := by
  rw [List.append_nil, List.nil_append]
  cases h with
  | binary h => exact h.given hlive
  | receiveGoesOn h => exact h.symm
  | payload h => exact h.given hlive
  | receiveFails h => cases hlive
  | _ => rfl

/-- When the flows return, at most one datagram has not been given to the
protocol. -/
theorem Moves.given_end (h : Moves P pc l calls pc') (hend : pc'.hasEnded = true) :
    ∃ rest : List Bytes, rest.length ≤ 1 ∧
      calls.flatMap D2mCall.given ++ rest = [] ++ l.datagramsRead := by
  rw [List.nil_append]
  cases h with
  | @binary bytes calls pc' h =>
      cases h with
      | refused => exact ⟨[bytes], Nat.le_refl 1, rfl⟩
      | _ => exact ⟨[], Nat.zero_le 1, rfl⟩
  | receiveFails h => exact ⟨[], Nat.zero_le 1, h.symm⟩
  | receiveGoesOn h => exact ⟨[], Nat.zero_le 1, h.symm⟩
  | payload h => exact h.given_end hend
  | _ => exact ⟨[], Nat.zero_le 1, rfl⟩

theorem DatagramAdded.created {bytes : Bytes} (h : DatagramAdded bytes calls pc) :
    calls.flatMap D2mCall.created = [] := by
  cases h <;> rfl

theorem Moves.created (h : Moves P pc l calls pc') (hlive : pc'.hasEnded = false) :
    calls.flatMap D2mCall.created ++ [] = [] ++ l.taken := by
  rw [List.append_nil, List.nil_append]
  cases h with
  | binary h => exact h.created
  | payload h => exact h.created hlive
  | _ => rfl

/-- When the flows return, at most one payload of the driver has not been
created. -/
theorem Moves.created_end (h : Moves P pc l calls pc') :
    ∃ rest : List D2mOutgoingPayload, rest.length ≤ 1 ∧
      calls.flatMap D2mCall.created ++ rest = [] ++ l.taken := by
  rw [List.nil_append]
  cases h with
  | binary h => exact ⟨[], Nat.zero_le 1, by rw [h.created]; rfl⟩
  | payload h => exact h.created_end
  | _ => exact ⟨[], Nat.zero_le 1, rfl⟩

/-- A datagram and a poll create the datagram of the instruction. -/
theorem flatMap_datagram_poll (bytes : Bytes) (instruction : D2mInstruction) :
    [D2mCall.addDatagrams [bytes], .poll (some instruction)].flatMap D2mCall.datagram =
      instruction.outgoingDatagram.toList := by
  rw [List.flatMap_cons, List.flatMap_singleton]
  rfl

theorem DatagramAdded.datagrams {bytes : Bytes} (h : DatagramAdded bytes calls pc)
    (hlive : pc.hasEnded = false) : pc.dueDatagram = calls.flatMap D2mCall.datagram := by
  cases h with
  | idle => rfl
  | datagram hdatagram =>
      rw [flatMap_datagram_poll, hdatagram]
      rfl
  | @noDatagram instruction hdatagram =>
      rw [flatMap_datagram_poll, hdatagram]
      exact (afterInstruction_live instruction.stateUpdate).2.1
  | _ => cases hlive

theorem DatagramAdded.datagrams_end {bytes : Bytes} (h : DatagramAdded bytes calls pc) :
    (calls.flatMap D2mCall.datagram).length ≤ 1 := by
  cases h with
  | refused => exact Nat.zero_le 1
  | pollFails => exact Nat.zero_le 1
  | idle => exact Nat.zero_le 1
  | _ =>
      rw [flatMap_datagram_poll]
      exact Option.length_toList_le

theorem Moves.datagrams (h : Moves P pc l calls pc') (hlive : pc'.hasEnded = false) :
    pc.written l ++ pc'.dueDatagram = pc.dueDatagram ++ calls.flatMap D2mCall.datagram := by
  cases h with
  | binary h => exact h.datagrams hlive
  | @sent datagram stateUpdate =>
      rw [(afterInstruction_live stateUpdate).2.1]
      rfl
  | payload h => exact h.datagrams hlive
  | receiveGoesOn h => rfl
  | pongFed => rfl
  | _ => cases hlive

/-- When the flows return, at most one datagram has not been written. -/
theorem Moves.datagrams_end (h : Moves P pc l calls pc') (hend : pc'.hasEnded = true) :
    ∃ rest : List Bytes, rest.length ≤ 1 ∧
      pc.written l ++ rest = pc.dueDatagram ++ calls.flatMap D2mCall.datagram := by
  cases h with
  | binary h => exact ⟨_, h.datagrams_end, rfl⟩
  | @sent datagram stateUpdate => exact ⟨[], Nat.zero_le 1, rfl⟩
  | @sendFails datagram stateUpdate error => exact ⟨[datagram], Nat.le_refl 1, rfl⟩
  | payload h => exact h.datagrams_end hend
  | _ => exact ⟨[], Nat.zero_le 1, rfl⟩

theorem DatagramAdded.forwards {bytes : Bytes} (h : DatagramAdded bytes calls pc) :
    pc.dueForward = [] := by
  cases h with
  | @noDatagram instruction hdatagram => exact (afterInstruction_live instruction.stateUpdate).2.2
  | _ => rfl

theorem Moves.forwards (h : Moves P pc l calls pc') (hlive : pc'.hasEnded = false) :
    l.forwarded ++ pc'.dueForward =
      pc.dueForward ++ (l.payloadCalls calls).flatMap D2mCall.forwardable := by
  cases h with
  | binary h => exact h.forwards
  | @sent datagram stateUpdate => exact (afterInstruction_live stateUpdate).2.2
  | payload h => exact h.forwards hlive
  | _ => rfl

/-- When the flows return, at most one payload has not been forwarded. -/
theorem Moves.forwards_end (h : Moves P pc l calls pc') (hend : pc'.hasEnded = true) :
    ∃ rest : List D2mIncomingPayload, rest.length ≤ 1 ∧ l.forwarded ++ rest =
      pc.dueForward ++ (l.payloadCalls calls).flatMap D2mCall.forwardable := by
  cases h with
  | payload h => exact h.forwards_end hend
  | _ => exact ⟨[], Nat.zero_le 1, rfl⟩

theorem Moves.made (h : Moves P pc l calls pc') :
    ∀ payload instruction, .createPayload payload instruction ∈ calls →
      P.Creates payload instruction := by
  intro payload instruction hmem
  cases h with
  | binary h => cases h <;> simp at hmem
  | payload h => exact h.made payload instruction hmem
  | _ => cases hmem

/-! ## Runs -/

theorem length_dueDatagram (pc : D2mSessionPc) : pc.dueDatagram.length ≤ 1 := by
  cases pc with
  | handshake pc => cases pc <;> first | exact Nat.le_refl 1 | exact Nat.zero_le 1
  | payload pc =>
      cases pc with
      | forward payload datagram => exact Option.length_toList_le
      | write datagram => exact Nat.le_refl 1
      | _ => exact Nat.zero_le 1
  | returned error => exact Nat.zero_le 1

theorem length_dueForward (pc : D2mSessionPc) : pc.dueForward.length ≤ 1 := by
  cases pc with
  | payload pc =>
      cases pc with
      | forward payload datagram => exact Nat.le_refl 1
      | _ => exact Nat.zero_le 1
  | _ => exact Nat.zero_le 1

/-- The calls that were made of the protocol. -/
def recordedCalls (self : D2mSession P.recorded) : List D2mCall := self.protocol.2

/-- The calls that a step makes. -/
def newCalls (self : D2mSession P.recorded) (l : D2mSessionLabel) : List D2mCall :=
  (machine P.recorded).growth recordedCalls self l

/-- The calls of a step, before the flows have returned and after. -/
theorem newCalls_of_next {self self' : D2mSession P.recorded} (h : self.next l = some self') :
    self'.recordedCalls = self.recordedCalls ++ self.newCalls l ∧
      (self.pc.hasEnded = false → Moves P self.pc l (self.newCalls l) self'.pc) ∧
      (self.pc.hasEnded = true → self.newCalls l = [] ∧ self'.pc.hasEnded = true ∧
        ∃ error, l = .shutdown error) := by
  cases hended : self.pc.hasEnded with
  | false =>
      obtain ⟨calls, hmoves, hcalls⟩ := moves_of_next hended h
      have hnew : self.newCalls l = calls := (machine P.recorded).growth_eq h hcalls
      rw [hnew]
      exact ⟨hcalls, fun _ => hmoves, nofun⟩
  | true =>
      obtain ⟨hshutdown, hended', hprotocol⟩ := next_of_hasEnded hended h
      have hcalls : self'.recordedCalls = self.recordedCalls ++ [] := by
        rw [List.append_nil, recordedCalls, hprotocol, recordedCalls]
      have hnew : self.newCalls l = [] := (machine P.recorded).growth_eq h hcalls
      rw [hnew]
      exact ⟨hcalls, nofun, fun _ => ⟨rfl, hended', hshutdown⟩⟩

/-- The calls of a run. -/
def callsOf (self : D2mSession P.recorded) (ls : List D2mSessionLabel) : List D2mCall :=
  (machine P.recorded).collect newCalls self ls

theorem recordedCalls_exec {self self' : D2mSession P.recorded} {ls : List D2mSessionLabel}
    (hrun : (machine P.recorded).exec self ls = some self') :
    self'.recordedCalls = self.recordedCalls ++ self.callsOf ls :=
  (machine P.recorded).collect_growth (fun _ _ _ h => ⟨_, (newCalls_of_next h).1.symm⟩) hrun

/-- An account that the moves balance is balanced over a run. -/
theorem account_exec {ω : Type} (n : ℕ) (due : D2mSessionPc → List ω)
    (out script : D2mSessionPc → D2mSessionLabel → List D2mCall → List ω)
    (hbound : ∀ pc, (due pc).length ≤ n)
    (hlive : ∀ {pc l calls pc'}, Moves P pc l calls pc' → pc'.hasEnded = false →
      out pc l calls ++ due pc' = due pc ++ script pc l calls)
    (hend : ∀ {pc l calls pc'}, Moves P pc l calls pc' → pc'.hasEnded = true →
      ∃ rest, rest.length ≤ n ∧ out pc l calls ++ rest = due pc ++ script pc l calls)
    (hshutdown : ∀ pc error, out pc (.shutdown error) [] = [] ∧ script pc (.shutdown error) [] = [])
    {self self' : D2mSession P.recorded} {ls : List D2mSessionLabel}
    (hstart : self.pc.hasEnded = false) (hrun : (machine P.recorded).exec self ls = some self') :
    ∃ rest, Machine.Leaves n self'.pc.hasEnded (due self'.pc) rest ∧
      (machine P.recorded).collect (fun s l => out s.pc l (s.newCalls l)) self ls ++ rest =
        due self.pc ++
          (machine P.recorded).collect (fun s l => script s.pc l (s.newCalls l)) self ls := by
  refine (machine P.recorded).collect_account (fun s => s.pc.hasEnded) _ _ (fun s => due s.pc) n
    (fun s _ => hbound s.pc) ?_ ?_ ?_ hstart hrun
  · intro s l s' hs hl hs'
    exact hlive ((newCalls_of_next hl).2.1 hs) hs'
  · intro s l s' hs hl hs'
    exact hend ((newCalls_of_next hl).2.1 hs) hs'
  · intro s l s' hs hl
    obtain ⟨hnew, hs', error, rfl⟩ := (newCalls_of_next hl).2.2 hs
    rw [hnew]
    exact ⟨hs', hshutdown s.pc error⟩

/-- Every call of a run is one that the protocol can answer so. -/
theorem made_exec {self self' : D2mSession P.recorded} {ls : List D2mSessionLabel}
    (hrun : (machine P.recorded).exec self ls = some self') (hstart : self.recordedCalls = []) :
    ∀ payload instruction, .createPayload payload instruction ∈ self'.recordedCalls →
      P.Creates payload instruction := by
  refine (machine P.recorded).exec_invariant (I := fun s => ∀ payload instruction,
    .createPayload payload instruction ∈ s.recordedCalls → P.Creates payload instruction) ?_ ?_ hrun
  · intro s l s' hs hl payload instruction hmem
    obtain ⟨hcalls, hlive, hended⟩ := newCalls_of_next hl
    rw [hcalls, List.mem_append] at hmem
    rcases hmem with hmem | hmem
    · exact hs payload instruction hmem
    · cases hpc : s.pc.hasEnded with
      | false => exact (hlive hpc).made payload instruction hmem
      | true =>
          rw [(hended hpc).1] at hmem
          cases hmem
  · intro payload instruction hmem
    rw [hstart] at hmem
    cases hmem

/-- The calls of the payload flow. -/
def callsOfPayloadFlow (self : D2mSession P.recorded) (ls : List D2mSessionLabel) : List D2mCall :=
  (machine P.recorded).collect (fun s l => l.payloadCalls (s.newCalls l)) self ls

/-- The datagrams that a run writes. -/
def writes (self : D2mSession P.recorded) (ls : List D2mSessionLabel) : List Bytes :=
  (machine P.recorded).collect (fun s l => s.pc.written l) self ls

/-- The payloads of the payload flow come out of `poll`, when created instructions
carry none. -/
theorem forwardable_eq_polled {self self' : D2mSession P.recorded} {ls : List D2mSessionLabel}
    (hrun : (machine P.recorded).exec self ls = some self') (hstart : self.recordedCalls = [])
    (hcreates : P.CreatesDatagrams) :
    (self.callsOfPayloadFlow ls).flatMap D2mCall.forwardable =
      (self.callsOfPayloadFlow ls).flatMap D2mCall.polled := by
  refine List.flatMap_congr fun call hcall => ?_
  have hsublist : (self.callsOfPayloadFlow ls).Sublist (self.callsOf ls) := by
    refine (machine P.recorded).collect_sublist (fun s l => ?_) self ls
    cases l with
    | payload l => exact List.Sublist.refl _
    | _ => exact List.nil_sublist _
  have hmem : call ∈ self'.recordedCalls := by
    rw [recordedCalls_exec hrun, hstart]
    exact hsublist.subset hcall
  cases call with
  | createPayload payload instruction =>
      have hnone := hcreates payload instruction (made_exec hrun hstart payload instruction hmem)
      show instruction.incomingPayload.toList = []
      rw [hnone]
      rfl
  | _ => rfl

/-- What a run has relayed, up to what is in progress at its end. -/
structure Relayed (self self' : D2mSession P.recorded) (ls : List D2mSessionLabel) : Prop where
  /-- The protocol is given the contents of the binary messages. -/
  given : ∃ rest, Machine.Leaves 1 self'.pc.hasEnded [] rest ∧
    self'.recordedCalls.flatMap D2mCall.given ++ rest = ls.flatMap D2mSessionLabel.datagramsRead
  /-- It is asked to create the payloads of the driver. -/
  created : ∃ rest, Machine.Leaves 1 self'.pc.hasEnded [] rest ∧
    self'.recordedCalls.flatMap D2mCall.created ++ rest = ls.flatMap D2mSessionLabel.taken
  /-- The datagrams that it creates are written. -/
  datagrams : ∃ rest, Machine.Leaves 1 self'.pc.hasEnded self'.pc.dueDatagram rest ∧
    self.writes ls ++ rest = self'.recordedCalls.flatMap D2mCall.datagram
  /-- The payloads of the payload flow are forwarded. -/
  forwards : ∃ rest, Machine.Leaves 1 self'.pc.hasEnded self'.pc.dueForward rest ∧
    ls.flatMap D2mSessionLabel.forwarded ++ rest =
      (self.callsOfPayloadFlow ls).flatMap D2mCall.forwardable
  /-- Those are the payloads that `poll` returned. -/
  polled : P.CreatesDatagrams → (self.callsOfPayloadFlow ls).flatMap D2mCall.forwardable =
    (self.callsOfPayloadFlow ls).flatMap D2mCall.polled

/-- The start of `run`, with nothing recorded. -/
def startRecorded (protocol : P.State) : D2mSession P.recorded :=
  start (P := P.recorded) (protocol, [])

/-- Every run relays faithfully.  It is the run over the recorded protocol without
the calls, and the calls say what was relayed. -/
theorem d2m_relays (protocol : P.State) {self : D2mSession P} {ls : List D2mSessionLabel}
    (hrun : (machine P).exec (start protocol) ls = some self) :
    ∃ self' : D2mSession P.recorded,
      (machine P.recorded).exec (startRecorded protocol) ls = some self' ∧ self'.erase = self ∧
      (startRecorded protocol).Relayed self' ls := by
  have herase := (startRecorded protocol).exec_erase ls
  rw [show (startRecorded protocol).erase = start protocol from rfl, hrun] at herase
  obtain ⟨self', hrecorded, heq⟩ := Option.map_eq_some_iff.mp herase
  have hcalls : self'.recordedCalls = (startRecorded protocol).callsOf ls :=
    recordedCalls_exec hrecorded
  refine ⟨self', hrecorded, heq, ?_, ?_, ?_, ?_, ?_⟩
  · rw [hcalls, callsOf, (machine P.recorded).flatMap_collect,
      ← (machine P.recorded).collect_flatMap hrecorded]
    exact account_exec 1 (fun _ => []) (fun _ _ calls => calls.flatMap D2mCall.given)
      (fun _ l _ => l.datagramsRead) (fun _ => Nat.zero_le 1) Moves.given Moves.given_end
      (fun _ _ => ⟨rfl, rfl⟩) rfl hrecorded
  · rw [hcalls, callsOf, (machine P.recorded).flatMap_collect,
      ← (machine P.recorded).collect_flatMap hrecorded]
    exact account_exec 1 (fun _ => []) (fun _ _ calls => calls.flatMap D2mCall.created)
      (fun _ l _ => l.taken) (fun _ => Nat.zero_le 1) Moves.created (fun h _ => h.created_end)
      (fun _ _ => ⟨rfl, rfl⟩) rfl hrecorded
  · rw [hcalls, callsOf, (machine P.recorded).flatMap_collect]
    refine account_exec 1 D2mSessionPc.dueDatagram (fun pc l _ => pc.written l)
      (fun _ _ calls => calls.flatMap D2mCall.datagram) length_dueDatagram Moves.datagrams
      Moves.datagrams_end ?_ rfl hrecorded
    intro pc error
    cases pc with
    | handshake pc => cases pc <;> exact ⟨rfl, rfl⟩
    | _ => exact ⟨rfl, rfl⟩
  · rw [callsOfPayloadFlow, (machine P.recorded).flatMap_collect,
      ← (machine P.recorded).collect_flatMap hrecorded]
    exact account_exec 1 D2mSessionPc.dueForward (fun _ l _ => l.forwarded)
      (fun _ l calls => (l.payloadCalls calls).flatMap D2mCall.forwardable) length_dueForward
      Moves.forwards Moves.forwards_end (fun _ _ => ⟨rfl, rfl⟩) rfl hrecorded
  · exact forwardable_eq_polled hrecorded rfl

end D2mSession

/-! ### A login -/

/-- The first datagram ends the handshake, and is answered. -/
def D2mProtocol.sampleLogin : D2mProtocol where
  State := Bool × List Bytes
  poll s :=
    match D2mProtocol.sample.poll s.2 with
    | .error message => .error message
    | .ok (none, datagrams) => .ok (none, (s.1, datagrams))
    | .ok (some instruction, datagrams) =>
        if s.1 then .ok (some instruction, (true, datagrams))
        else .ok (some ⟨some .postHandshake, none, some [9]⟩, (true, datagrams))
  addDatagrams s added := .ok (s.1, s.2 ++ added)
  createPayload s payload :=
    match D2mProtocol.sample.createPayload s.2 payload with
    | .error message => .error message
    | .ok (instruction, datagrams) => .ok (instruction, (s.1, datagrams))

namespace D2mSession

/-- Pings before and after the handshake.  The second one is not answered, since
the driver reflects a message. -/
def pinged : List D2mSessionLabel :=
  [.handshake (.received (.ping [1])), .handshake (.pongFed none),
    .handshake (.received (.binary [0])), .handshake (.written none), .payload .turn,
    .payload (.received (.ping [2])), .payload (.recvOutgoing (.reflect false 1 [])),
    .payload (.written none), .payload .turn, .payload (.received (.binary [7])), .payload .turn,
    .payload (.sentIncoming (.reflected 7 []))]

theorem d2m_relays_pinged : ∃ self' : D2mSession D2mProtocol.sampleLogin.recorded,
    (machine D2mProtocol.sampleLogin.recorded).exec
        (startRecorded (P := .sampleLogin) (false, [])) pinged = some self' ∧
      (startRecorded (P := .sampleLogin) (false, [])).Relayed self' pinged := by
  obtain ⟨self', hrun, -, h⟩ := @d2m_relays .sampleLogin (false, []) _ pinged rfl
  exact ⟨self', hrun, h⟩

end D2mSession

end MultideviceClient
