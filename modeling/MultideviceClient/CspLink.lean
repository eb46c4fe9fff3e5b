import MultideviceClient.E2e

/-!
# The link with the chat server connection

The chat server connection and the E2E driver are joined by two channels: one
for messages to the driver, one for acknowledgements and
`UnblockIncomingMessages` to the chat server.  `run` makes both with a capacity
of four.  The connection takes nothing out of the second channel while its
protocol still has frames to poll, and the driver takes nothing out of the
first while it sends.

*The defect.*  One read can hold more messages than both channels
(`cspLink_deadlocks`): while the connection forwards them, the acknowledgements
pile up in the other direction, and both sides end up suspended.

*The bound.*  The connection takes up an item when a message comes out of its
protocol, and the driver when a task is done with an acknowledgement or the role
is promoted to leader.  A run never deadlocks exactly when each of these finds at
most `2 * c` items in flight (`cspLink_not_deadlocked_iff`).
-/

namespace MultideviceClient

open Foundations

variable {L : Libthreema} {P : CspProtocol}

/-! ## The connection -/

/-- The connection forwards the payload of the instruction to the driver. -/
def CspInstruction.forwards (instruction : CspInstruction) : Bool :=
  instruction.stateUpdate.isNone &&
    match instruction.incomingPayload with
    | some (.messageWithMetadataBox _) => true
    | some (.messageAck _) => true
    | _ => false

namespace CspRunner

/-- The label takes a payload for the driver out of the protocol. -/
def takesUp (self : CspRunner P) : CspLabel → Bool
  | .turn =>
      match self.pc with
      | .top (some instruction) => instruction.forwards
      | .top none =>
          match P.poll self.protocol with
          | .ok (some instruction, _) => instruction.forwards
          | _ => false
      | _ => false
  | _ => false

@[simp] theorem forwarding_finish (protocol : P.State) (frame : Option Bytes)
    (instruction : Option CspInstruction) :
    forwarding ⟨protocol, finish frame instruction⟩ = false := by
  cases frame <;> rfl

theorem forwarding_process (self : CspRunner P) (instruction : CspInstruction) :
    (self.process instruction).forwarding = instruction.forwards := by
  simp only [process, CspInstruction.forwards]
  cases instruction.stateUpdate with
  | some stateUpdate => rfl
  | none =>
      cases instruction.incomingPayload with
      | none => exact forwarding_finish ..
      | some payload =>
          cases payload with
          | echoRequest payload =>
              simp only [Option.isSome_none, Bool.false_eq_true, if_false]
              split
              next => rfl
              next => exact forwarding_finish ..
          | messageWithMetadataBox payload => rfl
          | messageAck payload => rfl
          | _ => exact forwarding_finish ..

theorem forwarding_turn (self : CspRunner P) (instruction : Option CspInstruction)
    (h : self.pc = .top instruction) : (self.turn instruction).forwarding = self.takesUp .turn := by
  simp only [takesUp, h]
  cases instruction with
  | some instruction => exact forwarding_process self instruction
  | none =>
      simp only [turn]
      split
      next message hpoll => rw [hpoll]; rfl
      next protocol hpoll => rw [hpoll]; rfl
      next instruction protocol hpoll => rw [hpoll]; exact forwarding_process _ instruction

/-- A step that takes nothing up forwards what it received, or what it was
forwarding and did not send. -/
theorem forwarding_next {self self' : CspRunner P} {l : CspLabel} (h : self.next l = some self') :
    l.port = .idle ∧ self.forwarding = false ∧ self'.forwarding = self.takesUp l ∨
      self.takesUp l = false ∧
        self'.forwarding.toNat + l.port.sent ≤ self.forwarding.toNat + l.port.received := by
  cases l with
  | turn =>
      simp only [next] at h
      split at h <;> cases h
      next instruction hpc =>
          exact .inl ⟨rfl, by simp only [forwarding, hpc], forwarding_turn self instruction hpc⟩
  | readable read =>
      refine .inr ⟨rfl, ?_⟩
      simp only [next] at h
      split at h
      next =>
          cases h
          exact Nat.zero_le _
      next =>
          split at h
          next => split at h <;> cases h <;> exact Nat.zero_le _
          next => cases h
      next => cases h
  | recvOutgoing payload =>
      refine .inr ⟨rfl, ?_⟩
      cases payload with
      | none =>
          simp only [next] at h
          split at h
          next =>
              cases h
              exact Nat.zero_le _
          next heq => cases heq
          next => cases h
      | some payload => exact Nat.le_trans (Bool.toNat_le _) (Nat.le_add_left ..)
  | sentIncoming payload =>
      refine .inr ⟨rfl, ?_⟩
      simp only [next] at h
      split at h
      next payload' frame hpc =>
          split at h <;> cases h
          rw [forwarding_finish]
          simp [forwarding, hpc, CspLabel.port, Port.sent]
      next => cases h
  | sendFailed =>
      refine .inr ⟨rfl, ?_⟩
      simp only [next] at h
      split at h <;> cases h
      exact Nat.zero_le _
  | written error =>
      refine .inr ⟨rfl, ?_⟩
      simp only [next] at h
      split at h <;> cases h <;> exact Nat.zero_le _

/-- The connection takes up an item when it takes a payload out of the protocol. -/
def intakes (P : CspProtocol) : Intakes (party P) :=
  .ofIdle takesUp fun _ _ _ => forwarding_next

end CspRunner

/-! ## The driver -/

/-- What a label does to the channels between the driver and the connection. -/
def DriverLabel.cspPort : DriverLabel → Port OutgoingPayloadForCspE2e IncomingPayloadForCspE2e
  | .sentCsp payload => .send payload
  | .recvCsp (some payload) => .recv payload
  | _ => .idle

/-- The label gives the driver something to send to the chat server. -/
def DriverLabel.takesUpCsp : DriverLabel → Bool
  | .polled (.ok (.done (some _))) => true
  | .updated none => true
  | _ => false

namespace Driver

/-- The driver as a party of its link with the chat server connection. -/
def cspParty (L : Libthreema) :
    Party (Driver L) DriverLabel OutgoingPayloadForCspE2e IncomingPayloadForCspE2e where
  next := Driver.next
  port := DriverLabel.cspPort
  sending self := self.pc.outgoingCsp.isSome

theorem outgoingCsp_runInstruction (self : Driver L) (loop : IncomingMessageLoop) :
    (self.runInstruction loop).pc.outgoingCsp.isSome =
      (DriverLabel.polled (.ok loop)).takesUpCsp := by
  cases loop with
  | fetchSender => rfl
  | contacts task instruction =>
      cases instruction with
      | beginTransaction instruction => simp [runInstruction, DriverLabel.takesUpCsp]
      | reflectAndCommitTransaction messages =>
          simp [runInstruction, reflectAndCommitTransaction, DriverLabel.takesUpCsp]
  | reflectMessage messages => simp [runInstruction, reflect, DriverLabel.takesUpCsp]
  | done messageAck => cases messageAck <;> rfl

/-- A step that takes nothing up leaves the driver with what it had to send, if
it did not send it. -/
theorem outgoingCsp_next {self self' : Driver L} {l : DriverLabel}
    (hl : self.next l = some self') :
    l.cspPort = .idle ∧ self.pc.outgoingCsp.isSome = false ∧
        self'.pc.outgoingCsp.isSome = l.takesUpCsp ∨
      l.takesUpCsp = false ∧
        self'.pc.outgoingCsp.isSome.toNat + l.cspPort.sent ≤
          self.pc.outgoingCsp.isSome.toNat + l.cspPort.received := by
  cases step_of_next hl with
  | message message h => exact .inr ⟨rfl, Nat.le_add_right ..⟩
  | messageAck messageAck h => exact .inr ⟨rfl, Nat.le_add_right ..⟩
  | accepted h haccept =>
      refine .inr ⟨rfl, ?_⟩
      rw [outgoingCsp_accept haccept]
      exact Nat.zero_le _
  | unsolicited h hreject =>
      refine .inr ⟨rfl, ?_⟩
      rw [outgoingCsp_handleUnsolicitedD2m]
      exact Nat.zero_le _
  | polled loop h htask =>
      exact .inl ⟨rfl, by rw [h]; rfl, outgoingCsp_runInstruction self loop⟩
  | updated h => exact .inl ⟨rfl, by rw [h]; rfl, rfl⟩
  | sentUnblock h =>
      refine .inr ⟨rfl, ?_⟩
      rw [h, outgoingCsp_resume]
      exact Nat.le_refl _
  | sentMessageAck h =>
      refine .inr ⟨rfl, ?_⟩
      rw [h]
      exact Nat.le_refl _
  | sentReflectedAck h =>
      refine .inr ⟨rfl, ?_⟩
      rw [outgoingCsp_resume]
      exact Nat.zero_le _
  | sentReflect h =>
      refine .inr ⟨rfl, ?_⟩
      rw [outgoingCsp_sendReflects]
      exact Nat.zero_le _
  | provided data emitted h => exact .inr ⟨rfl, Nat.le_refl _⟩
  | _ => exact .inr ⟨rfl, Nat.zero_le _⟩

/-- The driver takes up an item when a task is done with an acknowledgement, and
when the role is promoted to leader. -/
def cspIntakes (L : Libthreema) : Intakes (cspParty L) :=
  .ofIdle (fun _ => DriverLabel.takesUpCsp) fun _ _ _ => outgoingCsp_next

end Driver

/-! ## The link -/

/-- Both sides and the channels between them. -/
abbrev CspLinkState (P : CspProtocol) (L : Libthreema) : Type :=
  Link.State (CspRunner P) (Driver L) IncomingPayloadForCspE2e OutgoingPayloadForCspE2e

/-- The link of the chat server connection and the driver. -/
abbrev cspLink (P : CspProtocol) (L : Libthreema) (c : Nat) :
    Machine (CspLinkState P L) (CspLabel ⊕ DriverLabel) :=
  Link.machine (CspRunner.party P) (Driver.cspParty L) c

/-- Both sides at the start of their loops, with empty channels. -/
def cspLinkStart (protocol : P.State) (driver : Driver L) : CspLinkState P L where
  left := ⟨protocol, .top none⟩
  right := { driver with pc := .top }
  toRight := []
  toLeft := []

/-- The connection is suspended in `queues.incoming.send` and the driver in a
send to the chat server, both on a full channel. -/
def CspDeadlocked (c : Nat) (s : CspLinkState P L) : Prop :=
  Link.Deadlocked (CspRunner.party P) (Driver.cspParty L) c s

/-- A message comes out of the protocol, and an acknowledgement or
`UnblockIncomingMessages` is made, only while at most `2 * c` of them are in the
channels or in a suspended send. -/
def CspRoomFor (c : Nat) (s : CspLinkState P L) (l : CspLabel ⊕ DriverLabel) : Prop :=
  Link.RoomFor (CspRunner.intakes P) (Driver.cspIntakes L) c s l

/-- A run never deadlocks exactly when every message and every acknowledgement
that it takes up finds room. -/
theorem cspLink_not_deadlocked_iff (protocol : P.State) (driver : Driver L) (c : Nat)
    (ls : List (CspLabel ⊕ DriverLabel)) :
    (cspLink P L c).Visits (fun s => ¬ CspDeadlocked c s) (cspLinkStart protocol driver) ls ↔
      (cspLink P L c).Meets (CspRoomFor c) (cspLinkStart protocol driver) ls := by
  refine Link.visits_not_deadlocked_iff _ _ ?_ ?_
  · exact ⟨Nat.zero_le _, Nat.zero_le _⟩
  · rintro ⟨hsending, -⟩
    cases hsending

/-- A run with at most `2 * c + 1` messages and acknowledgements finds room for each. -/
theorem cspRoomFor_of_few {protocol : P.State} {driver : Driver L} {c : Nat}
    {ls : List (CspLabel ⊕ DriverLabel)}
    (h : (Link.takenUp (CspRunner.intakes P) (Driver.cspIntakes L) c
      (cspLinkStart protocol driver) ls).length ≤ 2 * c + 1) :
    (cspLink P L c).Meets (CspRoomFor c) (cspLinkStart protocol driver) ls := by
  refine Link.meets_roomFor _ _ ?_
  rw [show Link.inFlight (CspRunner.party P) (Driver.cspParty L) (cspLinkStart protocol driver) = 0
    from rfl, Nat.zero_add]
  exact h

/-! ### A burst that deadlocks -/

namespace CspBurst

def message (n : UInt8) : MessageWithMetadataBox := ⟨[n]⟩

def ack (n : UInt8) : MessageAck := ⟨[n]⟩

/-- One read of ten messages. -/
def read : List (CspLabel ⊕ DriverLabel) :=
  [.inl .turn,
    .inl (.readable (.bytes ([1, 2, 3, 4, 5, 6, 7, 8, 9, 10].flatMap fun n => [1, n])))]

/-- The connection forwards a message. -/
def forward (n : UInt8) : List (CspLabel ⊕ DriverLabel) :=
  [.inl .turn, .inl (.sentIncoming (.message (message n)))]

/-- The driver receives a message and its task is done. -/
def task (n : UInt8) : List (CspLabel ⊕ DriverLabel) :=
  [.inr (.recvCsp (some (.message (message n)))), .inr (.polled (.ok (.done (some (ack n)))))]

/-- The driver sends the acknowledgement. -/
def acknowledge (n : UInt8) : List (CspLabel ⊕ DriverLabel) :=
  [.inr (.sentCsp (.messageAck (ack n)))]

/-- Four messages are acknowledged, a fifth is about to be, and the others fill
the channel to the driver. -/
def run : List (CspLabel ⊕ DriverLabel) :=
  read ++ [1, 2, 3, 4].flatMap (fun n => forward n ++ task n ++ acknowledge n) ++
    forward 5 ++ task 5 ++ [6, 7, 8, 9].flatMap forward ++ [.inl .turn]

end CspBurst

open CspBurst in
/-- With the program's channels, one read of ten messages can end in a deadlock. -/
theorem cspLink_deadlocks :
    ∃ s, (cspLink .sample _ 4).exec (cspLinkStart (P := .sample) [] .sample) run = some s ∧
      CspDeadlocked 4 s := by
  refine ⟨_, rfl, ?_⟩
  exact ⟨rfl, by decide, rfl, by decide⟩

end MultideviceClient
