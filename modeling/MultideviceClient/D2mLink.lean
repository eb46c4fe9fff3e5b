import MultideviceClient.E2e

/-!
# The link with the mediator connection

The mediator connection and the E2E driver are joined by two channels of
sixteen payloads.  The driver answers each reflected payload that it receives
with a `ReflectedAck`, and receives nothing while it sends.  The connection
receives nothing from the driver while it forwards, and its `select!` may prefer
the WebSocket for as long as datagrams arrive.

*The defect.*  A burst of reflected payloads from the reflection queue deadlocks
the two (`d2mLink_deadlocks`).

*The bound.*  An answer to a received payload takes the place of that payload,
so it adds nothing to the items in flight.  The connection takes up an item when
a payload comes out of its protocol, and the driver when a task makes it send
something.  A run never deadlocks exactly when each of these finds at most
`2 * c` items in flight (`d2mLink_not_deadlocked_iff`).
-/

namespace MultideviceClient

open Foundations

variable {L : Libthreema} {P : D2mProtocol}

/-! ## The connection -/

/-- The connection forwards the payload of the instruction to the driver. -/
def D2mInstruction.forwards (instruction : D2mInstruction) : Bool :=
  instruction.stateUpdate.isNone && instruction.incomingPayload.isSome

namespace D2mRunner

/-- The label takes a payload for the driver out of the protocol. -/
def takesUp (self : D2mRunner P) : D2mLabel → Bool
  | .turn =>
      match P.poll self.protocol with
      | .ok (some instruction, _) => instruction.forwards
      | _ => false
  | _ => false

@[simp] theorem forwarding_finish (protocol : P.State) (datagram : Option Bytes) :
    forwarding ⟨protocol, finish datagram⟩ = false := by
  cases datagram <;> rfl

theorem forwarding_process (self : D2mRunner P) (instruction : D2mInstruction) :
    (self.process instruction).forwarding = instruction.forwards := by
  simp only [process, D2mInstruction.forwards]
  cases instruction.stateUpdate with
  | some stateUpdate => rfl
  | none =>
      cases instruction.incomingPayload with
      | none => exact forwarding_finish ..
      | some payload => rfl

theorem forwarding_turn (self : D2mRunner P) : self.turn.forwarding = self.takesUp .turn := by
  simp only [turn, takesUp]
  split
  next message hpoll => rw [hpoll]; rfl
  next protocol hpoll => rw [hpoll]; rfl
  next instruction protocol hpoll => rw [hpoll]; exact forwarding_process _ instruction

theorem forwarding_receive {self : D2mRunner P} (h : self.pc = .select none)
    (message : WebSocketMessage) : (self.receive message).forwarding = false := by
  cases message with
  | binary bytes =>
      simp only [receive]
      split <;> rfl
  | pong => simp only [receive, forwarding, h]
  | close => simp only [receive, forwarding, h]
  | _ => rfl

/-- A step that takes nothing up forwards what it received, or what it was
forwarding and did not send. -/
theorem forwarding_next {self self' : D2mRunner P} {l : D2mLabel} (h : self.next l = some self') :
    l.port = .idle ∧ self.forwarding = false ∧ self'.forwarding = self.takesUp l ∨
      self.takesUp l = false ∧
        self'.forwarding.toNat + l.port.sent ≤ self.forwarding.toNat + l.port.received := by
  cases l with
  | turn =>
      simp only [next] at h
      split at h <;> cases h
      next hpc => exact .inl ⟨rfl, by simp only [forwarding, hpc], forwarding_turn self⟩
  | received message =>
      refine .inr ⟨rfl, ?_⟩
      simp only [next] at h
      split at h <;> cases h
      next hpc =>
          rw [forwarding_receive hpc]
          exact Nat.zero_le _
  | pongFed error =>
      refine .inr ⟨rfl, ?_⟩
      simp only [next] at h
      split at h <;> cases h <;> exact Nat.zero_le _
  | recvOutgoing payload =>
      exact .inr ⟨rfl, (Bool.toNat_le _).trans (Nat.le_add_left ..)⟩
  | sentIncoming payload =>
      refine .inr ⟨rfl, ?_⟩
      simp only [next] at h
      split at h
      next payload' datagram hpc =>
          split at h <;> cases h
          rw [forwarding_finish]
          simp [forwarding, hpc, D2mLabel.port, Port.sent]
      next => cases h
  | sendFailed =>
      refine .inr ⟨rfl, ?_⟩
      simp only [next] at h
      split at h <;> cases h
      exact Nat.zero_le _
  | written error =>
      refine .inr ⟨rfl, ?_⟩
      simp only [next] at h
      split at h <;> cases h <;> exact Nat.zero_le _

/-- The connection takes up an item when it takes a payload out of the protocol. -/
def intakes (P : D2mProtocol) : Intakes (party P) :=
  .ofIdle takesUp fun _ _ _ => forwarding_next

end D2mRunner

/-! ## The driver -/

/-- What a label does to the channels between the driver and the connection. -/
def DriverLabel.d2mPort : DriverLabel → Port D2mOutgoingPayload D2mIncomingPayload
  | .sentD2m payload => .send payload
  | .recvD2m (some payload) => .recv payload
  | _ => .idle

/-- The instruction begins with a send to the mediator. -/
def IncomingMessageLoop.beginsWithSend : IncomingMessageLoop → Bool
  | .contacts _ (.beginTransaction .transactionRejected) => false
  | .contacts _ _ => true
  | .reflectMessage reflectMessages => !reflectMessages.isEmpty
  | _ => false

namespace Driver

/-- The driver as a party of its link with the mediator connection. -/
def d2mParty (L : Libthreema) :
    Party (Driver L) DriverLabel D2mOutgoingPayload D2mIncomingPayload where
  next := Driver.next
  port := DriverLabel.d2mPort
  sending self := self.pc.outgoingD2m.isSome

/-- The label gives the driver something to send to the mediator: the first
payload of an instruction, or the one after a reflected message. -/
def takesUpD2m (self : Driver L) : DriverLabel → Bool
  | .polled (.ok loop) => loop.beginsWithSend
  | .sentD2m _ =>
      match self.pc with
      | .sendReflect _ [] (.acks _) => false
      | .sendReflect _ _ _ => true
      | _ => false
  | _ => false

@[simp] theorem outgoingD2m_resume (resume : Option Wait) :
    (DriverPc.resume resume).outgoingD2m = none := by
  cases resume <;> rfl

@[simp] theorem outgoingD2m_awaitReflectAcks (pending : Nat) (ids : List UInt32) :
    (awaitReflectAcks pending ids).outgoingD2m = none := by
  simp only [awaitReflectAcks]
  split <;> rfl

theorem outgoingD2m_accept {wait : Wait} {payload : D2mIncomingPayload} {pc : DriverPc}
    (h : wait.accept payload = some pc) : pc.outgoingD2m = none := by
  cases wait <;> cases payload <;> cases h <;> first | rfl | exact outgoingD2m_awaitReflectAcks ..

theorem outgoingD2m_runInstruction (self : Driver L) (loop : IncomingMessageLoop) :
    (self.runInstruction loop).pc.outgoingD2m.isSome = loop.beginsWithSend := by
  cases loop with
  | fetchSender => rfl
  | contacts task instruction =>
      cases instruction with
      | beginTransaction instruction => cases instruction <;> rfl
      | reflectAndCommitTransaction reflectMessages => cases reflectMessages <;> rfl
  | reflectMessage reflectMessages =>
      cases reflectMessages with
      | nil => rfl
      | cons payload rest => rfl
  | done messageAck => cases messageAck <;> rfl

/-- After a reflected message the driver sends the next one or the commit, or it
waits. -/
theorem outgoingD2m_sendReflects (self : Driver L) {payload : ReflectPayload}
    {rest : List ReflectPayload} {goal : ReflectGoal} (h : self.pc = .sendReflect payload rest goal)
    (sent : D2mOutgoingPayload) :
    (sendReflects rest goal).outgoingD2m.isSome = self.takesUpD2m (.sentD2m sent) := by
  simp only [takesUpD2m, h]
  cases rest with
  | cons payload' rest => rfl
  | nil =>
      cases goal with
      | commit task => rfl
      | acks pending => exact congrArg Option.isSome (outgoingD2m_awaitReflectAcks pending [])

/-- The driver takes up an item when a task makes it send one.  A `ReflectedAck`
takes the place of the payload that it acknowledges. -/
def d2mIntakes (L : Libthreema) : Intakes (d2mParty L) where
  intake := takesUpD2m
  balance self l self' hl := by
    simp only [Party.held, d2mParty]
    cases step_of_next hl with
    | message message h => exact Nat.le_add_right ..
    | messageAck messageAck h => exact Nat.le_add_right ..
    | accepted h haccept =>
        rw [outgoingD2m_accept haccept]
        exact Nat.zero_le _
    | @unsolicited resume payload h hreject =>
        have hle := Bool.toNat_le (self.handleUnsolicitedD2m resume payload).pc.outgoingD2m.isSome
        simp only [DriverLabel.d2mPort, Port.sent, Port.received]
        omega
    | polled loop h htask =>
        rw [outgoingD2m_runInstruction]
        exact Nat.le_add_left ..
    | sentUnblock h =>
        rw [outgoingD2m_resume]
        exact Nat.zero_le _
    | sentReflectedAck h =>
        rw [outgoingD2m_resume, h]
        exact Nat.le_add_right ..
    | sentBeginTransaction h =>
        rw [h]
        exact Nat.le_add_right ..
    | sentReflect h =>
        rw [outgoingD2m_sendReflects self h, h]
        exact (Nat.add_comm ..).le
    | sentCommitTransaction h =>
        rw [h]
        exact Nat.le_add_right ..
    | provided data emitted h => exact Nat.le_refl _
    | _ => exact Nat.zero_le _
  gain self l self' hl htakes := by
    simp only [Party.held, d2mParty]
    cases step_of_next hl with
    | polled loop h htask =>
        have hsends : loop.beginsWithSend = true := htakes
        rw [outgoingD2m_runInstruction, hsends, h]
        exact Nat.le_refl _
    | sentReflect h =>
        rw [outgoingD2m_sendReflects self h, htakes, h]
        exact Nat.le_refl _
    | sentReflectedAck h =>
        simp only [takesUpD2m, h] at htakes
        cases htakes
    | sentBeginTransaction h =>
        simp only [takesUpD2m, h] at htakes
        cases htakes
    | sentCommitTransaction h =>
        simp only [takesUpD2m, h] at htakes
        cases htakes
    | _ => cases htakes

end Driver

/-! ## The link -/

/-- Both sides and the channels between them. -/
abbrev D2mLinkState (P : D2mProtocol) (L : Libthreema) : Type :=
  Link.State (D2mRunner P) (Driver L) D2mIncomingPayload D2mOutgoingPayload

/-- The link of the mediator connection and the driver. -/
abbrev d2mLink (P : D2mProtocol) (L : Libthreema) (c : Nat) :
    Machine (D2mLinkState P L) (D2mLabel ⊕ DriverLabel) :=
  Link.machine (D2mRunner.party P) (Driver.d2mParty L) c

/-- Both sides at the start of their loops, with empty channels. -/
def d2mLinkStart (protocol : P.State) (driver : Driver L) : D2mLinkState P L where
  left := ⟨protocol, .top⟩
  right := { driver with pc := .top }
  toRight := []
  toLeft := []

/-- The connection is suspended in `incoming.send` and the driver in
`d2m_outgoing.send`, both on a full channel. -/
def D2mDeadlocked (c : Nat) (s : D2mLinkState P L) : Prop :=
  Link.Deadlocked (D2mRunner.party P) (Driver.d2mParty L) c s

/-- A payload comes out of the protocol, and a task makes the driver send one,
only while at most `2 * c` of them are in the channels or in a suspended send. -/
def D2mRoomFor (c : Nat) (s : D2mLinkState P L) (l : D2mLabel ⊕ DriverLabel) : Prop :=
  Link.RoomFor (D2mRunner.intakes P) (Driver.d2mIntakes L) c s l

/-- A run never deadlocks exactly when every payload that it takes up finds
room. -/
theorem d2mLink_not_deadlocked_iff (protocol : P.State) (driver : Driver L) (c : Nat)
    (ls : List (D2mLabel ⊕ DriverLabel)) :
    (d2mLink P L c).Visits (fun s => ¬ D2mDeadlocked c s) (d2mLinkStart protocol driver) ls ↔
      (d2mLink P L c).Meets (D2mRoomFor c) (d2mLinkStart protocol driver) ls := by
  refine Link.visits_not_deadlocked_iff _ _ ?_ ?_
  · exact ⟨Nat.zero_le _, Nat.zero_le _⟩
  · rintro ⟨hsending, -⟩
    cases hsending

/-- A run with at most `2 * c + 1` payloads that are not answers finds room for each. -/
theorem d2mRoomFor_of_few {protocol : P.State} {driver : Driver L} {c : Nat}
    {ls : List (D2mLabel ⊕ DriverLabel)}
    (h : (Link.takenUp (D2mRunner.intakes P) (Driver.d2mIntakes L) c
      (d2mLinkStart protocol driver) ls).length ≤ 2 * c + 1) :
    (d2mLink P L c).Meets (D2mRoomFor c) (d2mLinkStart protocol driver) ls := by
  refine Link.meets_roomFor _ _ ?_
  rw [show Link.inFlight (D2mRunner.party P) (Driver.d2mParty L) (d2mLinkStart protocol driver) = 0
    from rfl, Nat.zero_add]
  exact h

/-! ### A burst that deadlocks -/

namespace D2mBurst

/-- A datagram arrives, and its payload comes out of the protocol. -/
def receive (n : UInt8) : List (D2mLabel ⊕ DriverLabel) :=
  [.inl .turn, .inl (.received (.binary [n])), .inl .turn]

/-- The connection forwards the payload. -/
def forward (n : UInt8) : List (D2mLabel ⊕ DriverLabel) :=
  receive n ++ [.inl (.sentIncoming (.reflected n.toUInt32 []))]

/-- The driver receives the payload and is about to acknowledge it. -/
def reflected (n : UInt8) : List (D2mLabel ⊕ DriverLabel) :=
  [.inr (.recvD2m (some (.reflected n.toUInt32 [])))]

/-- The driver acknowledges the payload. -/
def acknowledge (n : UInt8) : List (D2mLabel ⊕ DriverLabel) :=
  [.inr (.sentD2m (.reflectedAck n.toUInt32))]

/-- The connection prefers the WebSocket: sixteen payloads are acknowledged, one
is about to be, and the others fill the channel to the driver. -/
def run : List (D2mLabel ⊕ DriverLabel) :=
  (List.range 16).flatMap
      (fun n => forward (.ofNat n) ++ reflected (.ofNat n) ++ acknowledge (.ofNat n)) ++
    forward 16 ++ reflected 16 ++
    (List.range' 17 16).flatMap (fun n => forward (.ofNat n)) ++ receive 33

end D2mBurst

set_option maxRecDepth 4000 in
open D2mBurst in
/-- With the program's channels, a burst of 34 reflected payloads can end in a
deadlock. -/
theorem d2mLink_deadlocks :
    ∃ s, (d2mLink .sample _ 16).exec (d2mLinkStart (P := .sample) [] .sample) run = some s ∧
      D2mDeadlocked 16 s := by
  refine ⟨_, rfl, ?_⟩
  exact ⟨rfl, by decide, rfl, by decide⟩

end MultideviceClient
