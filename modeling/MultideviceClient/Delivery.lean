import MultideviceClient.CspRelay
import MultideviceClient.D2mRelay
import MultideviceClient.Serial
import MultideviceClient.Wiring

/-!
# Delivery through the client

What a server sends passes a protocol, a connection, a channel and the E2E
driver, and what the driver answers passes a channel, a connection and a protocol
again.  Each of them settles an account, up to what it has in hand.  So the
accounts chain (`Settles.trans`) to statements about the client as a whole, over
every run and however its branches are interleaved.

*Messages.*  The tasks of the driver are done in the order in which the chat
server's protocol returned their messages, and the acknowledgements that it is
asked to create are those of the tasks, in their order (`messages_settled`).

*Reflected payloads.*  The mediator's protocol is asked to create the
acknowledgements of the reflected payloads that it returned, in their order
(`reflected_settled`).

*Promotions.*  The chat server's protocol is asked to unblock incoming messages
once for every promotion that the mediator's protocol returned
(`promotions_settled`).

*Events.*  What is sent on `events` is what the driver reports while the embedder has the
receiver (`events_exact`), and nothing is acknowledged before it is reported
(`acknowledged_reported`).

The number in each account bounds what may be missing at any time: what is in
hand, what waits in the channels, and what is lost when a part returns.
-/

namespace MultideviceClient

open Foundations

variable {P : CspProtocol} {Q : D2mProtocol} {L : Libthreema}

/-! ## Kinds of payloads -/

/-- The message of a payload of the chat server. -/
def IncomingPayloadForCspE2e.taskMessage :
    IncomingPayloadForCspE2e → Option MessageWithMetadataBox
  | .message box => some box
  | .messageAck _ => none

/-- What a payload for the chat server acknowledges. -/
def OutgoingPayloadForCspE2e.acknowledges : OutgoingPayloadForCspE2e → Option MessageAck
  | .messageAck ack => some ack
  | .unblockIncomingMessages => none

/-- The payload unblocks incoming messages. -/
def OutgoingPayloadForCspE2e.unblocks : OutgoingPayloadForCspE2e → Option Unit
  | .messageAck _ => none
  | .unblockIncomingMessages => some ()

/-- The id of a reflected payload. -/
def D2mIncomingPayload.reflectedId : D2mIncomingPayload → Option UInt32
  | .reflected reflectId _ => some reflectId
  | _ => none

/-- The payload is a promotion to leader. -/
def D2mIncomingPayload.promotes : D2mIncomingPayload → Option Unit
  | .rolePromotedToLeader => some ()
  | _ => none

/-- The reflected payload that a payload for the mediator acknowledges. -/
def D2mOutgoingPayload.acknowledges : D2mOutgoingPayload → Option UInt32
  | .reflectedAck reflectId => some reflectId
  | _ => none

/-- The payload of the driver that the protocol is asked to create. -/
def CspCall.created : CspCall → Option OutgoingPayloadForCspE2e
  | .createPayload (.messageAck messageAck) _ => some (.messageAck messageAck)
  | .createPayload .unblockIncomingMessages _ => some .unblockIncomingMessages
  | _ => none

theorem CspCall.created_toOutgoingPayload (payload : OutgoingPayloadForCspE2e)
    (instruction : CspInstruction) :
    (CspCall.createPayload payload.toOutgoingPayload instruction).created = some payload := by
  cases payload <;> rfl

/-- A part of what is sent on a channel, read off the labels. -/
theorem filterMap_sentOn {κ α β δ : Type} {port : κ → Port α β} {f : α → Option δ}
    {p : κ → Option δ} (h : ∀ l, (port l).puts.filterMap f = (p l).toList) (ls : List κ) :
    (sentOn port ls).filterMap f = ls.filterMap p := by
  induction ls with
  | nil => rfl
  | cons l ls ih =>
      rw [sentOn, List.flatMap_cons, List.filterMap_append, h l]
      show (p l).toList ++ (sentOn port ls).filterMap f = _
      rw [ih]
      cases hp : p l <;> simp [hp]

/-- A part of what is received on a channel, read off the labels. -/
theorem filterMap_receivedOn {κ α β δ : Type} {port : κ → Port α β} {f : β → Option δ}
    {p : κ → Option δ} (h : ∀ l, (port l).takes.filterMap f = (p l).toList) (ls : List κ) :
    (receivedOn port ls).filterMap f = ls.filterMap p := by
  induction ls with
  | nil => rfl
  | cons l ls ih =>
      rw [receivedOn, List.flatMap_cons, List.filterMap_append, h l]
      show (p l).toList ++ (receivedOn port ls).filterMap f = _
      rw [ih]
      cases hp : p l <;> simp [hp]

/-! ## The chat server connection -/

namespace CspRunner

variable {l : CspLabel} {calls : List CspCall} {pc pc' : CspPc} {instruction : CspInstruction}

/-- The processing of an instruction creates an echo response at most. -/
theorem Processed.created (h : Processed P instruction calls pc) :
    calls.filterMap CspCall.created = [] := by
  cases h <;> rfl

/-- A step creates the payload that it takes, unless the protocol refuses. -/
theorem Moves.created (h : Moves P pc l calls pc') :
    calls.filterMap CspCall.created = l.port.takes ∨
      pc'.hasReturned = true ∧ calls = [] ∧ l.port.takes.length ≤ 1 := by
  cases h with
  | process h => exact Or.inl h.created
  | poll h =>
      refine Or.inl ?_
      rw [List.filterMap_cons]
      exact h.created
  | @create payload instruction calls pc hcreate h =>
      refine Or.inl ?_
      rw [List.filterMap_cons, CspCall.created_toOutgoingPayload, h.created]
      rfl
  | @recvFails payload result =>
      refine Or.inr ⟨rfl, rfl, ?_⟩
      cases payload with
      | none => exact Nat.zero_le 1
      | some payload => exact Nat.le_refl 1
  | _ => exact Or.inl rfl

end CspRunner

namespace CspSession

variable {l : CspSessionLabel} {calls : List CspCall} {pc pc' : CspSessionPc} {dropped : Bytes}

theorem ChunkAdded.created {bytes : Bytes} (h : ChunkAdded bytes calls pc dropped) :
    calls.filterMap CspCall.created = [] := by
  cases h <;> rfl

theorem Moves.created (h : Moves P pc l calls pc' dropped) :
    calls.filterMap CspCall.created = l.port.takes ∨
      pc'.hasEnded = true ∧ calls = [] ∧ l.port.takes.length ≤ 1 := by
  cases h with
  | noLength h => exact Or.inl h.created
  | tryRead hread h => exact Or.inl h.created
  | payload h => exact h.created
  | _ => exact Or.inl rfl

/-- A run is the run over the recorded protocol without the calls. -/
theorem exec_recorded {protocol : P.State} {clientHello : Bytes} {self : CspSession P}
    {ls : List CspSessionLabel}
    (hrun : (machine P).exec (start protocol clientHello) ls = some self) :
    ∃ self' : CspSession P.recorded,
      (machine P.recorded).exec (startRecorded protocol clientHello) ls = some self' ∧
      self'.erase = self := by
  have herase := (startRecorded protocol clientHello).exec_erase ls
  rw [show (startRecorded protocol clientHello).erase = start protocol clientHello from rfl, hrun]
    at herase
  exact Option.map_eq_some_iff.mp herase

theorem sentOn_port (ls : List CspSessionLabel) :
    sentOn CspSessionLabel.port ls = ls.flatMap CspSessionLabel.forwarded := by
  refine List.flatMap_congr fun l _ => ?_
  cases l with
  | payload l =>
      cases l with
      | recvOutgoing payload => cases payload <;> rfl
      | _ => rfl
  | _ => rfl

/-- The payloads that the payload flow returns are sent to the driver. -/
theorem forwards_settled {protocol : P.State} {clientHello : Bytes} {self : CspSession P.recorded}
    {ls : List CspSessionLabel}
    (hrun : (machine P.recorded).exec (startRecorded protocol clientHello) ls = some self) :
    Settles 1 self.pc.hasEnded self.pc.dueForward (sentOn CspSessionLabel.port ls)
      (((startRecorded protocol clientHello).callsOfPayloadFlow ls).filterMap
        CspCall.forwardable) := by
  rw [sentOn_port]
  exact forwards_exec rfl hrun

/-- The payloads that are received from the driver are created. -/
theorem created_settled {protocol : P.State} {clientHello : Bytes} {self : CspSession P.recorded}
    {ls : List CspSessionLabel}
    (hrun : (machine P.recorded).exec (startRecorded protocol clientHello) ls = some self) :
    Settles 1 self.pc.hasEnded [] (self.calls.filterMap CspCall.created)
      (receivedOn CspSessionLabel.port ls) := by
  have hcalls := calls_exec hrun
  rw [show (startRecorded protocol clientHello).calls = [] from rfl, List.nil_append] at hcalls
  rw [hcalls, (machine P.recorded).filterMap_collect_eq, receivedOn,
    ← (machine P.recorded).collect_flatMap hrun]
  refine account_exec 1 (fun _ => []) (fun _ _ calls => calls.filterMap CspCall.created)
    (fun _ l _ => l.port.takes) (fun _ => Nat.zero_le 1) ?_ ?_ (fun _ _ => ⟨rfl, rfl⟩) rfl hrun
  · intro pc l calls pc' dropped hmoves hlive
    rcases hmoves.created with hcreated | ⟨hended, -, -⟩
    · rw [hcreated]
      exact List.append_nil _
    · rw [hended] at hlive
      cases hlive
  · intro pc l calls pc' dropped hmoves _
    rcases hmoves.created with hcreated | ⟨-, rfl, hlength⟩
    · exact ⟨[], Nat.zero_le 1, by rw [hcreated]; exact List.append_nil _⟩
    · exact ⟨l.port.takes, hlength, rfl⟩

end CspSession

/-! ## The mediator connection -/

namespace D2mSession

/-- A run is the run over the recorded protocol without the calls. -/
theorem exec_recorded {protocol : Q.State} {self : D2mSession Q} {ls : List D2mSessionLabel}
    (hrun : (machine Q).exec (start protocol) ls = some self) :
    ∃ self' : D2mSession Q.recorded,
      (machine Q.recorded).exec (startRecorded protocol) ls = some self' ∧ self'.erase = self := by
  have herase := (startRecorded protocol).exec_erase ls
  rw [show (startRecorded protocol).erase = start protocol from rfl, hrun] at herase
  exact Option.map_eq_some_iff.mp herase

theorem sentOn_port (ls : List D2mSessionLabel) :
    sentOn D2mSessionLabel.port ls = ls.flatMap D2mSessionLabel.forwarded := by
  refine List.flatMap_congr fun l _ => ?_
  cases l with
  | payload l => cases l <;> rfl
  | _ => rfl

/-- The payloads that the payload flow returns are sent to the driver. -/
theorem forwards_settled {protocol : Q.State} {self : D2mSession Q.recorded}
    {ls : List D2mSessionLabel}
    (hrun : (machine Q.recorded).exec (startRecorded protocol) ls = some self) :
    Settles 1 self.pc.hasEnded self.pc.dueForward (sentOn D2mSessionLabel.port ls)
      (((startRecorded protocol).callsOfPayloadFlow ls).flatMap D2mCall.forwardable) := by
  rw [sentOn_port, callsOfPayloadFlow, (machine Q.recorded).flatMap_collect,
    ← (machine Q.recorded).collect_flatMap hrun]
  exact account_exec 1 D2mSessionPc.dueForward (fun _ l _ => l.forwarded)
    (fun _ l calls => (l.payloadCalls calls).flatMap D2mCall.forwardable) length_dueForward
    Moves.forwards Moves.forwards_end (fun _ _ => ⟨rfl, rfl⟩) rfl hrun

/-- The payloads that are received from the driver are created. -/
theorem created_settled {protocol : Q.State} {self : D2mSession Q.recorded}
    {ls : List D2mSessionLabel}
    (hrun : (machine Q.recorded).exec (startRecorded protocol) ls = some self) :
    Settles 1 self.pc.hasEnded [] (self.recordedCalls.flatMap D2mCall.created)
      (receivedOn D2mSessionLabel.port ls) := by
  have hcalls : self.recordedCalls = (startRecorded protocol).callsOf ls := recordedCalls_exec hrun
  have hreceived : receivedOn D2mSessionLabel.port ls = ls.flatMap D2mSessionLabel.taken := by
    refine List.flatMap_congr fun l _ => ?_
    cases l with
    | payload l => cases l <;> rfl
    | _ => rfl
  rw [hreceived, hcalls, callsOf, (machine Q.recorded).flatMap_collect,
    ← (machine Q.recorded).collect_flatMap hrun]
  exact account_exec 1 (fun _ => []) (fun _ _ calls => calls.flatMap D2mCall.created)
    (fun _ l _ => l.taken) (fun _ => Nat.zero_le 1) Moves.created (fun h _ => h.created_end)
    (fun _ _ => ⟨rfl, rfl⟩) rfl hrun

end D2mSession

/-! ## The driver -/

/-- The answer to a payload of the mediator that is still to be sent. -/
def DriverPc.dueAnswer : DriverPc → Option Effect
  | .updateD2mState _ => some .unblockIncomingMessages
  | .sendUnblock _ => some .unblockIncomingMessages
  | .sendReflectedAck reflectId _ => some (.reflectedAck reflectId)
  | _ => none

/-- The reflected payload that an answer acknowledges. -/
def Effect.acknowledges : Effect → Option UInt32
  | .reflectedAck reflectId => some reflectId
  | _ => none

/-- The answer unblocks incoming messages. -/
def Effect.unblocks : Effect → Option Unit
  | .unblockIncomingMessages => some ()
  | _ => none

namespace Driver

variable {deviceGroupKey : L.reflection.DeviceGroupKey} {contactStore : ContactStore L}
  {contacts : ContactMap} {self self' : Driver L} {ls : List DriverLabel}

theorem answer_due (pc : DriverPc) : pc.due.filterMap Effect.answer = pc.dueAnswer.toList := by
  cases pc <;> rfl

theorem succeeds_of_not_ends {l : DriverLabel} (h : l.ends = false) : l.Succeeds := by
  cases l with
  | sendFailed => cases h
  | updated error =>
      cases error with
      | none => trivial
      | some error => cases h
  | _ => trivial

/-- Payloads of the mediator are answered in their order. -/
theorem answers_settled
    (hrun : (driverMachine L).exec (new deviceGroupKey contactStore contacts) ls = some self) :
    Settles 1 self.hasReturned self.pc.dueAnswer.toList (ls.filterMap DriverLabel.answer)
      (ls.filterMap DriverLabel.answerTo) := by
  rw [← (driverMachine L).collect_labels hrun, ← (driverMachine L).collect_labels hrun]
  refine account_exec (fun self => self.pc.dueAnswer) (fun {s s' l} hl hlive => ?_) ?_ rfl hrun
  · have hdue := congrArg (List.filterMap Effect.answer)
      (observed_due (succeeds_of_not_ends hlive) hl)
    rw [List.filterMap_append, List.filterMap_append, filterMap_observed, filterMap_demanded,
      answer_due, answer_due] at hdue
    exact hdue
  · intro s l hend
    have hnone : l.answer = none ∧ l.answerTo = none := by
      cases l with
      | recvD2m payload =>
          cases payload with
          | none => exact ⟨rfl, rfl⟩
          | some payload => cases hend
      | sentCsp payload => cases hend
      | sentD2m payload => cases hend
      | _ => exact ⟨rfl, rfl⟩
    rw [hnone.1, hnone.2]
    exact ⟨rfl, Or.inl rfl⟩

/-- Reflected payloads are acknowledged in their order. -/
theorem reflectedAcks_settled
    (hrun : (driverMachine L).exec (new deviceGroupKey contactStore contacts) ls = some self) :
    Settles 1 self.hasReturned (self.pc.dueAnswer.toList.filterMap Effect.acknowledges)
      ((sentOn DriverLabel.d2mPort ls).filterMap D2mOutgoingPayload.acknowledges)
      ((receivedOn DriverLabel.d2mPort ls).filterMap D2mIncomingPayload.reflectedId) := by
  have hsettled := (answers_settled hrun).filterMap Effect.acknowledges
  rw [List.filterMap_filterMap, List.filterMap_filterMap] at hsettled
  rw [filterMap_sentOn (p := fun l => l.answer.bind Effect.acknowledges),
    filterMap_receivedOn (p := fun l => l.answerTo.bind Effect.acknowledges)]
  · exact hsettled
  · intro l
    cases l with
    | recvD2m payload =>
        cases payload with
        | none => rfl
        | some payload => cases payload <;> rfl
    | _ => rfl
  · intro l
    cases l with
    | sentD2m payload => cases payload <;> rfl
    | sentCsp payload => cases payload <;> rfl
    | recvD2m payload => cases payload <;> rfl
    | _ => rfl

/-- Incoming messages are unblocked once for every promotion. -/
theorem unblocks_settled
    (hrun : (driverMachine L).exec (new deviceGroupKey contactStore contacts) ls = some self) :
    Settles 1 self.hasReturned (self.pc.dueAnswer.toList.filterMap Effect.unblocks)
      ((sentOn DriverLabel.cspPort ls).filterMap OutgoingPayloadForCspE2e.unblocks)
      ((receivedOn DriverLabel.d2mPort ls).filterMap D2mIncomingPayload.promotes) := by
  have hsettled := (answers_settled hrun).filterMap Effect.unblocks
  rw [List.filterMap_filterMap, List.filterMap_filterMap] at hsettled
  rw [filterMap_sentOn (p := fun l => l.answer.bind Effect.unblocks),
    filterMap_receivedOn (p := fun l => l.answerTo.bind Effect.unblocks)]
  · exact hsettled
  · intro l
    cases l with
    | recvD2m payload =>
        cases payload with
        | none => rfl
        | some payload => cases payload <;> rfl
    | _ => rfl
  · intro l
    cases l with
    | sentD2m payload => cases payload <;> rfl
    | sentCsp payload => cases payload <;> rfl
    | recvCsp payload => cases payload <;> rfl
    | _ => rfl

/-- The tasks are done in the order in which their messages are received. -/
theorem tasks_settled
    (hrun : (driverMachine L).exec (new deviceGroupKey contactStore contacts) ls = some self) :
    Settles 1 self.hasReturned self.unfinished.toList
      (((new deviceGroupKey contactStore contacts).results ls).map Prod.fst)
      ((receivedOn DriverLabel.cspPort ls).filterMap IncomingPayloadForCspE2e.taskMessage) := by
  rw [filterMap_receivedOn (p := DriverLabel.taken)]
  · exact results_taken rfl hrun
  · intro l
    cases l with
    | recvCsp payload =>
        cases payload with
        | none => rfl
        | some payload => cases payload <;> rfl
    | _ => rfl

/-- The acknowledgements of the tasks are sent in their order. -/
theorem taskAcks_settled
    (hrun : (driverMachine L).exec (new deviceGroupKey contactStore contacts) ls = some self) :
    Settles 1 self.hasReturned self.pc.unsent.toList
      ((sentOn DriverLabel.cspPort ls).filterMap OutgoingPayloadForCspE2e.acknowledges)
      (((new deviceGroupKey contactStore contacts).results ls).filterMap Prod.snd) := by
  rw [filterMap_sentOn (p := DriverLabel.ackSent)]
  · exact acks_sent rfl hrun
  · intro l
    cases l with
    | sentCsp payload => cases payload <;> rfl
    | recvCsp payload => cases payload <;> rfl
    | _ => rfl

end Driver

/-! ## A message, a reflected one and a promotion -/

/-- After the login, a datagram that starts with a zero is a promotion. -/
def D2mProtocol.sampleLeader : D2mProtocol where
  State := Bool × List Bytes
  poll s :=
    match D2mProtocol.sampleLogin.poll s with
    | .ok (some ⟨none, some (.reflected 0 _), datagram⟩, s') =>
        .ok (some ⟨none, some .rolePromotedToLeader, datagram⟩, s')
    | result => result
  addDatagrams s added := D2mProtocol.sampleLogin.addDatagrams s added
  createPayload s payload := D2mProtocol.sampleLogin.createPayload s payload

namespace Client

/-- Every envelope is a text of `ECHOECHO`. -/
def deliveries : ClientParts .sampleLogin .sampleLeader
    (.sample fun _ => .ok ⟨some (.incomingMessage
      { senderIdentity := "ECHOECHO", messageId := 7, createdAt := 1700000000000, type := 1,
        body := utf8 "hi" })⟩) where
  stateDir := "."
  deviceGroupKey := ()
  contactStore := .sample _
  contacts := ∅
  cspProtocol := (false, [])
  clientHello := [42]
  d2mProtocol := (false, [])

/-- The mediator promotes the device and reflects a text, and the chat server sends a
message. -/
def delivers : List ClientLabel :=
  setsUp ++ .connectedD2m (.ok true) :: handshakes ++
    [.d2m (.payload .turn), .d2m (.payload (.received (.binary [0]))), .d2m (.payload .turn),
      .d2m (.payload (.sentIncoming .rolePromotedToLeader)), .d2m (.payload .turn),
      .driver (.recvD2m (some .rolePromotedToLeader)), .csp (.payload .turn),
      .driver (.updated none), .driver (.sentCsp .unblockIncomingMessages),
      .d2m (.payload (.received (.binary [7]))), .d2m (.payload .turn),
      .csp (.payload (.recvOutgoing (some .unblockIncomingMessages))),
      .d2m (.payload (.sentIncoming (.reflected 7 []))), .csp (.payload (.written none)),
      .csp (.payload .turn), .csp (.payload (.readable (.bytes [1, 5]))), .csp (.payload .turn),
      .driver (.recvD2m (some (.reflected 7 []))), .driver (.sentD2m (.reflectedAck 7)),
      .csp (.payload (.sentIncoming (.message ⟨[5]⟩))), .d2m (.payload .turn),
      .driver (.recvCsp (some (.message ⟨[5]⟩))), .d2m (.payload (.recvOutgoing (.reflectedAck 7))),
      .driver (.polled (.ok (.done (some ⟨[5]⟩)))), .driver (.sentCsp (.messageAck ⟨[5]⟩)),
      .csp (.payload .turn), .csp (.payload (.recvOutgoing (some (.messageAck ⟨[5]⟩))))]

end Client

/-! ## The client -/

namespace ClientTasks

/-- The messages that the chat server's protocol has returned and whose tasks are
not done. -/
def dueMessages (self : ClientTasks P Q L) : List MessageWithMetadataBox :=
  self.driver.unfinished.toList ++
    self.cspIncoming.filterMap IncomingPayloadForCspE2e.taskMessage ++
    self.csp.pc.dueForward.filterMap IncomingPayloadForCspE2e.taskMessage

/-- The acknowledgements of tasks that have not been created. -/
def dueMessageAcks (self : ClientTasks P Q L) : List MessageAck :=
  self.cspOutgoing.filterMap OutgoingPayloadForCspE2e.acknowledges ++
    self.driver.pc.unsent.toList

/-- The reflected payloads that the mediator's protocol has returned and whose
acknowledgements have not been created. -/
def dueReflectedAcks (self : ClientTasks P Q L) : List UInt32 :=
  self.d2mOutgoing.filterMap D2mOutgoingPayload.acknowledges ++
    self.driver.pc.dueAnswer.toList.filterMap Effect.acknowledges ++
    self.d2mIncoming.filterMap D2mIncomingPayload.reflectedId ++
    self.d2m.pc.dueForward.filterMap D2mIncomingPayload.reflectedId

/-- The promotions that the mediator's protocol has returned and that have not
unblocked incoming messages. -/
def dueUnblocks (self : ClientTasks P Q L) : List Unit :=
  self.cspOutgoing.filterMap OutgoingPayloadForCspE2e.unblocks ++
    self.driver.pc.dueAnswer.toList.filterMap Effect.unblocks ++
    self.d2mIncoming.filterMap D2mIncomingPayload.promotes ++
    self.d2m.pc.dueForward.filterMap D2mIncomingPayload.promotes

namespace Wired

variable {parts : ClientParts P Q L} {ls : List ClientLabel} {tasks : ClientTasks P Q L}

/-- The acknowledgements of the tasks are created. -/
theorem taskAcks_settled (hwired : tasks.Wired parts ls) {csp : CspSession P.recorded}
    (hcsp : (CspSession.machine P.recorded).exec
      (.startRecorded parts.cspProtocol parts.clientHello)
      (ls.filterMap ClientLabel.ofCsp) = some csp) :
    Settles 6 (csp.pc.hasEnded || tasks.driver.hasReturned) tasks.dueMessageAcks
      ((csp.calls.filterMap CspCall.created).filterMap OutgoingPayloadForCspE2e.acknowledges)
      (((Driver.new parts.deviceGroupKey parts.contactStore parts.contacts).results
        (ls.filterMap ClientLabel.ofDriver)).filterMap Prod.snd) :=
  (((CspSession.created_settled hcsp).filterMap _).queued _ hwired.cspOutgoing
    hwired.room.cspOutgoing).trans (Driver.taskAcks_settled hwired.driver)

/-- The acknowledgements of the reflected payloads that the driver receives are created. -/
theorem reflectedAcks_settled (hwired : tasks.Wired parts ls) {d2m : D2mSession Q.recorded}
    (hd2m : (D2mSession.machine Q.recorded).exec (.startRecorded parts.d2mProtocol)
      (ls.filterMap ClientLabel.ofD2m) = some d2m) :
    Settles 18 (d2m.pc.hasEnded || tasks.driver.hasReturned)
      (tasks.d2mOutgoing.filterMap D2mOutgoingPayload.acknowledges ++
        tasks.driver.pc.dueAnswer.toList.filterMap Effect.acknowledges)
      ((d2m.recordedCalls.flatMap D2mCall.created).filterMap D2mOutgoingPayload.acknowledges)
      ((receivedOn DriverLabel.d2mPort (ls.filterMap ClientLabel.ofDriver)).filterMap
        D2mIncomingPayload.reflectedId) :=
  (((D2mSession.created_settled hd2m).filterMap _).queued _ hwired.d2mOutgoing
    hwired.room.d2mOutgoing).trans (Driver.reflectedAcks_settled hwired.driver)

end Wired

end ClientTasks

namespace Client

variable {parts : ClientParts P Q L} {ls : List ClientLabel} {client : Client P Q L}

/-- The tasks that are done are those of the messages that the chat server's
protocol returned, in their order, and what they acknowledge is created in that
order. -/
theorem messages_settled (hrun : (machine P Q L).exec (start parts) ls = some client) :
    ∃ tasks, Tracks parts ls client tasks ∧ ∃ csp : CspSession P.recorded,
      (CspSession.machine P.recorded).exec
        (.startRecorded parts.cspProtocol parts.clientHello)
        (ls.filterMap ClientLabel.ofCsp) = some csp ∧ csp.erase = tasks.csp ∧
      Settles 6 (tasks.driver.hasReturned || tasks.csp.pc.hasEnded) tasks.dueMessages
        (((Driver.new parts.deviceGroupKey parts.contactStore parts.contacts).results
          (ls.filterMap ClientLabel.ofDriver)).map Prod.fst)
        ((((CspSession.startRecorded parts.cspProtocol parts.clientHello).callsOfPayloadFlow
          (ls.filterMap ClientLabel.ofCsp)).filterMap CspCall.forwardable).filterMap
          IncomingPayloadForCspE2e.taskMessage) ∧
      Settles 6 (tasks.csp.pc.hasEnded || tasks.driver.hasReturned) tasks.dueMessageAcks
        ((csp.calls.filterMap CspCall.created).filterMap OutgoingPayloadForCspE2e.acknowledges)
        (((Driver.new parts.deviceGroupKey parts.contactStore parts.contacts).results
          (ls.filterMap ClientLabel.ofDriver)).filterMap Prod.snd) := by
  obtain ⟨tasks, htracks⟩ := tracks_exec hrun
  have hwired := htracks.wired
  obtain ⟨csp, hcsp, herase⟩ := CspSession.exec_recorded hwired.csp
  have hpc : csp.pc = tasks.csp.pc := congrArg CspSession.pc herase
  have hforwards := CspSession.forwards_settled hcsp
  have hacks := hwired.taskAcks_settled hcsp
  rw [hpc] at hforwards hacks
  refine ⟨tasks, htracks, csp, hcsp, herase, ?_, hacks⟩
  exact (((Driver.tasks_settled hwired.driver).queued _ hwired.cspIncoming
    hwired.room.cspIncoming).trans (hforwards.filterMap _))

/-- The message is acknowledged, and nothing is due. -/
theorem messages_settled_delivers : ∃ csp : CspSession CspProtocol.sampleLogin.recorded,
    (CspSession.machine CspProtocol.sampleLogin.recorded).exec
      (.startRecorded (P := .sampleLogin) (false, []) [42])
      (delivers.filterMap ClientLabel.ofCsp) = some csp ∧
    (csp.calls.filterMap CspCall.created).filterMap OutgoingPayloadForCspE2e.acknowledges =
      [⟨[5]⟩] := by
  obtain ⟨tasks, htracks, csp, hcsp, -, -, hacks⟩ :=
    @messages_settled _ _ _ deliveries delivers _ rfl
  obtain rfl := htracks.running _ rfl
  exact ⟨csp, hcsp, Settles.eq_script hacks⟩

/-- The acknowledgements of reflected payloads that the mediator's protocol is
asked to create are those of the reflected payloads that it returned, in their
order. -/
theorem reflected_settled (hrun : (machine P Q L).exec (start parts) ls = some client) :
    ∃ tasks, Tracks parts ls client tasks ∧ ∃ d2m : D2mSession Q.recorded,
      (D2mSession.machine Q.recorded).exec (.startRecorded parts.d2mProtocol)
        (ls.filterMap ClientLabel.ofD2m) = some d2m ∧ d2m.erase = tasks.d2m ∧
      Settles 35 (tasks.d2m.pc.hasEnded || tasks.driver.hasReturned) tasks.dueReflectedAcks
        ((d2m.recordedCalls.flatMap D2mCall.created).filterMap D2mOutgoingPayload.acknowledges)
        ((((D2mSession.startRecorded parts.d2mProtocol).callsOfPayloadFlow
          (ls.filterMap ClientLabel.ofD2m)).flatMap D2mCall.forwardable).filterMap
          D2mIncomingPayload.reflectedId) := by
  obtain ⟨tasks, htracks⟩ := tracks_exec hrun
  have hwired := htracks.wired
  obtain ⟨d2m, hd2m, herase⟩ := D2mSession.exec_recorded hwired.d2m
  have hpc : d2m.pc = tasks.d2m.pc := congrArg D2mSession.pc herase
  have hforwards := D2mSession.forwards_settled hd2m
  have hacks := hwired.reflectedAcks_settled hd2m
  rw [hpc] at hforwards hacks
  refine ⟨tasks, htracks, d2m, hd2m, herase, ?_⟩
  have hreceived := (hacks.queued _ hwired.d2mIncoming hwired.room.d2mIncoming).trans
    (hforwards.filterMap _)
  refine hreceived.closed_mono ?_
  intro hopen
  rw [hopen, Bool.false_or]
  exact (Bool.or_eq_false_iff.mp hopen).1

theorem reflected_settled_delivers : ∃ d2m : D2mSession D2mProtocol.sampleLeader.recorded,
    (D2mSession.machine D2mProtocol.sampleLeader.recorded).exec
      (.startRecorded (P := .sampleLeader) (false, []))
      (delivers.filterMap ClientLabel.ofD2m) = some d2m ∧
    (d2m.recordedCalls.flatMap D2mCall.created).filterMap D2mOutgoingPayload.acknowledges =
      [7] := by
  obtain ⟨tasks, htracks, d2m, hd2m, -, hacks⟩ :=
    @reflected_settled _ _ _ deliveries delivers _ rfl
  obtain rfl := htracks.running _ rfl
  exact ⟨d2m, hd2m, Settles.eq_script hacks⟩

/-- The chat server's protocol is asked to unblock incoming messages once for every
promotion that the mediator's protocol returned. -/
theorem promotions_settled (hrun : (machine P Q L).exec (start parts) ls = some client) :
    ∃ tasks, Tracks parts ls client tasks ∧ ∃ csp : CspSession P.recorded,
      (CspSession.machine P.recorded).exec
        (.startRecorded parts.cspProtocol parts.clientHello)
        (ls.filterMap ClientLabel.ofCsp) = some csp ∧ csp.erase = tasks.csp ∧
      Settles 23 (tasks.csp.pc.hasEnded || tasks.driver.hasReturned || tasks.d2m.pc.hasEnded)
        tasks.dueUnblocks
        ((csp.calls.filterMap CspCall.created).filterMap OutgoingPayloadForCspE2e.unblocks)
        ((((D2mSession.startRecorded parts.d2mProtocol).callsOfPayloadFlow
          (ls.filterMap ClientLabel.ofD2m)).flatMap D2mCall.forwardable).filterMap
          D2mIncomingPayload.promotes) := by
  obtain ⟨tasks, htracks⟩ := tracks_exec hrun
  have hwired := htracks.wired
  obtain ⟨csp, hcsp, hcspErase⟩ := CspSession.exec_recorded hwired.csp
  obtain ⟨d2m, hd2m, hd2mErase⟩ := D2mSession.exec_recorded hwired.d2m
  have hcspPc : csp.pc = tasks.csp.pc := congrArg CspSession.pc hcspErase
  have hd2mPc : d2m.pc = tasks.d2m.pc := congrArg D2mSession.pc hd2mErase
  have hcreated := CspSession.created_settled hcsp
  have hforwards := D2mSession.forwards_settled hd2m
  rw [hcspPc] at hcreated
  rw [hd2mPc] at hforwards
  refine ⟨tasks, htracks, csp, hcsp, hcspErase, ?_⟩
  have hsent := ((hcreated.filterMap OutgoingPayloadForCspE2e.unblocks).queued _
    hwired.cspOutgoing hwired.room.cspOutgoing).trans (Driver.unblocks_settled hwired.driver)
  exact (hsent.queued _ hwired.d2mIncoming hwired.room.d2mIncoming).trans (hforwards.filterMap _)

theorem promotions_settled_delivers : ∃ csp : CspSession CspProtocol.sampleLogin.recorded,
    (CspSession.machine CspProtocol.sampleLogin.recorded).exec
      (.startRecorded (P := .sampleLogin) (false, []) [42])
      (delivers.filterMap ClientLabel.ofCsp) = some csp ∧
    (csp.calls.filterMap CspCall.created).filterMap OutgoingPayloadForCspE2e.unblocks = [()] := by
  obtain ⟨tasks, htracks, csp, hcsp, -, hunblocks⟩ :=
    @promotions_settled _ _ _ deliveries delivers _ rfl
  obtain rfl := htracks.running _ rfl
  exact ⟨csp, hcsp, Settles.eq_script hunblocks⟩

/-! ### Reports -/

end Client

/-- The reflected payload that a payload of the mediator is, with its envelope. -/
def D2mIncomingPayload.reflectedEnvelope : D2mIncomingPayload → Option (UInt32 × Bytes)
  | .reflected reflectId envelope => some (reflectId, envelope)
  | _ => none

/-- The reflected payload that a step of the driver handles. -/
def DriverLabel.reflectedEnvelope : DriverLabel → Option (UInt32 × Bytes)
  | .recvD2m (some payload) => payload.reflectedEnvelope
  | _ => none

theorem DriverLabel.filterMap_reflectedEnvelope (ls : List DriverLabel) :
    (receivedOn DriverLabel.d2mPort ls).filterMap D2mIncomingPayload.reflectedEnvelope =
      ls.filterMap DriverLabel.reflectedEnvelope := by
  refine filterMap_receivedOn (fun l => ?_) ls
  cases l with
  | recvD2m payload =>
      cases payload with
      | none => rfl
      | some payload => cases payload <;> rfl
  | _ => rfl

theorem DriverLabel.filterMap_reflectedId (ls : List DriverLabel) :
    (receivedOn DriverLabel.d2mPort ls).filterMap D2mIncomingPayload.reflectedId =
      (ls.filterMap DriverLabel.reflectedEnvelope).map Prod.fst := by
  rw [← filterMap_reflectedEnvelope, List.map_filterMap]
  refine List.filterMap_congr fun payload _ => ?_
  cases payload <;> rfl

namespace Driver

/-- What a step reports: the text of the reflected payload that it handles, with the
contacts of that moment, or what the providers of the task emit. -/
def reports (self : Driver L) : DriverLabel → List Event
  | .recvD2m (some (.reflected _ envelope)) => (self.reflectedEvent envelope).toList
  | .provided _ emitted => emitted
  | _ => []

theorem reports_accept {self : Driver L} {wait : Wait} {payload : D2mIncomingPayload}
    {pc : DriverPc} (h : wait.accept payload = some pc) :
    self.reports (.recvD2m (some payload)) = [] := by
  cases wait <;> cases payload <;> first | rfl | cases h

theorem events_reports {self self' : Driver L} {l : DriverLabel} (hl : self.next l = some self') :
    self'.events = self.events ++ self.reports l := by
  cases step_of_next hl with
  | accepted h haccept =>
      rw [reports_accept haccept]
      exact (List.append_nil _).symm
  | @unsolicited resume payload h hreject =>
      cases payload <;> first | rfl | exact (List.append_nil _).symm
  | polled loop h htask =>
      rw [events_runInstruction]
      exact (List.append_nil _).symm
  | provided data emitted h => rfl
  | _ => exact (List.append_nil _).symm

/-- What is reported of the reflected payload that a step handles, which may be
nothing. -/
def reflectedReports (self : Driver L) : DriverLabel → List (Option Event)
  | .recvD2m (some (.reflected _ envelope)) => [self.reflectedEvent envelope]
  | _ => []

theorem reflectedReports_sublist (self : Driver L) (l : DriverLabel) :
    ((self.reflectedReports l).filterMap id).Sublist (self.reports l) := by
  cases l with
  | recvD2m payload =>
      cases payload with
      | none => exact List.nil_sublist _
      | some payload =>
          cases payload with
          | reflected reflectId envelope =>
              show ([self.reflectedEvent envelope].filterMap id).Sublist
                (self.reflectedEvent envelope).toList
              cases self.reflectedEvent envelope <;> exact List.Sublist.refl _
          | _ => exact List.nil_sublist _
  | _ => exact List.nil_sublist _

/-- Every reflected payload that is handled has its report. -/
theorem length_reflectedReports {self self' : Driver L} {ls : List DriverLabel}
    (hrun : (driverMachine L).exec self ls = some self') :
    ((driverMachine L).collect reflectedReports self ls).length =
      (ls.filterMap DriverLabel.reflectedEnvelope).length := by
  rw [← (driverMachine L).collect_labels hrun]
  induction ls generalizing self with
  | nil => rfl
  | cons l ls ih =>
      obtain ⟨s₁, hl, hrest⟩ := (driverMachine L).exec_cons_eq_some.mp hrun
      rw [(driverMachine L).collect_cons hl, (driverMachine L).collect_cons hl, List.length_append,
        List.length_append, ih hrest]
      cases l with
      | recvD2m payload =>
          cases payload with
          | none => rfl
          | some payload => cases payload <;> rfl
      | _ => rfl

/-- What the driver has emitted is what its steps report. -/
theorem events_exec {self self' : Driver L} {ls : List DriverLabel}
    (hrun : (driverMachine L).exec self ls = some self') :
    self'.events = self.events ++ (driverMachine L).collect reports self ls :=
  (driverMachine L).exec_part (fun _ _ _ => events_reports) hrun

end Driver

namespace Client

variable {parts : ClientParts P Q L} {ls : List ClientLabel} {client : Client P Q L}

/-- What has been sent besides `Connected` is what the steps of the driver report in the
part of the run that is heard. -/
theorem Tracks.events_heard {tasks : ClientTasks P Q L} (h : Tracks parts ls client tasks) :
    client.events = ls.flatMap ClientLabel.greeting ++
      (driverMachine L).collect Driver.reports
        (.new parts.deviceGroupKey parts.contactStore parts.contacts)
        ((heard ls).filterMap ClientLabel.ofDriver) := by
  obtain ⟨driver, hdriver, hevents⟩ := h.sent
  rw [hevents, Driver.events_exec hdriver]
  rfl

/-- What a run has sent on `events`: `Connected` at most once and before all else, and
then the reports of the driver, in the part of the run in which the embedder has the
receiver.  Every reflected payload that the mediator's protocol returned is handled
once, in their order, up to those that still wait for the driver. -/
theorem events_exact (hrun : (machine P Q L).exec (start parts) ls = some client) :
    ∃ tasks, Tracks parts ls client tasks ∧ ∃ d2m : D2mSession Q.recorded,
      (D2mSession.machine Q.recorded).exec (.startRecorded parts.d2mProtocol)
        (ls.filterMap ClientLabel.ofD2m) = some d2m ∧ d2m.erase = tasks.d2m ∧
      (client.receiver = true ↔ heard ls = ls) ∧
      (∃ greeting, (greeting = [] ∨ greeting = [.connected]) ∧ client.events = greeting ++
        (driverMachine L).collect Driver.reports
          (.new parts.deviceGroupKey parts.contactStore parts.contacts)
          ((heard ls).filterMap ClientLabel.ofDriver)) ∧
      (∀ event ∈ (driverMachine L).collect Driver.reports
          (.new parts.deviceGroupKey parts.contactStore parts.contacts)
          (ls.filterMap ClientLabel.ofDriver), event.isTextMessage = true) ∧
      Settles 17 tasks.d2m.pc.hasEnded
        (tasks.d2mIncoming.filterMap D2mIncomingPayload.reflectedEnvelope ++
          tasks.d2m.pc.dueForward.filterMap D2mIncomingPayload.reflectedEnvelope)
        ((ls.filterMap ClientLabel.ofDriver).filterMap DriverLabel.reflectedEnvelope)
        ((((D2mSession.startRecorded parts.d2mProtocol).callsOfPayloadFlow
          (ls.filterMap ClientLabel.ofD2m)).flatMap D2mCall.forwardable).filterMap
          D2mIncomingPayload.reflectedEnvelope) := by
  obtain ⟨tasks, htracks⟩ := tracks_exec hrun
  have hwired := htracks.wired
  obtain ⟨d2m, hd2m, herase⟩ := D2mSession.exec_recorded hwired.d2m
  have hpc : d2m.pc = tasks.d2m.pc := congrArg D2mSession.pc herase
  have hforwards := D2mSession.forwards_settled hd2m
  rw [hpc] at hforwards
  have hreports := Driver.events_exec hwired.driver
  rw [show (Driver.new parts.deviceGroupKey parts.contactStore parts.contacts).events = [] from rfl,
    List.nil_append] at hreports
  refine ⟨tasks, htracks, d2m, hd2m, herase, htracks.heard_eq_self,
    ⟨_, htracks.greeted, htracks.events_heard⟩, ?_, ?_⟩
  · rw [← hreports]
    exact htracks.texts
  · have hqueue : Settles 16 false tasks.d2mIncoming
        (receivedOn DriverLabel.d2mPort (ls.filterMap ClientLabel.ofDriver))
        (sentOn D2mSessionLabel.port (ls.filterMap ClientLabel.ofD2m)) :=
      .of_queue hwired.room.d2mIncoming hwired.d2mIncoming
    have hhandled := (hqueue.trans hforwards).filterMap D2mIncomingPayload.reflectedEnvelope
    rw [Bool.false_or, List.filterMap_append, DriverLabel.filterMap_reflectedEnvelope] at hhandled
    exact hhandled

theorem events_exact_delivers : ∃ client,
    (machine _ _ _).exec (start deliveries) delivers = some client ∧
    ∃ greeting, (greeting = [] ∨ greeting = [.connected]) ∧ client.events = greeting ++
      (driverMachine _).collect Driver.reports
        (.new deliveries.deviceGroupKey deliveries.contactStore deliveries.contacts)
        (delivers.filterMap ClientLabel.ofDriver) := by
  have hheard : heard delivers = delivers := heard_eq_self_iff.mpr rfl
  obtain ⟨tasks, -, d2m, -, -, -, ⟨greeting, hgreeting, hevents⟩, -⟩ :=
    @events_exact _ _ _ deliveries delivers _ rfl
  exact ⟨_, rfl, greeting, hgreeting, hevents.trans (by rw [hheard])⟩

/-- Nothing is acknowledged before it is reported.  The acknowledgements of reflected
payloads that the mediator's protocol is asked to create are for payloads that the
driver has handled, in their order.  The reports of those that it handled while the
embedder had the receiver are among the events; these are the first ones, and all of
them if the embedder still has it.  The acknowledgements of messages are what their
tasks gave when they were done. -/
theorem acknowledged_reported (hrun : (machine P Q L).exec (start parts) ls = some client) :
    ∃ (csp : CspSession P.recorded) (d2m : D2mSession Q.recorded)
        (handled reported : List (UInt32 × Bytes)) (reports : List (Option Event)),
      (CspSession.machine P.recorded).exec
        (.startRecorded parts.cspProtocol parts.clientHello)
        (ls.filterMap ClientLabel.ofCsp) = some csp ∧
      (D2mSession.machine Q.recorded).exec (.startRecorded parts.d2mProtocol)
        (ls.filterMap ClientLabel.ofD2m) = some d2m ∧
      handled = (ls.filterMap ClientLabel.ofDriver).filterMap DriverLabel.reflectedEnvelope ∧
      reported =
        ((heard ls).filterMap ClientLabel.ofDriver).filterMap DriverLabel.reflectedEnvelope ∧
      reported <+: handled ∧ (client.receiver = true → reported = handled) ∧
      reports = (driverMachine L).collect Driver.reflectedReports
        (.new parts.deviceGroupKey parts.contactStore parts.contacts)
        ((heard ls).filterMap ClientLabel.ofDriver) ∧
      reports.length = reported.length ∧ (reports.filterMap id).Sublist client.events ∧
      (d2m.recordedCalls.flatMap D2mCall.created).filterMap D2mOutgoingPayload.acknowledges <+:
        handled.map Prod.fst ∧
      (csp.calls.filterMap CspCall.created).filterMap OutgoingPayloadForCspE2e.acknowledges <+:
        ((Driver.new parts.deviceGroupKey parts.contactStore parts.contacts).results
          (ls.filterMap ClientLabel.ofDriver)).filterMap Prod.snd := by
  obtain ⟨tasks, htracks⟩ := tracks_exec hrun
  have hwired := htracks.wired
  obtain ⟨csp, hcsp, -⟩ := CspSession.exec_recorded hwired.csp
  obtain ⟨d2m, hd2m, -⟩ := D2mSession.exec_recorded hwired.d2m
  obtain ⟨driver, hdriver, -⟩ := htracks.sent
  refine ⟨csp, d2m, _, _, _, hcsp, hd2m, rfl, rfl, ?_, ?_, rfl,
    Driver.length_reflectedReports hdriver, ?_, ?_, ?_⟩
  · exact ((prefix_heard ls).filterMap _).filterMap _
  · intro hreceiver
    rw [htracks.heard_eq_self.mp hreceiver]
  · rw [htracks.events_heard, (driverMachine L).filterMap_collect_eq]
    refine List.Sublist.trans ?_ (List.sublist_append_right _ _)
    exact (driverMachine L).collect_sublist Driver.reflectedReports_sublist _ _
  · rw [← DriverLabel.filterMap_reflectedId]
    exact (hwired.reflectedAcks_settled hd2m).prefix_script
  · exact (hwired.taskAcks_settled hcsp).prefix_script

/-- The acknowledged text is on `events`. -/
theorem acknowledged_reported_delivers : ∃ client,
    (machine _ _ _).exec (start deliveries) delivers = some client ∧
    [Event.textMessage {
      timestampMs := 1700000000000
      outgoing := false
      conversation := .contact "ECHOECHO" none
      senderIdentity := some "ECHOECHO"
      senderName := none
      text := "hi" }].Sublist client.events := by
  obtain ⟨csp, d2m, handled, reported, reports, -, -, -, -, -, -, rfl, -, hevents, -⟩ :=
    @acknowledged_reported _ _ _ deliveries delivers _ rfl
  exact ⟨_, rfl, hevents⟩

end Client

end MultideviceClient
