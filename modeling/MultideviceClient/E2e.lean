import MultideviceClient.Csp
import MultideviceClient.D2d
import MultideviceClient.D2m

/-!
# The E2E driver

`CspE2eProtocolRunner` runs the task that libthreema makes of an incoming
message.  It carries out the instructions of the task over both connections,
and waits for the replies of the mediator.  Payloads of the mediator that it
does not wait for go to `handle_unsolicited_d2m`.

The driver is a machine like the connections.  `DriverPc` names the points where
it is suspended, and the calls into libthreema whose outcome a label gives.  A
`Wait` is a loop around `next_d2m_incoming`: what it waits for, and what it has
collected.  While the driver handles an unsolicited payload, the wait it came
from stays in the `DriverPc`, and none stands for the `select!` of `run`.

Tasks are opaque.  A label chooses each result of `poll`, so a run covers every
behaviour of every task.
-/

namespace MultideviceClient

open Foundations

variable {L : Libthreema}

/-! ## Instructions of a task -/

/-- `ReflectPayload`. -/
structure ReflectPayload where
  ephemeral : Bool
  id : UInt32
  envelope : Bytes
deriving DecidableEq, Repr

/-- `BeginTransactionInstruction`. -/
inductive BeginTransactionInstruction where
  | transactionRejected
  | beginTransaction (encryptedScope : Bytes) (ttl : UInt32)
  | abortTransaction
deriving DecidableEq, Repr

/-- `CreateContactsInstruction` and `UpdateContactsInstruction`. -/
inductive ContactsInstruction where
  | beginTransaction (instruction : BeginTransactionInstruction)
  | reflectAndCommitTransaction (reflectMessages : List ReflectPayload)
deriving DecidableEq, Repr

/-- Which of the two an instruction is. -/
inductive ContactsTask where
  | createContact
  | updateContact
deriving DecidableEq, Repr

/-- `IncomingMessageLoop`. -/
inductive IncomingMessageLoop where
  | fetchSender
  | contacts (task : ContactsTask) (instruction : ContactsInstruction)
  | reflectMessage (reflectMessages : List ReflectPayload)
  | done (outgoingMessageAck : Option MessageAck)
deriving DecidableEq, Repr

/-- `BeginTransactionReply`. -/
inductive BeginTransactionReply where
  | beginTransactionAck
  | transactionRejected (deviceId : UInt64) (encryptedScope : Bytes)
deriving DecidableEq, Repr

/-- `CreateContactsResponse` and `UpdateContactsResponse`. -/
inductive ContactsResponse where
  | beginTransactionReply (reply : BeginTransactionReply)
  | abortTransactionResponse
  | commitTransactionResponse (acknowledgedReflectIds : List UInt32)
deriving DecidableEq, Repr

/-- `IncomingMessageResponse`. -/
inductive IncomingMessageResponse where
  | fetchSender
  | contacts (task : ContactsTask) (response : ContactsResponse)
  | reflectMessage (acknowledgedReflectIds : List UInt32)
deriving DecidableEq, Repr

/-! ## The driver -/

/-- A loop around `next_d2m_incoming`. -/
inductive Wait where
  /-- For the end of another device's transaction. -/
  | transactionEnded
  /-- For the reply to `BeginTransaction`. -/
  | beginReply (task : ContactsTask)
  /-- For the acknowledgement of an aborted transaction. -/
  | abortAck (task : ContactsTask)
  /-- For the acknowledgements of the reflected messages and of the commit. -/
  | commitAck (task : ContactsTask) (acknowledgedReflectIds : List UInt32)
  /-- For `pending` acknowledgements of reflected messages. -/
  | reflectAcks (pending : Nat) (acknowledgedReflectIds : List UInt32)
deriving DecidableEq, Repr

/-- What follows the reflected messages of an instruction. -/
inductive ReflectGoal where
  | commit (task : ContactsTask)
  | acks (pending : Nat)
deriving DecidableEq, Repr

/-- Where the driver is. -/
inductive DriverPc where
  /-- At the top of the loop: suspended in `select!` without a task, and about to
  poll with one. -/
  | top
  /-- Suspended in the requests of `FetchSender`. -/
  | fetchSender
  /-- Suspended in `next_d2m_incoming`. -/
  | nextD2mIncoming (wait : Wait)
  /-- About to give a response to the task. -/
  | respond (response : IncomingMessageResponse)
  /-- About to call `update_d2m_state`. -/
  | updateD2mState (resume : Option Wait)
  /-- Suspended in a send. -/
  | sendUnblock (resume : Option Wait)
  | sendReflectedAck (reflectId : UInt32) (resume : Option Wait)
  | sendMessageAck (messageAck : MessageAck)
  | sendBeginTransaction (task : ContactsTask) (encryptedScope : Bytes) (ttl : UInt32)
  | sendReflect (payload : ReflectPayload) (rest : List ReflectPayload) (goal : ReflectGoal)
  | sendCommitTransaction (wait : Wait)
  /-- `run` has returned, which it does with an error only. -/
  | returned (error : String)
deriving DecidableEq, Repr

/-- `CspE2eProtocolRunner` in its `run`. -/
structure Driver (L : Libthreema) where
  deviceGroupKey : L.reflection.DeviceGroupKey
  contactStore : ContactStore L
  /-- The memory that the clones of the contact store share. -/
  contacts : ContactMap
  /-- The role in the protocol context is leader. -/
  leader : Bool
  /-- The message of `pending_task`. -/
  pendingTask : Option MessageWithMetadataBox
  /-- What has been given to `events.send`, oldest first.  `Client.send` tells whether it
  arrives. -/
  events : List Event
  pc : DriverPc

/-- What ends a suspension of the driver. -/
inductive DriverLabel where
  /-- `queues.incoming.recv` completes, with `none` when the channel is closed. -/
  | recvCsp (payload : Option IncomingPayloadForCspE2e)
  /-- `d2m_incoming.recv` completes, with `none` when the channel is closed. -/
  | recvD2m (payload : Option D2mIncomingPayload)
  /-- `task.poll` returns. -/
  | polled (result : Except String IncomingMessageLoop)
  /-- The requests of `FetchSender` are done. -/
  | fetched
  /-- `task.response` returns. -/
  | responded (error : Option String)
  /-- `update_d2m_state` returns. -/
  | updated (error : Option String)
  /-- A send completes. -/
  | sentCsp (payload : OutgoingPayloadForCspE2e)
  | sentD2m (payload : D2mOutgoingPayload)
  /-- A send fails, since the receiver is gone. -/
  | sendFailed
  /-- The task calls its providers: the contacts change, and events are emitted. -/
  | provided (data : ContactMap) (emitted : List Event)

/-- Back to the loop that an unsolicited payload interrupted. -/
def DriverPc.resume : Option Wait → DriverPc
  | none => .top
  | some wait => .nextD2mIncoming wait

/-- The task runs: it is polled at the top of the loop, and given its responses. -/
def DriverPc.inTask : DriverPc → Bool
  | .top => true
  | .respond _ => true
  | _ => false

/-- The payload of a send on the channel to the chat server connection. -/
def DriverPc.outgoingCsp : DriverPc → Option OutgoingPayloadForCspE2e
  | .sendUnblock _ => some .unblockIncomingMessages
  | .sendMessageAck messageAck => some (.messageAck messageAck)
  | _ => none

/-- The payload of a send on the channel to the mediator connection. -/
def DriverPc.outgoingD2m : DriverPc → Option D2mOutgoingPayload
  | .sendReflectedAck reflectId _ => some (.reflectedAck reflectId)
  | .sendBeginTransaction _ encryptedScope ttl =>
      some (.beginTransaction encryptedScope (if ttl ≠ 0 then some ttl else none))
  | .sendReflect payload _ _ => some (.reflect payload.ephemeral payload.id payload.envelope)
  | .sendCommitTransaction _ => some .commitTransaction
  | _ => none

/-- The loop of `reflect`, which ends when nothing is pending. -/
def awaitReflectAcks (pending : Nat) (acknowledgedReflectIds : List UInt32) : DriverPc :=
  if pending = 0 then .respond (.reflectMessage acknowledgedReflectIds)
  else .nextD2mIncoming (.reflectAcks pending acknowledgedReflectIds)

/-- `send_reflect` for one message after the other, and what follows. -/
def sendReflects : List ReflectPayload → ReflectGoal → DriverPc
  | payload :: rest, goal => .sendReflect payload rest goal
  | [], .commit task => .sendCommitTransaction (.commitAck task [])
  | [], .acks pending => awaitReflectAcks pending []

/-- The start of `begin_transaction`. -/
def beginTransaction (task : ContactsTask) : BeginTransactionInstruction → DriverPc
  | .transactionRejected => .nextD2mIncoming .transactionEnded
  | .beginTransaction encryptedScope ttl => .sendBeginTransaction task encryptedScope ttl
  | .abortTransaction => .sendCommitTransaction (.abortAck task)

/-- The start of `reflect_and_commit_transaction`. -/
def reflectAndCommitTransaction (task : ContactsTask) (reflectMessages : List ReflectPayload) :
    DriverPc :=
  sendReflects reflectMessages (.commit task)

/-- The start of `reflect`. -/
def reflect (reflectMessages : List ReflectPayload) : DriverPc :=
  sendReflects reflectMessages (.acks (reflectMessages.countP fun message => !message.ephemeral))

/-- What a wait makes of a payload that it waits for. -/
def Wait.accept : Wait → D2mIncomingPayload → Option DriverPc
  | .transactionEnded, .transactionEnded _ _ => some .top
  | .beginReply task, .beginTransactionAck =>
      some (.respond (.contacts task (.beginTransactionReply .beginTransactionAck)))
  | .beginReply task, .transactionRejected deviceId encryptedScope =>
      some (.respond (.contacts task
        (.beginTransactionReply (.transactionRejected deviceId encryptedScope))))
  | .abortAck task, .commitTransactionAck =>
      some (.respond (.contacts task .abortTransactionResponse))
  | .commitAck task acknowledgedReflectIds, .commitTransactionAck =>
      some (.respond (.contacts task (.commitTransactionResponse acknowledgedReflectIds)))
  | .commitAck task acknowledgedReflectIds, .reflectAck reflectId =>
      some (.nextD2mIncoming (.commitAck task (acknowledgedReflectIds ++ [reflectId])))
  | .reflectAcks pending acknowledgedReflectIds, .reflectAck reflectId =>
      some (awaitReflectAcks (pending - 1) (acknowledgedReflectIds ++ [reflectId]))
  | _, _ => none

namespace Driver

/-- `CspE2eProtocolRunner::new`. -/
def new (deviceGroupKey : L.reflection.DeviceGroupKey) (contactStore : ContactStore L)
    (contacts : ContactMap) : Driver L where
  deviceGroupKey := deviceGroupKey
  contactStore := contactStore
  contacts := contacts
  leader := false
  pendingTask := none
  events := []
  pc := .top

/-- The event that a reflected envelope emits, if any. -/
def reflectedEvent (self : Driver L) (envelope : Bytes) : Option Event :=
  match handleReflectedEnvelope self.deviceGroupKey envelope self.contactStore self.contacts with
  | .ok event => event
  | .error _ => none

/-- `handle_unsolicited_d2m`, called from a wait or from the `select!`. -/
def handleUnsolicitedD2m (self : Driver L) (resume : Option Wait) :
    D2mIncomingPayload → Driver L
  | .rolePromotedToLeader => { self with pc := .updateD2mState resume }
  | .reflected reflectId envelope =>
      { self with
        events := self.events ++ (self.reflectedEvent envelope).toList
        pc := .sendReflectedAck reflectId resume }
  | .reflectionQueueDry => { self with pc := .resume resume }
  | _ => { self with pc := .resume resume }

/-- What `run` makes of a result of `task.poll`. -/
def runInstruction (self : Driver L) : IncomingMessageLoop → Driver L
  | .fetchSender => { self with pc := .fetchSender }
  | .contacts task (.beginTransaction instruction) =>
      { self with pc := beginTransaction task instruction }
  | .contacts task (.reflectAndCommitTransaction reflectMessages) =>
      { self with pc := reflectAndCommitTransaction task reflectMessages }
  | .reflectMessage reflectMessages => { self with pc := reflect reflectMessages }
  | .done (some messageAck) => { self with pc := .sendMessageAck messageAck }
  | .done none => { self with pendingTask := none, pc := .top }

/-- What follows a send. -/
def afterSend (self : Driver L) : Driver L :=
  match self.pc with
  | .sendUnblock resume => { self with pc := .resume resume }
  | .sendReflectedAck _ resume => { self with pc := .resume resume }
  | .sendMessageAck _ => { self with pendingTask := none, pc := .top }
  | .sendBeginTransaction task _ _ => { self with pc := .nextD2mIncoming (.beginReply task) }
  | .sendReflect _ rest goal => { self with pc := sendReflects rest goal }
  | .sendCommitTransaction wait => { self with pc := .nextD2mIncoming wait }
  | _ => self

/-- What the driver makes of a payload of the mediator. -/
def consumeD2m (self : Driver L) (payload : D2mIncomingPayload) : Option (Driver L) :=
  match self.pc with
  | .top =>
      if self.pendingTask.isNone then some (self.handleUnsolicitedD2m none payload) else none
  | .nextD2mIncoming wait =>
      match wait.accept payload with
      | some pc => some { self with pc := pc }
      | none => some (self.handleUnsolicitedD2m (some wait) payload)
  | _ => none

/-- The step of a label. -/
def next (self : Driver L) : DriverLabel → Option (Driver L)
  | .recvCsp payload =>
      match self.pc, self.pendingTask, payload with
      | .top, none, some (.message message) => some { self with pendingTask := some message }
      | .top, none, some (.messageAck _) => some self
      | .top, none, none => some { self with pc := .returned "CSP incoming channel closed" }
      | _, _, _ => none
  | .recvD2m (some payload) => self.consumeD2m payload
  | .recvD2m none =>
      match self.pc with
      | .top =>
          if self.pendingTask.isNone then
            some { self with pc := .returned "D2M incoming channel closed" }
          else none
      | .nextD2mIncoming _ => some { self with pc := .returned "D2M incoming channel closed" }
      | _ => none
  | .polled result =>
      match self.pc, self.pendingTask, result with
      | .top, some _, .ok loop => some (self.runInstruction loop)
      | .top, some _, .error message => some { self with pc := .returned message }
      | _, _, _ => none
  | .fetched =>
      match self.pc with
      | .fetchSender => some { self with pc := .respond .fetchSender }
      | _ => none
  | .responded error =>
      match self.pc, error with
      | .respond _, none => some { self with pc := .top }
      | .respond _, some message => some { self with pc := .returned message }
      | _, _ => none
  | .updated error =>
      match self.pc, error with
      | .updateD2mState resume, none => some { self with leader := true, pc := .sendUnblock resume }
      | .updateD2mState _, some message => some { self with pc := .returned message }
      | _, _ => none
  | .sentCsp payload =>
      if self.pc.outgoingCsp = some payload then some self.afterSend else none
  | .sentD2m payload =>
      if self.pc.outgoingD2m = some payload then some self.afterSend else none
  | .sendFailed =>
      if self.pc.outgoingCsp.isSome || self.pc.outgoingD2m.isSome then
        some { self with pc := .returned "channel closed" }
      else none
  | .provided data emitted =>
      if self.pendingTask.isSome && self.pc.inTask then
        some { self with contacts := data, events := self.events ++ emitted }
      else none

/-! ## Sends to the chat server -/

@[simp] theorem outgoingCsp_resume (resume : Option Wait) :
    (DriverPc.resume resume).outgoingCsp = none := by
  cases resume <;> rfl

@[simp] theorem outgoingCsp_awaitReflectAcks (pending : Nat) (ids : List UInt32) :
    (awaitReflectAcks pending ids).outgoingCsp = none := by
  simp only [awaitReflectAcks]
  split <;> rfl

@[simp] theorem outgoingCsp_sendReflects (messages : List ReflectPayload) (goal : ReflectGoal) :
    (sendReflects messages goal).outgoingCsp = none := by
  cases messages with
  | cons payload rest => rfl
  | nil =>
      cases goal with
      | commit task => rfl
      | acks pending => exact outgoingCsp_awaitReflectAcks pending []

@[simp] theorem outgoingCsp_beginTransaction (task : ContactsTask)
    (instruction : BeginTransactionInstruction) :
    (beginTransaction task instruction).outgoingCsp = none := by
  cases instruction <;> rfl

theorem outgoingCsp_accept {wait : Wait} {payload : D2mIncomingPayload} {pc : DriverPc}
    (h : wait.accept payload = some pc) : pc.outgoingCsp = none := by
  cases wait <;> cases payload <;> cases h <;> first | rfl | exact outgoingCsp_awaitReflectAcks ..

@[simp] theorem outgoingCsp_handleUnsolicitedD2m (self : Driver L) (resume : Option Wait)
    (payload : D2mIncomingPayload) :
    (self.handleUnsolicitedD2m resume payload).pc.outgoingCsp = none := by
  cases payload <;> first | rfl | exact outgoingCsp_resume resume

@[simp] theorem events_runInstruction (self : Driver L) (loop : IncomingMessageLoop) :
    (self.runInstruction loop).events = self.events := by
  simp only [runInstruction]
  split <;> rfl

/-! ## Steps -/

/-- The driver receives from the mediator connection, in a wait or, without a
task, in the `select!`. -/
def Awaits (self : Driver L) (resume : Option Wait) : Prop :=
  self.pc = .resume resume ∧ (resume = none → self.pendingTask = none)

/-- Everything a step of the driver can do. -/
inductive Step (self : Driver L) : DriverLabel → Driver L → Prop where
  | message (message : MessageWithMetadataBox) (h : self.Awaits none) :
      Step self (.recvCsp (some (.message message))) { self with pendingTask := some message }
  | messageAck (messageAck : MessageAck) (h : self.Awaits none) :
      Step self (.recvCsp (some (.messageAck messageAck))) self
  | cspClosed (h : self.Awaits none) :
      Step self (.recvCsp none) { self with pc := .returned "CSP incoming channel closed" }
  | accepted {wait : Wait} {payload : D2mIncomingPayload} {pc : DriverPc}
      (h : self.pc = .nextD2mIncoming wait) (haccept : wait.accept payload = some pc) :
      Step self (.recvD2m (some payload)) { self with pc := pc }
  | unsolicited {resume : Option Wait} {payload : D2mIncomingPayload} (h : self.Awaits resume)
      (hreject : ∀ wait, resume = some wait → wait.accept payload = none) :
      Step self (.recvD2m (some payload)) (self.handleUnsolicitedD2m resume payload)
  | d2mClosed {resume : Option Wait} (h : self.Awaits resume) :
      Step self (.recvD2m none) { self with pc := .returned "D2M incoming channel closed" }
  | polled {message : MessageWithMetadataBox} (loop : IncomingMessageLoop) (h : self.pc = .top)
      (htask : self.pendingTask = some message) :
      Step self (.polled (.ok loop)) (self.runInstruction loop)
  | pollFailed {message : MessageWithMetadataBox} (error : String) (h : self.pc = .top)
      (htask : self.pendingTask = some message) :
      Step self (.polled (.error error)) { self with pc := .returned error }
  | fetched (h : self.pc = .fetchSender) :
      Step self .fetched { self with pc := .respond .fetchSender }
  | responded {response : IncomingMessageResponse} (h : self.pc = .respond response) :
      Step self (.responded none) { self with pc := .top }
  | responseFailed {response : IncomingMessageResponse} (error : String)
      (h : self.pc = .respond response) :
      Step self (.responded (some error)) { self with pc := .returned error }
  | updated {resume : Option Wait} (h : self.pc = .updateD2mState resume) :
      Step self (.updated none) { self with leader := true, pc := .sendUnblock resume }
  | updateFailed {resume : Option Wait} (error : String) (h : self.pc = .updateD2mState resume) :
      Step self (.updated (some error)) { self with pc := .returned error }
  | sentUnblock {resume : Option Wait} (h : self.pc = .sendUnblock resume) :
      Step self (.sentCsp .unblockIncomingMessages) { self with pc := .resume resume }
  | sentMessageAck {messageAck : MessageAck} (h : self.pc = .sendMessageAck messageAck) :
      Step self (.sentCsp (.messageAck messageAck)) { self with pendingTask := none, pc := .top }
  | sentReflectedAck {reflectId : UInt32} {resume : Option Wait}
      (h : self.pc = .sendReflectedAck reflectId resume) :
      Step self (.sentD2m (.reflectedAck reflectId)) { self with pc := .resume resume }
  | sentBeginTransaction {task : ContactsTask} {encryptedScope : Bytes} {ttl : UInt32}
      (h : self.pc = .sendBeginTransaction task encryptedScope ttl) :
      Step self (.sentD2m (.beginTransaction encryptedScope (if ttl ≠ 0 then some ttl else none)))
        { self with pc := .nextD2mIncoming (.beginReply task) }
  | sentReflect {payload : ReflectPayload} {rest : List ReflectPayload} {goal : ReflectGoal}
      (h : self.pc = .sendReflect payload rest goal) :
      Step self (.sentD2m (.reflect payload.ephemeral payload.id payload.envelope))
        { self with pc := sendReflects rest goal }
  | sentCommitTransaction {wait : Wait} (h : self.pc = .sendCommitTransaction wait) :
      Step self (.sentD2m .commitTransaction) { self with pc := .nextD2mIncoming wait }
  | sendFailed (h : self.pc.outgoingCsp.isSome || self.pc.outgoingD2m.isSome) :
      Step self .sendFailed { self with pc := .returned "channel closed" }
  | provided (data : ContactMap) (emitted : List Event)
      (h : self.pendingTask.isSome && self.pc.inTask) :
      Step self (.provided data emitted)
        { self with contacts := data, events := self.events ++ emitted }

theorem step_of_consumeD2m {self self' : Driver L} {payload : D2mIncomingPayload}
    (h : self.consumeD2m payload = some self') : self.Step (.recvD2m (some payload)) self' := by
  simp only [consumeD2m] at h
  split at h
  next hpc =>
      split at h
      next htask =>
          cases h
          exact .unsolicited ⟨hpc, fun _ => Option.isNone_iff_eq_none.mp htask⟩ nofun
      next => cases h
  next wait hpc =>
      split at h
      next pc haccept =>
          cases h
          exact .accepted hpc haccept
      next haccept =>
          cases h
          refine .unsolicited ⟨hpc, nofun⟩ fun wait' heq => ?_
          cases heq
          exact haccept
  next => cases h

theorem step_of_sentCsp {self self' : Driver L} {payload : OutgoingPayloadForCspE2e}
    (h : self.next (.sentCsp payload) = some self') : self.Step (.sentCsp payload) self' := by
  simp only [next, afterSend] at h
  split at h
  next hsend =>
      cases hpc : self.pc with
      | sendUnblock resume =>
          rw [hpc] at h hsend
          cases hsend
          cases h
          exact .sentUnblock hpc
      | sendMessageAck messageAck =>
          rw [hpc] at h hsend
          cases hsend
          cases h
          exact .sentMessageAck hpc
      | _ =>
          rw [hpc] at hsend
          cases hsend
  next => cases h

theorem step_of_sentD2m {self self' : Driver L} {payload : D2mOutgoingPayload}
    (h : self.next (.sentD2m payload) = some self') : self.Step (.sentD2m payload) self' := by
  simp only [next, afterSend] at h
  split at h
  next hsend =>
      cases hpc : self.pc with
      | sendReflectedAck reflectId resume =>
          rw [hpc] at h hsend
          cases hsend
          cases h
          exact .sentReflectedAck hpc
      | sendBeginTransaction task encryptedScope ttl =>
          rw [hpc] at h hsend
          cases hsend
          cases h
          exact .sentBeginTransaction hpc
      | sendReflect payload rest goal =>
          rw [hpc] at h hsend
          cases hsend
          cases h
          exact .sentReflect hpc
      | sendCommitTransaction wait =>
          rw [hpc] at h hsend
          cases hsend
          cases h
          exact .sentCommitTransaction hpc
      | _ =>
          rw [hpc] at hsend
          cases hsend
  next => cases h

/-- Everything a label can do. -/
theorem step_of_next {self self' : Driver L} {l : DriverLabel} (h : self.next l = some self') :
    self.Step l self' := by
  cases l with
  | recvCsp payload =>
      simp only [next] at h
      split at h <;> cases h
      next message hpc htask => exact .message message ⟨hpc, fun _ => htask⟩
      next messageAck hpc htask => exact .messageAck messageAck ⟨hpc, fun _ => htask⟩
      next hpc htask => exact .cspClosed ⟨hpc, fun _ => htask⟩
  | recvD2m payload =>
      cases payload with
      | some payload => exact step_of_consumeD2m h
      | none =>
          simp only [next] at h
          split at h
          next hpc =>
              split at h <;> cases h
              next htask =>
                  have hawaits : self.Awaits none :=
                    ⟨hpc, fun _ => Option.isNone_iff_eq_none.mp htask⟩
                  exact .d2mClosed hawaits
          next wait hpc =>
              cases h
              have hawaits : self.Awaits (some wait) := ⟨hpc, nofun⟩
              exact .d2mClosed hawaits
          next => cases h
  | polled result =>
      simp only [next] at h
      split at h <;> cases h
      next loop hpc htask => exact .polled loop hpc htask
      next error hpc htask => exact .pollFailed error hpc htask
  | fetched =>
      simp only [next] at h
      split at h <;> cases h
      next hpc => exact .fetched hpc
  | responded error =>
      simp only [next] at h
      split at h <;> cases h
      next hpc => exact .responded hpc
      next message hpc => exact .responseFailed message hpc
  | updated error =>
      simp only [next] at h
      split at h <;> cases h
      next hpc => exact .updated hpc
      next message hpc => exact .updateFailed message hpc
  | sentCsp payload => exact step_of_sentCsp h
  | sentD2m payload => exact step_of_sentD2m h
  | sendFailed =>
      simp only [next] at h
      split at h <;> cases h
      next hpc => exact .sendFailed hpc
  | provided data emitted =>
      simp only [next] at h
      split at h <;> cases h
      next hpc => exact .provided data emitted hpc

theorem next_of_step {self self' : Driver L} {l : DriverLabel} (h : self.Step l self') :
    self.next l = some self' := by
  cases h with
  | message message h => simp only [next, h.1, h.2 rfl, DriverPc.resume]
  | messageAck messageAck h => simp only [next, h.1, h.2 rfl, DriverPc.resume]
  | cspClosed h => simp only [next, h.1, h.2 rfl, DriverPc.resume]
  | accepted h haccept => simp only [next, consumeD2m, h, haccept]
  | @unsolicited resume payload h hreject =>
      cases resume with
      | none => simp [next, consumeD2m, h.1, h.2 rfl, DriverPc.resume]
      | some wait => simp only [next, consumeD2m, h.1, DriverPc.resume, hreject wait rfl]
  | @d2mClosed resume h =>
      cases resume with
      | none => simp [next, h.1, h.2 rfl, DriverPc.resume]
      | some wait => simp only [next, h.1, DriverPc.resume]
  | polled loop h htask => simp only [next, h, htask]
  | pollFailed error h htask => simp only [next, h, htask]
  | fetched h => simp only [next, h]
  | responded h => simp only [next, h]
  | responseFailed error h => simp only [next, h]
  | updated h => simp only [next, h]
  | updateFailed error h => simp only [next, h]
  | sentUnblock h => simp only [next, afterSend, h, DriverPc.outgoingCsp, if_true]
  | sentMessageAck h => simp only [next, afterSend, h, DriverPc.outgoingCsp, if_true]
  | sentReflectedAck h => simp only [next, afterSend, h, DriverPc.outgoingD2m, if_true]
  | sentBeginTransaction h => simp only [next, afterSend, h, DriverPc.outgoingD2m, if_true]
  | sentReflect h => simp only [next, afterSend, h, DriverPc.outgoingD2m, if_true]
  | sentCommitTransaction h => simp only [next, afterSend, h, DriverPc.outgoingD2m, if_true]
  | sendFailed h => simp only [next, h, if_true]
  | provided data emitted h => simp only [next, h, if_true]

/-- The driver of `USERUSER` over the sample parameters. -/
def sample : Driver (Libthreema.sample fun _ => .error "invalid envelope") :=
  .new () (.sample _) ∅

end Driver

end MultideviceClient
