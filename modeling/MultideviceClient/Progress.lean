import MultideviceClient.CspDecoding
import MultideviceClient.EndOfStream
import MultideviceClient.Lifecycle

/-!
# Progress

A running client can make a step of its own, or it waits for something from outside,
or the driver and one of its connections are deadlocked (`progress`).

*Suspensions.*  A branch that cannot make a step of its own is suspended in I/O, or at a
channel: a receiver on an empty one, a sender on a full one (`CspSuspended`,
`D2mSuspended`, `DriverSuspended`).

*Blame.*  The connections do not know each other, so a suspended branch is followed to the
outside over the driver and at most one connection (`WaitsOutside`).

*The spin.*  After the end of the chat server's stream, the `select!` of its payload flow
does not suspend any more.  With no frame and no payload left, the flow goes round for
ever within one poll.  `run` polls its branches in one task, so neither the other branches
nor the commands get a turn (`Starves`).
-/

namespace MultideviceClient

open Foundations

variable {P : CspProtocol} {Q : D2mProtocol} {L : Libthreema}

/-! ## Steps from outside -/

/-- The step ends a read or a write of the stream. -/
def CspSessionLabel.fromOutside : CspSessionLabel → Bool
  | .handshake .turn => false
  | .handshake (.tryReadBuf _) => false
  | .handshake _ => true
  | .payload (.readable _) => true
  | .payload (.written _) => true
  | .payload _ => false
  | .shutdown _ => true

/-- The step ends a receive or a send on the WebSocket. -/
def D2mSessionLabel.fromOutside : D2mSessionLabel → Bool
  | .handshake _ => true
  | .payload (.received _) => true
  | .payload (.pongFed _) => true
  | .payload (.written _) => true
  | .payload _ => false
  | .shutdown _ => true

/-- The step needs a server or the embedder. -/
def ClientLabel.fromOutside : ClientLabel → Bool
  | .csp l => l.fromOutside
  | .d2m l => l.fromOutside
  | .driver .fetched => true
  | .driver _ => false
  | _ => true

/-- The same for the chat server connection where it is.  After the end of the stream, the
next `try_read` finds the end once more. -/
def ClientTasks.needsServer (self : ClientTasks P Q L) (l : CspSessionLabel) : Bool :=
  l.fromOutside && !(self.streamEnded && l.readsEnd)

/-- The same for the client where it is. -/
def Client.needsOutside (self : Client P Q L) : ClientLabel → Bool
  | .csp l =>
      match self.phase with
      | .running tasks => tasks.needsServer l
      | _ => true
  | l => l.fromOutside

/-- The step finds that the driver has dropped its end of a channel. -/
def CspSessionLabel.findsClosed : CspSessionLabel → Bool
  | .payload .sendFailed => true
  | .payload (.recvOutgoing none) => true
  | _ => false

/-- The step finds that the driver has dropped its end of a channel. -/
def D2mSessionLabel.findsClosed : D2mSessionLabel → Bool
  | .payload .sendFailed => true
  | _ => false

/-! ## Suspended branches -/

/-- The connection is suspended in a read or a write of the stream, and its channels are
open. -/
def CspSessionPc.inIo : CspSessionPc → Bool
  | .handshake (.sendHello _) => true
  | .handshake (.readExact _ _) => true
  | .handshake (.write _ _) => true
  | .payload (.write _ _) => true
  | _ => false

/-- The connection goes on without any I/O and without its channels. -/
def CspSessionPc.goesOn : CspSessionPc → Bool
  | .handshake .top => true
  | .handshake (.tryReadBuf _) => true
  | .payload (.top _) => true
  | _ => false

/-- The connection is suspended in a receive or a send on the WebSocket, and its channels
are open. -/
def D2mSessionPc.inIo : D2mSessionPc → Bool
  | .handshake _ => true
  | .payload (.write _) => true
  | _ => false

namespace CspSessionPc

theorem goesOn_of_inIo {pc : CspSessionPc} (h : pc.inIo = true) : pc.goesOn = false := by
  cases pc with
  | handshake pc => cases pc <;> first | rfl | cases h
  | payload pc => cases pc <;> first | rfl | cases h
  | returned result => rfl

theorem goesOn_of_hasEnded {pc : CspSessionPc} (h : pc.hasEnded = true) : pc.goesOn = false := by
  cases pc with
  | handshake pc => cases h
  | payload pc => cases pc <;> first | rfl | cases h
  | returned result => rfl

end CspSessionPc

namespace ClientTasks

variable {tasks : ClientTasks P Q L}

/-- Where the chat server connection is when it cannot make a step of its own. -/
inductive CspSuspended (tasks : ClientTasks P Q L) : Prop where
  | io (h : tasks.csp.pc.inIo = true)
  | select (h : tasks.csp.pc = .payload .select) (hempty : tasks.cspOutgoing = [])
      (hopen : tasks.streamEnded = false)
  | forward {payload : IncomingPayloadForCspE2e} {frame : Option Bytes}
      (h : tasks.csp.pc = .payload (.forward payload frame)) (hfull : 4 ≤ tasks.cspIncoming.length)
  | shutdown (h : tasks.csp.pc.hasEnded = true)

/-- Where the mediator connection is when it cannot make a step of its own. -/
inductive D2mSuspended (tasks : ClientTasks P Q L) : Prop where
  | io (h : tasks.d2m.pc.inIo = true)
  | select {pong : Option Bytes} (h : tasks.d2m.pc = .payload (.select pong))
      (hempty : tasks.d2mOutgoing = [])
  | forward {payload : D2mIncomingPayload} {datagram : Option Bytes}
      (h : tasks.d2m.pc = .payload (.forward payload datagram))
      (hfull : 16 ≤ tasks.d2mIncoming.length)
  | shutdown (h : tasks.d2m.pc.hasEnded = true)

/-- Where the driver is when it cannot make a step of its own. -/
inductive DriverSuspended (tasks : ClientTasks P Q L) : Prop where
  | idle (h : tasks.driver.pc = .top) (htask : tasks.driver.pendingTask = none)
      (hcsp : tasks.cspIncoming = []) (hcspOpen : tasks.csp.pc.hasEnded = false)
      (hd2m : tasks.d2mIncoming = []) (hd2mOpen : tasks.d2m.pc.hasEnded = false)
  | wait {wait : Wait} (h : tasks.driver.pc = .nextD2mIncoming wait)
      (hd2m : tasks.d2mIncoming = []) (hd2mOpen : tasks.d2m.pc.hasEnded = false)
  | fetch (h : tasks.driver.pc = .fetchSender)
  | sendCsp (h : tasks.driver.pc.outgoingCsp.isSome = true)
      (hfull : 4 ≤ tasks.cspOutgoing.length) (hopen : tasks.csp.pc.hasEnded = false)
  | sendD2m (h : tasks.driver.pc.outgoingD2m.isSome = true)
      (hfull : 16 ≤ tasks.d2mOutgoing.length) (hopen : tasks.d2m.pc.hasEnded = false)

theorem needsServer_eq_false {l : CspSessionLabel} : tasks.needsServer l = false ↔
    l.fromOutside = false ∨ tasks.streamEnded = true ∧ l.readsEnd = true := by
  simp only [needsServer, Bool.and_eq_false_iff, Bool.not_eq_false', Bool.and_eq_true]

theorem nextCsp_ne_none {l : CspSessionLabel} {csp : CspSession P}
    {chans : List IncomingPayloadForCspE2e × List OutgoingPayloadForCspE2e}
    (hl : tasks.csp.next l = some csp)
    (hchans : Link.transfer 4 tasks.cspIncoming tasks.cspOutgoing l.port = some chans)
    (hopen : l.findsClosed = false) (hended : (tasks.streamEnded && l.readsOn) = false) :
    tasks.nextCsp l ≠ none := by
  have hfailed : l ≠ .payload .sendFailed := by
    rintro rfl
    cases hopen
  have hclosed : l ≠ .payload (.recvOutgoing none) := by
    rintro rfl
    cases hopen
  simp [nextCsp, hfailed, hclosed, hended, hl, hchans]

theorem nextD2m_ne_none {l : D2mSessionLabel} {d2m : D2mSession Q}
    {chans : List D2mIncomingPayload × List D2mOutgoingPayload}
    (hl : tasks.d2m.next l = some d2m)
    (hchans : Link.transfer 16 tasks.d2mIncoming tasks.d2mOutgoing l.port = some chans)
    (hopen : l.findsClosed = false) : tasks.nextD2m l ≠ none := by
  have hfailed : l ≠ .payload .sendFailed := by
    rintro rfl
    cases hopen
  simp [nextD2m, hfailed, hl, hchans]

theorem nextDriver_ne_none {l : DriverLabel} {driver : Driver L}
    {csp : List OutgoingPayloadForCspE2e × List IncomingPayloadForCspE2e}
    {d2m : List D2mOutgoingPayload × List D2mIncomingPayload} (hallows : tasks.allows l = true)
    (hl : tasks.driver.next l = some driver)
    (hcsp : Link.transfer 4 tasks.cspOutgoing tasks.cspIncoming l.cspPort = some csp)
    (hd2m : Link.transfer 16 tasks.d2mOutgoing tasks.d2mIncoming l.d2mPort = some d2m) :
    tasks.nextDriver l ≠ none := by
  simp [nextDriver, hallows, hl, hcsp, hd2m]

theorem cspSuspended (hlive : ∀ result, tasks.csp.pc ≠ .returned result)
    (hstuck : ∀ l, tasks.needsServer l = false → tasks.nextCsp l = none) :
    tasks.CspSuspended := by
  have hended : (tasks.streamEnded && false) = false := Bool.and_false _
  cases hpc : tasks.csp.pc with
  | returned result => exact (hlive result hpc).elim
  | handshake pc =>
      cases pc with
      | top =>
          have hl : tasks.csp.next (.handshake .turn) = some tasks.csp.receiveRequired := by
            simp only [CspSession.next, hpc, CspSession.nextHandshake]
          exact (nextCsp_ne_none hl rfl rfl hended (hstuck _ rfl)).elim
      | tryReadBuf buffer =>
          have hl : tasks.csp.next (.handshake (.tryReadBuf .wouldBlock)) =
              some (tasks.csp.tryReadBuf buffer .wouldBlock) := by
            simp only [CspSession.next, hpc, CspSession.nextHandshake]
          exact (nextCsp_ne_none hl rfl rfl hended (hstuck _ rfl)).elim
      | _ => exact .io (by rw [hpc]; rfl)
  | payload pc =>
      have hpayload : ∀ {l : CspLabel} {runner : CspRunner P},
          CspRunner.next ⟨tasks.csp.protocol, pc⟩ l = some runner →
          ∃ csp, tasks.csp.next (.payload l) = some csp := by
        intro l runner hl
        simp only [CspSession.next, hpc, hl, Option.map_some]
        exact ⟨_, rfl⟩
      cases pc with
      | top nextInstruction =>
          obtain ⟨csp, hl⟩ := hpayload (l := .turn) rfl
          exact (nextCsp_ne_none hl rfl rfl hended (hstuck _ rfl)).elim
      | select =>
          cases hout : tasks.cspOutgoing with
          | nil =>
              cases hopen : tasks.streamEnded with
              | false => exact .select hpc hout hopen
              | true =>
                  obtain ⟨runner, hrunner⟩ : ∃ runner,
                      CspRunner.next ⟨tasks.csp.protocol, .select⟩ (.readable .closed) =
                        some runner := by
                    simp only [CspRunner.next, CspRunner.tryReceive]
                    cases P.addChunks tasks.csp.protocol [] <;> exact ⟨_, rfl⟩
                  obtain ⟨csp, hl⟩ := hpayload hrunner
                  refine (nextCsp_ne_none hl rfl rfl hended (hstuck _ ?_)).elim
                  rw [needsServer, hopen]
                  rfl
          | cons payload rest =>
              obtain ⟨runner, hrunner⟩ : ∃ runner, CspRunner.next ⟨tasks.csp.protocol, .select⟩
                  (.recvOutgoing (some payload)) = some runner := by
                simp only [CspRunner.next]
                cases P.createPayload tasks.csp.protocol payload.toOutgoingPayload <;>
                  exact ⟨_, rfl⟩
              obtain ⟨csp, hl⟩ := hpayload hrunner
              have hchans := Link.transfer_recv 4 tasks.cspIncoming hout
              exact (nextCsp_ne_none hl hchans rfl hended (hstuck _ rfl)).elim
      | forward payload frame =>
          by_cases hroom : tasks.cspIncoming.length < 4
          · have hrunner : CspRunner.next ⟨tasks.csp.protocol, .forward payload frame⟩
                  (.sentIncoming payload) =
                some ⟨tasks.csp.protocol, CspRunner.finish frame none⟩ := by
              simp only [CspRunner.next, if_true]
            obtain ⟨csp, hl⟩ := hpayload hrunner
            refine (nextCsp_ne_none hl (Link.transfer_send payload _ hroom) rfl hended ?_).elim
            exact hstuck _ rfl
          · exact .forward hpc (Nat.le_of_not_lt hroom)
      | write frame nextInstruction => exact .io (by rw [hpc]; rfl)
      | returned result => exact .shutdown (by rw [hpc]; rfl)

theorem d2mSuspended (hlive : ∀ error, tasks.d2m.pc ≠ .returned error)
    (hstuck : ∀ l : D2mSessionLabel, l.fromOutside = false → tasks.nextD2m l = none) :
    tasks.D2mSuspended := by
  cases hpc : tasks.d2m.pc with
  | returned error => exact (hlive error hpc).elim
  | handshake pc => exact .io (by rw [hpc]; rfl)
  | payload pc =>
      have hpayload : ∀ {l : D2mLabel} {runner : D2mRunner Q},
          D2mRunner.next ⟨tasks.d2m.protocol, pc⟩ l = some runner →
          ∃ d2m, tasks.d2m.next (.payload l) = some d2m := by
        intro l runner hl
        simp only [D2mSession.next, hpc, hl, Option.map_some]
        exact ⟨_, rfl⟩
      cases pc with
      | top =>
          obtain ⟨d2m, hl⟩ := hpayload (l := .turn) rfl
          exact (nextD2m_ne_none hl rfl rfl (hstuck _ rfl)).elim
      | select pong =>
          cases hout : tasks.d2mOutgoing with
          | nil => exact .select hpc hout
          | cons payload rest =>
              obtain ⟨runner, hrunner⟩ : ∃ runner, D2mRunner.next ⟨tasks.d2m.protocol, .select pong⟩
                  (.recvOutgoing payload) = some runner := by
                simp only [D2mRunner.next]
                cases Q.createPayload tasks.d2m.protocol payload <;> exact ⟨_, rfl⟩
              obtain ⟨d2m, hl⟩ := hpayload hrunner
              exact (nextD2m_ne_none hl (Link.transfer_recv 16 _ hout) rfl (hstuck _ rfl)).elim
      | forward payload datagram =>
          by_cases hroom : tasks.d2mIncoming.length < 16
          · have hrunner : D2mRunner.next ⟨tasks.d2m.protocol, .forward payload datagram⟩
                (.sentIncoming payload) = some ⟨tasks.d2m.protocol, D2mRunner.finish datagram⟩ := by
              simp only [D2mRunner.next, if_true]
            obtain ⟨d2m, hl⟩ := hpayload hrunner
            exact (nextD2m_ne_none hl (Link.transfer_send payload _ hroom) rfl (hstuck _ rfl)).elim
          · exact .forward hpc (Nat.le_of_not_lt hroom)
      | write datagram => exact .io (by rw [hpc]; rfl)
      | returned error => exact .shutdown (by rw [hpc]; rfl)

/-- A payload of the mediator can be received wherever the driver receives one. -/
theorem nextDriver_recvD2m {payload : D2mIncomingPayload} {rest : List D2mIncomingPayload}
    {driver : Driver L} (hl : tasks.driver.consumeD2m payload = some driver)
    (hd2m : tasks.d2mIncoming = payload :: rest) :
    tasks.nextDriver (.recvD2m (some payload)) ≠ none :=
  nextDriver_ne_none rfl hl rfl (Link.transfer_recv 16 _ hd2m)

/-- A send to the chat server connection waits only for room. -/
theorem suspended_of_outgoingCsp {payload : OutgoingPayloadForCspE2e}
    (h : tasks.driver.pc.outgoingCsp = some payload)
    (hstuck : ∀ l, (ClientLabel.driver l).fromOutside = false → tasks.nextDriver l = none) :
    tasks.DriverSuspended := by
  have hsome : tasks.driver.pc.outgoingCsp.isSome = true := by rw [h]; rfl
  cases hopen : tasks.csp.pc.hasEnded with
  | true =>
      have hl : tasks.driver.next .sendFailed =
          some { tasks.driver with pc := .returned "channel closed" } := by
        simp only [Driver.next, hsome, Bool.true_or, if_true]
      refine (nextDriver_ne_none ?_ hl rfl rfl (hstuck .sendFailed rfl)).elim
      simp only [allows, hsome, hopen, Bool.and_self, Bool.true_or]
  | false =>
      by_cases hroom : tasks.cspOutgoing.length < 4
      · have hl : tasks.driver.next (.sentCsp payload) = some tasks.driver.afterSend := by
          simp only [Driver.next, h, if_true]
        have hcsp := Link.transfer_send payload tasks.cspIncoming hroom
        refine (nextDriver_ne_none ?_ hl hcsp rfl (hstuck _ rfl)).elim
        simp only [allows, hopen, Bool.not_false]
      · exact .sendCsp hsome (Nat.le_of_not_lt hroom) hopen

/-- A send to the mediator connection waits only for room. -/
theorem suspended_of_outgoingD2m {payload : D2mOutgoingPayload}
    (h : tasks.driver.pc.outgoingD2m = some payload)
    (hstuck : ∀ l, (ClientLabel.driver l).fromOutside = false → tasks.nextDriver l = none) :
    tasks.DriverSuspended := by
  have hsome : tasks.driver.pc.outgoingD2m.isSome = true := by rw [h]; rfl
  cases hopen : tasks.d2m.pc.hasEnded with
  | true =>
      have hl : tasks.driver.next .sendFailed =
          some { tasks.driver with pc := .returned "channel closed" } := by
        simp only [Driver.next, hsome, Bool.or_true, if_true]
      refine (nextDriver_ne_none ?_ hl rfl rfl (hstuck .sendFailed rfl)).elim
      simp only [allows, hsome, hopen, Bool.and_self, Bool.or_true]
  | false =>
      by_cases hroom : tasks.d2mOutgoing.length < 16
      · have hl : tasks.driver.next (.sentD2m payload) = some tasks.driver.afterSend := by
          simp only [Driver.next, h, if_true]
        have hd2m := Link.transfer_send payload tasks.d2mIncoming hroom
        refine (nextDriver_ne_none ?_ hl rfl hd2m (hstuck _ rfl)).elim
        simp only [allows, hopen, Bool.not_false]
      · exact .sendD2m hsome (Nat.le_of_not_lt hroom) hopen

/-- In the `select!` of `run` the driver takes what there is. -/
theorem suspended_of_top (hpc : tasks.driver.pc = .top)
    (hstuck : ∀ l, (ClientLabel.driver l).fromOutside = false → tasks.nextDriver l = none) :
    tasks.DriverSuspended := by
  cases htask : tasks.driver.pendingTask with
  | some message =>
      have hl : tasks.driver.next (.polled (.ok .fetchSender)) =
          some (tasks.driver.runInstruction .fetchSender) := by
        simp only [Driver.next, hpc, htask]
      exact (nextDriver_ne_none rfl hl rfl rfl (hstuck _ rfl)).elim
  | none =>
      cases hcsp : tasks.cspIncoming with
      | cons payload rest =>
          obtain ⟨driver, hl⟩ :
              ∃ driver, tasks.driver.next (.recvCsp (some payload)) = some driver := by
            simp only [Driver.next, hpc, htask]
            cases payload <;> exact ⟨_, rfl⟩
          exact (nextDriver_ne_none rfl hl (Link.transfer_recv 4 _ hcsp) rfl (hstuck _ rfl)).elim
      | nil =>
          cases hd2m : tasks.d2mIncoming with
          | cons payload rest =>
              obtain ⟨driver, hl⟩ : ∃ driver, tasks.driver.consumeD2m payload = some driver := by
                simp only [Driver.consumeD2m, hpc, htask]
                exact ⟨_, rfl⟩
              exact (nextDriver_recvD2m hl hd2m (hstuck _ rfl)).elim
          | nil =>
              cases hcspOpen : tasks.csp.pc.hasEnded with
              | true =>
                  have hl : tasks.driver.next (.recvCsp none) =
                      some { tasks.driver with pc := .returned "CSP incoming channel closed" } := by
                    simp only [Driver.next, hpc, htask]
                  refine (nextDriver_ne_none ?_ hl rfl rfl (hstuck _ rfl)).elim
                  simp only [allows, hcspOpen, hcsp, List.isEmpty_nil, Bool.and_self]
              | false =>
                  cases hd2mOpen : tasks.d2m.pc.hasEnded with
                  | false => exact .idle hpc htask hcsp hcspOpen hd2m hd2mOpen
                  | true =>
                      have hl : tasks.driver.next (.recvD2m none) =
                          some { tasks.driver with
                            pc := .returned "D2M incoming channel closed" } := by
                        simp only [Driver.next, hpc, htask, Option.isNone_none, if_true]
                      refine (nextDriver_ne_none ?_ hl rfl rfl (hstuck _ rfl)).elim
                      simp only [allows, hd2mOpen, hd2m, List.isEmpty_nil, Bool.and_self]

theorem driverSuspended (hlive : ∀ error, tasks.driver.pc ≠ .returned error)
    (hstuck : ∀ l, (ClientLabel.driver l).fromOutside = false → tasks.nextDriver l = none) :
    tasks.DriverSuspended := by
  cases hpc : tasks.driver.pc with
  | returned error => exact (hlive error hpc).elim
  | fetchSender => exact .fetch hpc
  | respond response =>
      have hl : tasks.driver.next (.responded none) = some { tasks.driver with pc := .top } := by
        simp only [Driver.next, hpc]
      exact (nextDriver_ne_none rfl hl rfl rfl (hstuck _ rfl)).elim
  | updateD2mState resume =>
      have hl : tasks.driver.next (.updated none) =
          some { tasks.driver with leader := true, pc := .sendUnblock resume } := by
        simp only [Driver.next, hpc]
      exact (nextDriver_ne_none rfl hl rfl rfl (hstuck _ rfl)).elim
  | nextD2mIncoming wait =>
      cases hd2m : tasks.d2mIncoming with
      | cons payload rest =>
          obtain ⟨driver, hl⟩ : ∃ driver, tasks.driver.consumeD2m payload = some driver := by
            simp only [Driver.consumeD2m, hpc]
            cases wait.accept payload <;> exact ⟨_, rfl⟩
          exact (nextDriver_recvD2m hl hd2m (hstuck _ rfl)).elim
      | nil =>
          cases hopen : tasks.d2m.pc.hasEnded with
          | false => exact .wait hpc hd2m hopen
          | true =>
              have hl : tasks.driver.next (.recvD2m none) =
                  some { tasks.driver with pc := .returned "D2M incoming channel closed" } := by
                simp only [Driver.next, hpc]
              refine (nextDriver_ne_none ?_ hl rfl rfl (hstuck _ rfl)).elim
              simp only [allows, hopen, hd2m, List.isEmpty_nil, Bool.and_self]
  | top => exact suspended_of_top hpc hstuck
  | sendUnblock resume => exact suspended_of_outgoingCsp (congrArg DriverPc.outgoingCsp hpc) hstuck
  | sendMessageAck messageAck =>
      exact suspended_of_outgoingCsp (congrArg DriverPc.outgoingCsp hpc) hstuck
  | _ => exact suspended_of_outgoingD2m (congrArg DriverPc.outgoingD2m hpc) hstuck

/-- Where the chat server connection is when it makes a step of its own. -/
theorem csp_of_next {l : CspSessionLabel} {csp : CspSession P} (hl : l.fromOutside = false)
    (h : tasks.csp.next l = some csp) (hfailed : l ≠ .payload .sendFailed)
    (hclosed : l ≠ .payload (.recvOutgoing none)) :
    l.port = .idle ∧ tasks.csp.pc.goesOn = true ∨
      (∃ payload, l.port = .recv payload) ∧ tasks.csp.pc = .payload .select ∨
      ∃ payload frame, l.port = .send payload ∧
        tasks.csp.pc = .payload (.forward payload frame) := by
  cases l with
  | shutdown error => cases hl
  | handshake l =>
      simp only [CspSession.next] at h
      split at h
      next pc hpc =>
          left
          rw [hpc]
          cases l with
          | turn =>
              simp only [CspSession.nextHandshake] at h
              split at h <;> cases h
              exact ⟨rfl, rfl⟩
          | tryReadBuf read =>
              simp only [CspSession.nextHandshake] at h
              split at h <;> cases h
              exact ⟨rfl, rfl⟩
          | _ => cases hl
      next => cases h
  | payload l =>
      simp only [CspSession.next] at h
      split at h
      next pc hpc =>
          obtain ⟨runner, hrunner, -⟩ := Option.map_eq_some_iff.mp h
          rw [hpc]
          cases l with
          | turn =>
              simp only [CspRunner.next] at hrunner
              split at hrunner <;> cases hrunner
              exact .inl ⟨rfl, rfl⟩
          | recvOutgoing payload =>
              cases payload with
              | none => exact (hclosed rfl).elim
              | some payload =>
                  refine .inr (.inl ⟨⟨payload, rfl⟩, ?_⟩)
                  cases pc with
                  | select => rfl
                  | _ => cases hrunner
          | sentIncoming payload =>
              cases pc with
              | forward payload' frame =>
                  simp only [CspRunner.next] at hrunner
                  split at hrunner <;> cases hrunner
                  next heq =>
                      rw [heq]
                      exact .inr (.inr ⟨payload, frame, rfl, rfl⟩)
              | _ => cases hrunner
          | sendFailed => exact (hfailed rfl).elim
          | _ => cases hl
      next => cases h

theorem CspSuspended.goesOn (h : tasks.CspSuspended) : tasks.csp.pc.goesOn = false := by
  cases h with
  | io hio => exact CspSessionPc.goesOn_of_inIo hio
  | select hpc => rw [hpc]; rfl
  | forward hpc => rw [hpc]; rfl
  | shutdown hended => exact CspSessionPc.goesOn_of_hasEnded hended

/-- In its `select!`, a suspended connection has nothing to send, and the stream goes on. -/
theorem CspSuspended.of_select (h : tasks.CspSuspended) (hpc : tasks.csp.pc = .payload .select) :
    tasks.cspOutgoing = [] ∧ tasks.streamEnded = false := by
  cases h with
  | select hpc' hempty hopen => exact ⟨hempty, hopen⟩
  | forward hpc' hfull => cases hpc.symm.trans hpc'
  | io h => rw [hpc] at h; cases h
  | shutdown h => rw [hpc] at h; cases h

/-- A suspended connection forwards into a full channel. -/
theorem CspSuspended.of_forward (h : tasks.CspSuspended) {payload : IncomingPayloadForCspE2e}
    {frame : Option Bytes} (hpc : tasks.csp.pc = .payload (.forward payload frame)) :
    4 ≤ tasks.cspIncoming.length := by
  cases h with
  | forward hpc' hfull => exact hfull
  | select hpc' hempty hopen => cases hpc.symm.trans hpc'
  | io h => rw [hpc] at h; cases h
  | shutdown h => rw [hpc] at h; cases h

/-- A connection that is suspended does not read the end of the stream once more. -/
theorem CspSuspended.not_readsEnd (h : tasks.CspSuspended) {l : CspSessionLabel}
    (hl : tasks.streamEnded = true ∧ l.readsEnd = true) {csp : CspSession P}
    (hnext : tasks.csp.next l = some csp) : False := by
  obtain ⟨hended, hreads⟩ := hl
  obtain rfl : l = .payload (.readable .closed) := by
    cases l with
    | payload l =>
        cases l with
        | readable read => cases read <;> first | rfl | cases hreads
        | _ => cases hreads
    | _ => cases hreads
  have hpc : tasks.csp.pc = .payload .select := by
    simp only [CspSession.next] at hnext
    split at hnext
    next pc hpc =>
        rw [hpc]
        cases pc <;> first | rfl | cases hnext
    next => cases hnext
  cases hended.symm.trans (h.of_select hpc).2

/-- A suspended connection makes no step of its own. -/
theorem CspSuspended.stuck (h : tasks.CspSuspended) {l : CspSessionLabel}
    (hl : tasks.needsServer l = false) : tasks.nextCsp l = none := by
  refine Option.eq_none_iff_forall_ne_some.mpr ?_
  intro tasks' hnext
  obtain ⟨hfailed, hclosed, -, csp, chans, hcsp, hchans, -⟩ := nextCsp_eq_some hnext
  rcases needsServer_eq_false.mp hl with hl | hl
  swap
  · exact h.not_readsEnd hl hcsp
  rcases csp_of_next hl hcsp hfailed hclosed with
    ⟨-, hgoesOn⟩ | ⟨⟨payload, hport⟩, hpc⟩ | ⟨payload, frame, hport, hpc⟩
  · cases hgoesOn.symm.trans h.goesOn
  · rw [hport, (h.of_select hpc).1] at hchans
    cases hchans
  · rw [hport] at hchans
    exact absurd (Link.room_of_transfer hchans) (Nat.not_lt.mpr (h.of_forward hpc))

/-- Where the mediator connection is when it makes a step of its own. -/
theorem d2m_of_next {l : D2mSessionLabel} {d2m : D2mSession Q} (hl : l.fromOutside = false)
    (h : tasks.d2m.next l = some d2m) (hfailed : l ≠ .payload .sendFailed) :
    l.port = .idle ∧ tasks.d2m.pc = .payload .top ∨
      (∃ payload pong, l.port = .recv payload ∧ tasks.d2m.pc = .payload (.select pong)) ∨
      ∃ payload datagram, l.port = .send payload ∧
        tasks.d2m.pc = .payload (.forward payload datagram) := by
  cases l with
  | shutdown error => cases hl
  | handshake l => cases hl
  | payload l =>
      simp only [D2mSession.next] at h
      split at h
      next pc hpc =>
          obtain ⟨runner, hrunner, -⟩ := Option.map_eq_some_iff.mp h
          rw [hpc]
          cases l with
          | turn =>
              cases pc with
              | top => exact .inl ⟨rfl, rfl⟩
              | _ => cases hrunner
          | recvOutgoing payload =>
              cases pc with
              | select pong => exact .inr (.inl ⟨payload, pong, rfl, rfl⟩)
              | _ => cases hrunner
          | sentIncoming payload =>
              cases pc with
              | forward payload' datagram =>
                  simp only [D2mRunner.next] at hrunner
                  split at hrunner <;> cases hrunner
                  next heq =>
                      rw [heq]
                      exact .inr (.inr ⟨payload, datagram, rfl, rfl⟩)
              | _ => cases hrunner
          | sendFailed => exact (hfailed rfl).elim
          | _ => cases hl
      next => cases h

/-- In its `select!`, a suspended connection has nothing to send. -/
theorem D2mSuspended.of_select (h : tasks.D2mSuspended) {pong : Option Bytes}
    (hpc : tasks.d2m.pc = .payload (.select pong)) : tasks.d2mOutgoing = [] := by
  cases h with
  | select hpc' hempty => exact hempty
  | forward hpc' hfull => cases hpc.symm.trans hpc'
  | io h => rw [hpc] at h; cases h
  | shutdown h => rw [hpc] at h; cases h

/-- A suspended connection forwards into a full channel. -/
theorem D2mSuspended.of_forward (h : tasks.D2mSuspended) {payload : D2mIncomingPayload}
    {datagram : Option Bytes} (hpc : tasks.d2m.pc = .payload (.forward payload datagram)) :
    16 ≤ tasks.d2mIncoming.length := by
  cases h with
  | forward hpc' hfull => exact hfull
  | select hpc' hempty => cases hpc.symm.trans hpc'
  | io h => rw [hpc] at h; cases h
  | shutdown h => rw [hpc] at h; cases h

/-- A suspended connection makes no step of its own. -/
theorem D2mSuspended.stuck (h : tasks.D2mSuspended) {l : D2mSessionLabel}
    (hl : l.fromOutside = false) : tasks.nextD2m l = none := by
  refine Option.eq_none_iff_forall_ne_some.mpr ?_
  intro tasks' hnext
  obtain ⟨hfailed, d2m, chans, hd2m, hchans, -⟩ := nextD2m_eq_some hnext
  rcases d2m_of_next hl hd2m hfailed with
    ⟨-, hpc⟩ | ⟨payload, pong, hport, hpc⟩ | ⟨payload, datagram, hport, hpc⟩
  · cases h with
    | select hpc' hempty => cases hpc.symm.trans hpc'
    | forward hpc' hfull => cases hpc.symm.trans hpc'
    | io h => rw [hpc] at h; cases h
    | shutdown h => rw [hpc] at h; cases h
  · rw [hport, h.of_select hpc] at hchans
    cases hchans
  · rw [hport] at hchans
    exact absurd (Link.room_of_transfer hchans) (Nat.not_lt.mpr (h.of_forward hpc))

/-- A suspended driver makes no step of its own. -/
theorem DriverSuspended.stuck (h : tasks.DriverSuspended) {l : DriverLabel}
    (hl : (ClientLabel.driver l).fromOutside = false) : tasks.nextDriver l = none := by
  refine Option.eq_none_iff_forall_ne_some.mpr ?_
  intro tasks' hnext
  obtain ⟨hallows, driver, csp, d2m, hdriver, hcsp, hd2m, -⟩ := nextDriver_eq_some hnext
  cases h with
  | idle hpc htask hcspEmpty hcspOpen hd2mEmpty hd2mOpen =>
      cases l with
      | recvCsp payload =>
          cases payload with
          | none => simp [allows, hcspOpen] at hallows
          | some payload =>
              rw [hcspEmpty] at hcsp
              cases hcsp
      | recvD2m payload =>
          cases payload with
          | none => simp [allows, hd2mOpen] at hallows
          | some payload =>
              rw [hd2mEmpty] at hd2m
              cases hd2m
      | fetched => cases hl
      | _ => simp [Driver.next, hpc, htask, DriverPc.outgoingCsp, DriverPc.outgoingD2m] at hdriver
  | wait hpc hd2mEmpty hd2mOpen =>
      cases l with
      | recvD2m payload =>
          cases payload with
          | none => simp [allows, hd2mOpen] at hallows
          | some payload =>
              rw [hd2mEmpty] at hd2m
              cases hd2m
      | fetched => cases hl
      | _ =>
          simp [Driver.next, hpc, DriverPc.outgoingCsp, DriverPc.outgoingD2m,
            DriverPc.inTask] at hdriver
  | fetch hpc =>
      cases l with
      | recvD2m payload => cases payload <;> simp [Driver.next, Driver.consumeD2m, hpc] at hdriver
      | fetched => cases hl
      | _ =>
          simp [Driver.next, hpc, DriverPc.outgoingCsp, DriverPc.outgoingD2m,
            DriverPc.inTask] at hdriver
  | sendCsp hsending hfull hopen =>
      rw [nextDriver_of_full (.inl ⟨hsending, hfull, hopen⟩)] at hnext
      cases hnext
  | sendD2m hsending hfull hopen =>
      rw [nextDriver_of_full (.inr ⟨hsending, hfull, hopen⟩)] at hnext
      cases hnext

/-! ## What the client waits for -/

/-- What the client waits for, which comes from outside. -/
inductive WaitsOutside (tasks : ClientTasks P Q L) : Prop where
  /-- Everything is done, and the servers have nothing to say. -/
  | idle (h : tasks.driver.pc = .top) (htask : tasks.driver.pendingTask = none)
      (hcspIncoming : tasks.cspIncoming = []) (hd2mIncoming : tasks.d2mIncoming = [])
      (hcsp : tasks.csp.pc.inIo = true ∨
        tasks.csp.pc = .payload .select ∧ tasks.cspOutgoing = [] ∧ tasks.streamEnded = false)
      (hd2m : tasks.d2m.pc.inIo = true ∨
        ∃ pong, tasks.d2m.pc = .payload (.select pong) ∧ tasks.d2mOutgoing = [])
  /-- The mediator has not replied. -/
  | reply {wait : Wait} (h : tasks.driver.pc = .nextD2mIncoming wait)
      (hd2mIncoming : tasks.d2mIncoming = [])
      (hd2m : tasks.d2m.pc.inIo = true ∨
        ∃ pong, tasks.d2m.pc = .payload (.select pong) ∧ tasks.d2mOutgoing = [])
  /-- The requests of `FetchSender` are not done. -/
  | fetch (h : tasks.driver.pc = .fetchSender)
  /-- The chat server does not read, or has not completed the handshake. -/
  | cspIo (h : tasks.driver.pc.outgoingCsp.isSome = true) (hio : tasks.csp.pc.inIo = true)
  /-- The mediator does not read, or has not completed the handshake. -/
  | d2mIo (h : tasks.driver.pc.outgoingD2m.isSome = true) (hio : tasks.d2m.pc.inIo = true)

/-- Suspended branches that do not wait for something from outside wait for each
other. -/
theorem deadlocked_or_waits (hcsp : tasks.CspSuspended) (hd2m : tasks.D2mSuspended)
    (hdriver : tasks.DriverSuspended) :
    tasks.Deadlocked .csp ∨ tasks.Deadlocked .d2m ∨ tasks.WaitsOutside := by
  cases hdriver with
  | idle h htask hcspIncoming hcspOpen hd2mIncoming hd2mOpen =>
      refine .inr (.inr (.idle h htask hcspIncoming hd2mIncoming ?_ ?_))
      · cases hcsp with
        | io hio => exact .inl hio
        | select hpc hempty hopen => exact .inr ⟨hpc, hempty, hopen⟩
        | forward hpc hfull =>
            rw [hcspIncoming] at hfull
            exact absurd hfull (by decide)
        | shutdown hended => cases hcspOpen.symm.trans hended
      · cases hd2m with
        | io hio => exact .inl hio
        | select hpc hempty => exact .inr ⟨_, hpc, hempty⟩
        | forward hpc hfull =>
            rw [hd2mIncoming] at hfull
            exact absurd hfull (by decide)
        | shutdown hended => cases hd2mOpen.symm.trans hended
  | wait h hd2mIncoming hd2mOpen =>
      refine .inr (.inr (.reply h hd2mIncoming ?_))
      cases hd2m with
      | io hio => exact .inl hio
      | select hpc hempty => exact .inr ⟨_, hpc, hempty⟩
      | forward hpc hfull =>
          rw [hd2mIncoming] at hfull
          exact absurd hfull (by decide)
      | shutdown hended => cases hd2mOpen.symm.trans hended
  | fetch h => exact .inr (.inr (.fetch h))
  | sendCsp h hfull hopen =>
      cases hcsp with
      | io hio => exact .inr (.inr (.cspIo h hio))
      | select hpc hempty =>
          rw [hempty] at hfull
          exact absurd hfull (by decide)
      | forward hpc hfull' => exact .inl ⟨_, hpc, rfl, hfull', h, hfull⟩
      | shutdown hended => cases hopen.symm.trans hended
  | sendD2m h hfull hopen =>
      cases hd2m with
      | io hio => exact .inr (.inr (.d2mIo h hio))
      | select hpc hempty =>
          rw [hempty] at hfull
          exact absurd hfull (by decide)
      | forward hpc hfull' => exact .inr (.inl ⟨_, hpc, rfl, hfull', h, hfull⟩)
      | shutdown hended => cases hopen.symm.trans hended

end ClientTasks

/-! ## After the end of the stream -/

/-- In its `select!` the payload flow has no complete frame, and an empty chunk is no
news. -/
def CspSession.Settled (self : CspSession P) : Prop :=
  ∀ pc, self.pc = .payload pc → CspRunner.Settled ⟨self.protocol, pc⟩

theorem CspSession.settled_next (hidle : P.Idles) {self self' : CspSession P} {l : CspSessionLabel}
    (hsettled : self.Settled) (h : self.next l = some self') : self'.Settled := by
  intro pc' hpc' hselect
  cases l with
  | handshake l =>
      simp only [next] at h
      split at h
      next =>
          have hafter := CspSession.afterHandshake_nextHandshake h
          rw [hpc', show pc' = .select from hselect] at hafter
          cases hafter
      next => cases h
  | payload l =>
      simp only [next] at h
      split at h
      next pc hpc =>
          obtain ⟨runner, hrunner, rfl⟩ := Option.map_eq_some_iff.mp h
          cases hpc'
          exact CspRunner.settled_next hidle _ l runner (hsettled pc hpc) hrunner hselect
      next => cases h
  | shutdown error =>
      simp only [next] at h
      split at h <;> cases h <;> cases hpc'

namespace ClientTasks

variable {parts : ClientParts P Q L} {ls : List ClientLabel} {tasks tasks' : ClientTasks P Q L}

/-- The payload flow of the chat server connection goes round: the stream is always
readable, and there is no frame to process and no payload to send. -/
structure Spins (tasks : ClientTasks P Q L) : Prop where
  ended : tasks.streamEnded = true
  outgoing : tasks.cspOutgoing = []
  poll : P.poll tasks.csp.protocol = .ok (none, tasks.csp.protocol)
  noNews : P.addChunks tasks.csp.protocol [] = .ok tasks.csp.protocol
  pc : tasks.csp.pc = .payload .select ∨ tasks.csp.pc = .payload (.top none)

/-- After the end of the stream, the flow goes round when it has nothing to send. -/
theorem Wired.spins (hwired : tasks.Wired parts ls) (hidle : P.Idles)
    (hpc : tasks.csp.pc = .payload .select) (hended : tasks.streamEnded = true)
    (hempty : tasks.cspOutgoing = []) : tasks.Spins := by
  have hsettled : tasks.csp.Settled :=
    (CspSession.machine P).exec_invariant (fun _ _ _ h hl => CspSession.settled_next hidle h hl)
      (fun pc hpc => by cases hpc) hwired.csp
  obtain ⟨hpoll, hadd⟩ := hsettled .select hpc rfl
  exact ⟨hended, hempty, hpoll, hadd, .inl hpc⟩

namespace Spins

/-- Each step leads to the top of the loop or back to its `select!`. -/
theorem next (h : tasks.Spins) {l : CspSessionLabel} (hl : tasks.needsServer l = false)
    (hnext : tasks.nextCsp l = some tasks') :
    tasks'.Spins ∧ tasks' = { tasks with csp := tasks'.csp } := by
  obtain ⟨hended, hempty, hpoll, hadd, hpc⟩ := h
  obtain ⟨-, hclosed, -, csp, chans, hcsp, hchans, rfl⟩ := nextCsp_eq_some hnext
  suffices hidle : csp.protocol = tasks.csp.protocol ∧ l.port = .idle ∧
      (csp.pc = .payload .select ∨ csp.pc = .payload (.top none)) by
    obtain ⟨hprotocol, hport, hpc'⟩ := hidle
    rw [hport] at hchans
    cases hchans
    refine ⟨⟨?_, hempty, ?_, ?_, hpc'⟩, ?_⟩
    · exact Bool.or_eq_true_iff.mpr (.inl hended)
    · simp only [hprotocol, hpoll]
    · simp only [hprotocol, hadd]
    · simp only [hended, Bool.true_or]
  cases l with
  | handshake l => rcases hpc with hpc | hpc <;> simp [CspSession.next, hpc] at hcsp
  | shutdown error => rcases hpc with hpc | hpc <;> simp [CspSession.next, hpc] at hcsp
  | payload l =>
      rcases hpc with hpc | hpc
      · simp only [CspSession.next, hpc] at hcsp
        obtain ⟨runner, hrunner, rfl⟩ := Option.map_eq_some_iff.mp hcsp
        cases l with
        | readable read =>
            cases read with
            | closed =>
                simp [CspRunner.next, CspRunner.tryReceive, hadd] at hrunner
                cases hrunner
                exact ⟨rfl, rfl, .inr rfl⟩
            | _ => simp [needsServer, CspSessionLabel.fromOutside, CspSessionLabel.readsEnd] at hl
        | recvOutgoing payload =>
            cases payload with
            | none => exact (hclosed rfl).elim
            | some payload =>
                rw [hempty] at hchans
                cases hchans
        | _ => cases hrunner
      · simp only [CspSession.next, hpc] at hcsp
        obtain ⟨runner, hrunner, rfl⟩ := Option.map_eq_some_iff.mp hcsp
        cases l with
        | turn =>
            simp only [CspRunner.next, CspRunner.turn, hpoll, Option.some.injEq] at hrunner
            cases hrunner
            exact ⟨rfl, rfl, .inl rfl⟩
        | _ => cases hrunner

/-- There is always such a step. -/
theorem goesOn (h : tasks.Spins) :
    ∃ l, tasks.needsServer l = false ∧ tasks.nextCsp l ≠ none := by
  rcases h.pc with hpc | hpc
  · refine ⟨.payload (.readable .closed), needsServer_eq_false.mpr (.inr ⟨h.ended, rfl⟩), ?_⟩
    have hl : tasks.csp.next (.payload (.readable .closed)) =
        some ⟨tasks.csp.protocol, [], .payload (.top none)⟩ := by
      simp only [CspSession.next, hpc, CspRunner.next, CspRunner.tryReceive, h.noNews]
      rfl
    exact nextCsp_ne_none hl rfl rfl (Bool.and_false _)
  · refine ⟨.payload .turn, needsServer_eq_false.mpr (.inl rfl), ?_⟩
    have hl : tasks.csp.next (.payload .turn) =
        some ⟨tasks.csp.protocol, [], .payload .select⟩ := by
      simp only [CspSession.next, hpc, CspRunner.next, CspRunner.turn, h.poll]
      rfl
    exact nextCsp_ne_none hl rfl rfl (Bool.and_false _)

theorem not_suspended (h : tasks.Spins) : ¬ tasks.CspSuspended := by
  intro hsuspended
  obtain ⟨l, hl, hnext⟩ := h.goesOn
  exact hnext (hsuspended.stuck hl)

/-- The connection does not return. -/
theorem result_eq_none (h : tasks'.Spins) (hlive : tasks.result = none)
    (hsame : tasks' = { tasks with csp := tasks'.csp }) : tasks'.result = none := by
  obtain ⟨-, hd2m, hdriver⟩ := ClientTasks.result_eq_none hlive
  refine Option.eq_none_iff_forall_ne_some.mpr ?_
  intro result hresult
  have hd2m' : tasks'.d2m = tasks.d2m := by rw [hsame]
  have hdriver' : tasks'.driver = tasks.driver := by rw [hsame]
  have hcsp : ∀ result, tasks'.csp.pc ≠ .returned result := by
    intro result hpc
    rcases h.pc with hpc' | hpc' <;> cases hpc.symm.trans hpc'
  rcases result_eq_some hresult with ⟨hpc, -⟩ | ⟨message, hpc, -⟩ | ⟨message, hpc, -⟩ |
    ⟨message, hpc, -⟩
  · exact hcsp _ hpc
  · exact hcsp _ hpc
  · exact hd2m message (hd2m' ▸ hpc)
  · exact hdriver message (hdriver' ▸ hpc)

end Spins

end ClientTasks

namespace Client

variable {parts : ClientParts P Q L} {ls : List ClientLabel} {client : Client P Q L}
  {tasks : ClientTasks P Q L}

theorem live_exec (hrun : (machine P Q L).exec (start parts) ls = some client) : client.Live := by
  refine (machine P Q L).exec_invariant (fun s l s' hs hl => live_next hs hl) ?_ hrun
  intro tasks' h
  cases h

theorem needsOutside_csp (hphase : client.phase = .running tasks) (l : CspSessionLabel) :
    client.needsOutside (.csp l) = tasks.needsServer l := by
  simp only [needsOutside, hphase]

theorem next_csp (hphase : client.phase = .running tasks) (l : CspSessionLabel) :
    client.next (.csp l) = (tasks.nextCsp l).map client.select := by
  simp only [next, hphase]

theorem suspended_of_stuck (hlive : client.Live) (hphase : client.phase = .running tasks)
    (hstuck : ∀ l : ClientLabel, client.needsOutside l = false → client.next l = none) :
    tasks.CspSuspended ∧ tasks.D2mSuspended ∧ tasks.DriverSuspended := by
  obtain ⟨hcsp, hd2m, hdriver⟩ := ClientTasks.result_eq_none (hlive tasks hphase)
  refine ⟨ClientTasks.cspSuspended hcsp ?_, ClientTasks.d2mSuspended hd2m ?_,
    ClientTasks.driverSuspended hdriver ?_⟩
  · intro l hl
    have hnone := hstuck (.csp l) ((needsOutside_csp hphase l).trans hl)
    rw [next_csp hphase, Option.map_eq_none_iff] at hnone
    exact hnone
  · intro l hl
    have hnone := hstuck (.d2m l) hl
    simp only [next, hphase, Option.map_eq_none_iff] at hnone
    exact hnone
  · intro l hl
    have hnone := hstuck (.driver l) hl
    simp only [next, hphase, Option.map_eq_none_iff] at hnone
    exact hnone

/-- A poll of the chat server connection that never ends.  However many steps of its own
the branch has made, it is not suspended, has changed nothing outside itself, and can make
another one. -/
def Starves (client : Client P Q L) (tasks : ClientTasks P Q L) : Prop :=
  ∀ (ls : List CspSessionLabel) (client' : Client P Q L),
    (machine P Q L).exec client (ls.map .csp) = some client' →
    (machine P Q L).Meets (fun s l => s.needsOutside l = false) client (ls.map .csp) →
      ∃ tasks', client' = { client with phase := .running tasks' } ∧
        tasks' = { tasks with csp := tasks'.csp } ∧ ¬ tasks'.CspSuspended ∧
        ∃ l, client'.needsOutside (.csp l) = false ∧ client'.next (.csp l) ≠ none

theorem starves_of_spins (hlive : client.Live) (hphase : client.phase = .running tasks)
    (hspins : tasks.Spins) : client.Starves tasks := by
  intro ls
  induction ls generalizing client tasks with
  | nil =>
      intro client' hrun hown
      cases hrun
      obtain ⟨l, hl, hnext⟩ := hspins.goesOn
      refine ⟨tasks, by rw [← hphase], rfl, hspins.not_suspended, l, ?_, ?_⟩
      · rw [needsOutside_csp hphase, hl]
      · rw [next_csp hphase]
        exact mt Option.map_eq_none_iff.mp hnext
  | cons l ls ih =>
      intro client' hrun hown
      obtain ⟨client₁, hl, hrest⟩ := (machine P Q L).exec_cons_eq_some.mp hrun
      obtain ⟨hl', hown'⟩ := hown client₁ hl
      have hnext : (tasks.nextCsp l).map client.select = some client₁ :=
        (next_csp hphase l).symm.trans hl
      obtain ⟨tasks₁, htasks, rfl⟩ := Option.map_eq_some_iff.mp hnext
      obtain ⟨hspins₁, hsame⟩ := hspins.next ((needsOutside_csp hphase l).symm.trans hl') htasks
      have hselect : client.select tasks₁ = { client with phase := .running tasks₁ } := by
        simp only [select, hspins₁.result_eq_none (hlive tasks hphase) hsame]
      obtain ⟨tasks', hclient', hsame', hrest'⟩ := ih (client.live_select tasks₁)
        (by rw [hselect]) hspins₁ client' hrest hown'
      refine ⟨tasks', ?_, ?_, hrest'⟩
      · rw [hclient', hselect]
      · rw [hsame', hsame]

/-- A running client that cannot make a step of its own is one whose branches are all
suspended.  It is in one of the two deadlocks, or waits for something from outside.  After
the end of the chat server's stream, with no frame and no payload left, the client makes
steps of its own for ever, and serves nothing else. -/
theorem progress (hrun : (machine P Q L).exec (start parts) ls = some client)
    (hphase : client.phase = .running tasks) :
    ((∀ l : ClientLabel, client.needsOutside l = false → client.next l = none) ↔
      tasks.CspSuspended ∧ tasks.D2mSuspended ∧ tasks.DriverSuspended) ∧
    ((∀ l : ClientLabel, client.needsOutside l = false → client.next l = none) →
      tasks.Deadlocked .csp ∨ tasks.Deadlocked .d2m ∨ tasks.WaitsOutside) ∧
    (P.Idles → tasks.csp.pc = .payload .select → tasks.streamEnded = true →
      tasks.cspOutgoing = [] → client.Starves tasks) := by
  have hlive := live_exec hrun
  have hsuspended := suspended_of_stuck hlive hphase
  refine ⟨⟨hsuspended, ?_⟩, fun hstuck => ?_, ?_⟩
  · rintro ⟨hcsp, hd2m, hdriver⟩ l hl
    cases l with
    | csp l =>
        rw [needsOutside_csp hphase] at hl
        rw [next_csp hphase, hcsp.stuck hl, Option.map_none]
    | d2m l => simp only [next, hphase, hd2m.stuck hl, Option.map_none]
    | driver l => simp only [next, hphase, hdriver.stuck hl, Option.map_none]
    | _ => cases hl
  · obtain ⟨hcsp, hd2m, hdriver⟩ := hsuspended hstuck
    exact ClientTasks.deadlocked_or_waits hcsp hd2m hdriver
  · intro hidle hpc hended hempty
    obtain ⟨tasks', htracks⟩ := tracks_exec hrun
    obtain rfl := htracks.running tasks hphase
    exact starves_of_spins hlive hphase (htracks.wired.spins hidle hpc hended hempty)

/-- The chat server closes the connection after the login. -/
def closes : List ClientLabel :=
  setsUp ++ .connectedD2m (.ok true) :: handshakes ++
    [.csp (.payload .turn), .csp (.payload (.readable .closed)), .csp (.payload .turn)]

theorem sampleLogin_idles : CspProtocol.sampleLogin.Idles := by
  intro s s' h
  obtain rfl := CspProtocol.sampleLogin_poll_none h
  obtain ⟨loggedIn, buffer⟩ := s'
  refine ⟨?_, h⟩
  simp only [CspProtocol.sampleLogin, List.append_nil]

set_option maxRecDepth 4000 in
/-- After the burst, and when the mediator has nothing to say, only the servers and the
embedder can do something.  When the chat server closes the connection, the client does
not get to the command to shut down. -/
theorem progress_bursts :
    (∃ client tasks,
      (machine _ _ _).exec (start (.sample fun _ => .error "invalid envelope"))
        (bursts ++ [.d2m (.payload .turn)]) = some client ∧ client.phase = .running tasks ∧
      ∀ l : ClientLabel, client.needsOutside l = false → client.next l = none) ∧
    ∃ client tasks,
      (machine _ _ _).exec (start (.sample fun _ => .error "invalid envelope")) closes =
        some client ∧ client.phase = .running tasks ∧ client.Starves tasks := by
  constructor
  · obtain ⟨client, tasks, hrun, hphase, hcsp, hd2m, hdriver⟩ : ∃ client tasks,
        (machine _ _ _).exec (start (.sample fun _ => .error "invalid envelope"))
          (bursts ++ [.d2m (.payload .turn)]) = some client ∧ client.phase = .running tasks ∧
        tasks.CspSuspended ∧ tasks.D2mSuspended ∧ tasks.DriverSuspended := by
      refine ⟨_, _, rfl, rfl, .forward rfl ?_, .select rfl rfl, .sendCsp rfl ?_ rfl⟩
      · decide
      · decide
    exact ⟨client, tasks, hrun, hphase, (progress hrun hphase).1.mpr ⟨hcsp, hd2m, hdriver⟩⟩
  · obtain ⟨client, tasks, hrun, hphase, hpc, hended, hempty⟩ : ∃ client tasks,
        (machine _ _ _).exec (start (.sample fun _ => .error "invalid envelope")) closes =
          some client ∧ client.phase = .running tasks ∧ tasks.csp.pc = .payload .select ∧
        tasks.streamEnded = true ∧ tasks.cspOutgoing = [] :=
      ⟨_, _, rfl, rfl, rfl, rfl, rfl⟩
    exact ⟨client, tasks, hrun, hphase,
      (progress hrun hphase).2.2 sampleLogin_idles hpc hended hempty⟩

end Client

end MultideviceClient
