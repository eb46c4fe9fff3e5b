import MultideviceClient.Pairing
import MultideviceClient.Wiring

/-!
# The client against the mediator

In `Mediated` the driver and the mediator share two queues.  In the client there is
more between them: the two channels of the driver, the mediator connection with its
protocol, and the network.  Here the whole client runs against the mediator.

*The transport.*  What the protocol has been asked to create gets to the mediator in
order, and what the protocol returns is what the mediator has sent, in order.  So
`toMediator` and `toDriver` are what the network and the protocol hold.

*Refinement.*  Every run of the client against the mediator is a run of the driver
against the mediator, with everything in between made one queue for each direction
(`served_refines`).  When the connection has ended, what it held is lost, and the
run goes on as one in which it is never received.

*Transactions.*  So the client holds the transaction lock only while a task of the
driver is in a transaction, and never misses a reply (`served_transactions`).
-/

namespace MultideviceClient

open Foundations

variable {P : CspProtocol} {Q : D2mProtocol} {L : Libthreema}

/-! ## The connection -/

namespace D2mSession

/-- The calls that a step makes of the protocol. -/
def stepCalls (self : D2mSession Q) (l : D2mSessionLabel) : List D2mCall :=
  (⟨(self.protocol, []), self.pc⟩ : D2mSession Q.recorded).newCalls l

/-- The calls of a step, before the flows have returned and after. -/
theorem stepCalls_of_next {self self' : D2mSession Q} {l : D2mSessionLabel}
    (h : self.next l = some self') :
    (self.pc.hasEnded = false → Moves Q self.pc l (self.stepCalls l) self'.pc) ∧
      (self.pc.hasEnded = true → self.stepCalls l = [] ∧ self'.pc.hasEnded = true ∧
        ∃ error, l = .shutdown error) := by
  have herase := next_erase (⟨(self.protocol, []), self.pc⟩ : D2mSession Q.recorded) l
  rw [show erase (⟨(self.protocol, []), self.pc⟩ : D2mSession Q.recorded) = self from rfl, h]
    at herase
  obtain ⟨recorded, hnext, rfl⟩ := Option.map_eq_some_iff.mp herase
  exact (newCalls_of_next hnext).2

end D2mSession

/-! ## The system -/

/-- The client and the mediator. -/
structure Served (P : CspProtocol) (Q : D2mProtocol) (L : Libthreema) extends Exchange where
  client : Client P Q L

namespace Exchange

/-- The transport in a step of the connection. -/
def carry (s : Exchange) (l : D2mSessionLabel) (calls : List D2mCall) : Option Exchange :=
  (Link.popAll s.toDriver ((l.payloadCalls calls).flatMap D2mCall.forwardable)).map fun toDriver =>
    { s with
      toMediator := s.toMediator ++ calls.flatMap D2mCall.created
      toDriver := toDriver }

/-- The part of the transport and of the task in a step of the client. -/
def partake (s : Exchange) : ClientPhase P Q L → ClientLabel → Option Exchange
  | .running tasks, .d2m l => s.carry l (tasks.d2m.stepCalls l)
  | .running tasks, .driver l => s.conduct tasks.driver.pc l
  | _, _ => some s

/-- The exchange with all that is between the driver and the mediator in its
queues. -/
def whole (s : Exchange) (tasks : ClientTasks P Q L) : Exchange :=
  { s with
    toMediator := s.toMediator ++ tasks.d2mOutgoing
    toDriver := tasks.d2mIncoming ++ (tasks.d2m.pc.dueForward ++ s.toDriver) }

end Exchange

namespace Served

/-- The step of a label. -/
def next (s : Served P Q L) : ClientLabel ⊕ MediatorLabel → Option (Served P Q L)
  | .inl l =>
      (s.client.next l).bind fun client =>
        (s.partake s.client.phase l).map fun exchange => { exchange with client := client }
  | .inr l => (s.toExchange.next l).map fun exchange => { exchange with client := s.client }

/-- The client against the mediator. -/
def machine (P : CspProtocol) (Q : D2mProtocol) (L : Libthreema) :
    Machine (Served P Q L) (ClientLabel ⊕ MediatorLabel) where
  next := next

/-- The start: nothing is under way, and nobody holds the lock. -/
def start (parts : ClientParts P Q L) : Served P Q L where
  client := .start parts
  phase := .idle
  reflectIds := []
  toMediator := []
  toDriver := []
  lock := .free

/-- The step of the driver or of the mediator in a label. -/
def mediated : ClientLabel ⊕ MediatorLabel → Option (DriverLabel ⊕ MediatorLabel)
  | .inl l => l.ofDriver.map .inl
  | .inr l => some (.inr l)

end Served

/-! ## The refinement -/

namespace Exchange

/-- The driver against the mediator is where the client is.  Once the connection has
ended, the queues end with what it has lost. -/
structure Refined (s : Exchange) (tasks : ClientTasks P Q L) (m : Mediated L) : Prop where
  driver : m.driver = tasks.driver
  phase : m.phase = s.phase
  reflectIds : m.reflectIds = s.reflectIds
  lock : m.lock = s.lock
  toMediator : ∃ queued, m.toMediator = s.toMediator ++ queued ∧
    (tasks.d2m.pc.hasEnded = false → queued = tasks.d2mOutgoing)
  toDriver : ∃ queued, m.toDriver = tasks.d2mIncoming ++ queued ∧
    (tasks.d2m.pc.hasEnded = false → queued = tasks.d2m.pc.dueForward ++ s.toDriver)

variable {s s' : Exchange} {tasks tasks' : ClientTasks P Q L} {m : Mediated L}

/-- While the connection is up, the refined exchange is the whole one. -/
theorem Refined.whole (h : s.Refined tasks m) (hopen : tasks.d2m.pc.hasEnded = false) :
    m.toExchange = s.whole tasks := by
  obtain ⟨-, hphase, hids, hlock, ⟨queuedOut, hout, hsent⟩, ⟨queuedIn, hin, hreceived⟩⟩ := h
  rw [hsent hopen] at hout
  rw [hreceived hopen] at hin
  obtain ⟨⟨phase, ids, toMediator, toDriver, lock⟩, driver⟩ := m
  simp only at hphase hids hlock hout hin
  rw [hphase, hids, hlock, hout, hin, Exchange.whole]

/-- A step of the chat server connection is not seen by the mediator. -/
theorem Refined.nextCsp (h : s.Refined tasks m) {l : CspSessionLabel}
    (hl : tasks.nextCsp l = some tasks') : s.Refined tasks' m := by
  obtain ⟨-, -, -, csp, chans, -, -, rfl⟩ := ClientTasks.nextCsp_eq_some hl
  exact ⟨h.driver, h.phase, h.reflectIds, h.lock, h.toMediator, h.toDriver⟩

/-- A step of the mediator connection moves payloads on. -/
theorem Refined.nextD2m (h : s.Refined tasks m) {l : D2mSessionLabel}
    (hl : tasks.nextD2m l = some tasks') (hs : s.carry l (tasks.d2m.stepCalls l) = some s') :
    s'.Refined tasks' m := by
  obtain ⟨-, d2m, ⟨incoming, outgoing⟩, hd2m, hchans, rfl⟩ := ClientTasks.nextD2m_eq_some hl
  obtain ⟨rfl, htaken⟩ := Link.transfer_flow hchans
  obtain ⟨toDriver, hpop, rfl⟩ := Option.map_eq_some_iff.mp hs
  rw [Link.popAll_eq_some] at hpop
  obtain ⟨hmoves, hended⟩ := D2mSession.stepCalls_of_next hd2m
  have hputs : l.port.puts = l.forwarded := by
    cases l with
    | payload l => cases l <;> rfl
    | _ => rfl
  have htakes : l.port.takes = l.taken := by
    cases l with
    | payload l => cases l <;> rfl
    | _ => rfl
  rw [htakes] at htaken
  obtain ⟨hdriver, hphase, hids, hlock, ⟨queuedOut, hout, hsent⟩, ⟨queuedIn, hin, hreceived⟩⟩ := h
  rw [hputs]
  cases hbefore : tasks.d2m.pc.hasEnded with
  | true =>
      -- only the close is left
      obtain ⟨hcalls, hafter, error, rfl⟩ := hended hbefore
      rw [hcalls] at hpop ⊢
      refine ⟨hdriver, hphase, hids, hlock, ⟨queuedOut, ?_, ?_⟩, ⟨queuedIn, ?_, ?_⟩⟩
      · rw [hout]
        exact congrArg (· ++ queuedOut) (List.append_nil _).symm
      · intro hopen
        rw [hafter] at hopen
        cases hopen
      · rw [hin]
        exact congrArg (· ++ queuedIn) (List.append_nil _).symm
      · intro hopen
        rw [hafter] at hopen
        cases hopen
  | false =>
      have hmoves := hmoves hbefore
      have hout := hsent hbefore ▸ hout
      have hin := hreceived hbefore ▸ hin
      cases hafter : d2m.pc.hasEnded with
      | false =>
          have hcreated := hmoves.created hafter
          have hforwards := hmoves.forwards hafter
          rw [List.append_nil, List.nil_append] at hcreated
          refine ⟨hdriver, hphase, hids, hlock, ⟨outgoing, ?_, fun _ => rfl⟩,
            ⟨d2m.pc.dueForward ++ toDriver, ?_, fun _ => rfl⟩⟩
          · rw [hout, hcreated, ← htaken, List.append_assoc]
          · rw [hin, hpop, ← List.append_assoc tasks.d2m.pc.dueForward, ← hforwards]
            simp only [List.append_assoc]
      | true =>
          obtain ⟨lostOut, -, hcreated⟩ := hmoves.created_end
          obtain ⟨lostIn, -, hforwards⟩ := hmoves.forwards_end hafter
          rw [List.nil_append] at hcreated
          refine ⟨hdriver, hphase, hids, hlock, ⟨lostOut ++ outgoing, ?_, ?_⟩,
            ⟨lostIn ++ toDriver, ?_, ?_⟩⟩
          · rw [hout, ← htaken, ← hcreated]
            simp only [List.append_assoc]
          · intro hopen
            rw [hafter] at hopen
            cases hopen
          · rw [hin, hpop, ← List.append_assoc tasks.d2m.pc.dueForward, ← hforwards]
            simp only [List.append_assoc]
          · intro hopen
            rw [hafter] at hopen
            cases hopen

/-- The task's part does not depend on the queues. -/
theorem conduct_congr {t s₁ : Exchange} {pc : DriverPc} {l : DriverLabel}
    (h : s.conduct pc l = some s₁) (hphase : t.phase = s.phase)
    (hids : t.reflectIds = s.reflectIds) :
    s₁ = { s with phase := s₁.phase, reflectIds := s₁.reflectIds } ∧
      t.conduct pc l = some { t with phase := s₁.phase, reflectIds := s₁.reflectIds } := by
  obtain ⟨phase, ids, toMediator, toDriver, lock⟩ := t
  cases hphase
  cases hids
  cases l with
  | polled result =>
      cases result with
      | error message =>
          cases h
          exact ⟨rfl, rfl⟩
      | ok loop =>
          obtain ⟨phase', hpoll, rfl⟩ := Option.map_eq_some_iff.mp h
          refine ⟨rfl, ?_⟩
          simp only [conduct, hpoll, Option.map_some]
  | responded error =>
      cases error with
      | some message =>
          cases h
          exact ⟨rfl, rfl⟩
      | none =>
          cases pc <;> cases h
          exact ⟨rfl, rfl⟩
  | _ =>
      cases h
      exact ⟨rfl, rfl⟩

/-- A step of the driver is a step of the driver against the mediator. -/
theorem Refined.nextDriver (h : s.Refined tasks m) {l : DriverLabel}
    (hl : tasks.nextDriver l = some tasks') (hs : s.conduct tasks.driver.pc l = some s') :
    ∃ m', (Mediated.machine L).next m (.inl l) = some m' ∧ s'.Refined tasks' m' := by
  obtain ⟨-, driver, csp, ⟨outgoing, incoming⟩, hdriver, -, hchans, rfl⟩ :=
    ClientTasks.nextDriver_eq_some hl
  obtain ⟨hmDriver, hphase, hids, hlock, ⟨queuedOut, hout, hsent⟩,
    ⟨queuedIn, hin, hreceived⟩⟩ := h
  obtain ⟨hs', hconduct⟩ := conduct_congr hs hphase hids
  obtain ⟨rfl, htaken⟩ := Link.transfer_flow hchans
  have hnext : m.driver.next l = some driver := by rw [hmDriver, hdriver]
  rw [← hmDriver] at hconduct
  rw [hs']
  cases l with
  | sentD2m payload =>
      refine ⟨_, Mediated.next_driver hnext hconduct rfl, rfl, rfl, rfl, hlock,
        ⟨queuedOut ++ [payload], ?_, ?_⟩, ⟨queuedIn, ?_, hreceived⟩⟩
      · show m.toMediator ++ [payload] = _
        rw [hout, List.append_assoc]
      · intro hopen
        rw [hsent hopen]
        rfl
      · rw [hin, ← htaken]
        rfl
  | recvD2m payload =>
      cases payload with
      | none =>
          refine ⟨_, Mediated.next_driver hnext hconduct rfl, rfl, rfl, rfl, hlock,
            ⟨queuedOut, hout, ?_⟩, ⟨queuedIn, ?_, hreceived⟩⟩
          · intro hopen
            rw [hsent hopen]
            exact (List.append_nil _).symm
          · rw [hin, ← htaken]
            rfl
      | some payload =>
          have hpop : Link.pop m.toDriver payload = some (incoming ++ queuedIn) := by
            rw [Link.pop_eq_some, hin, ← htaken]
            rfl
          refine ⟨_, Mediated.next_driver hnext hconduct (congrArg (Option.map _) hpop), rfl, rfl,
            rfl, hlock, ⟨queuedOut, hout, ?_⟩, ⟨queuedIn, rfl, hreceived⟩⟩
          intro hopen
          rw [hsent hopen]
          exact (List.append_nil _).symm
  | _ =>
      refine ⟨_, Mediated.next_driver hnext hconduct rfl, rfl, rfl, rfl, hlock,
        ⟨queuedOut, hout, ?_⟩, ⟨queuedIn, ?_, hreceived⟩⟩
      · intro hopen
        rw [hsent hopen]
        exact (List.append_nil _).symm
      · rw [hin, ← htaken]
        rfl

/-- A step of the mediator works on what has got to it, and adds to what has not got
to the driver. -/
theorem Refined.mediator (h : s.Refined tasks m) {l : MediatorLabel} (hl : s.next l = some s') :
    ∃ m', (Mediated.machine L).next m (.inr l) = some m' ∧ s'.Refined tasks m' := by
  obtain ⟨hdriver, hphase, hids, hlock, ⟨queuedOut, hout, hsent⟩, ⟨queuedIn, hin, hreceived⟩⟩ := h
  have hqueued : ∀ added : List D2mIncomingPayload, ∃ queued,
      m.toDriver ++ added = tasks.d2mIncoming ++ queued ∧ (tasks.d2m.pc.hasEnded = false →
        queued = tasks.d2m.pc.dueForward ++ (s.toDriver ++ added)) := by
    intro added
    refine ⟨queuedIn ++ added, ?_, ?_⟩
    · rw [hin, List.append_assoc]
    · intro hopen
      rw [hreceived hopen, List.append_assoc]
  cases l with
  | handle deviceId encryptedScope =>
      simp only [Exchange.next] at hl
      split at hl
      next => cases hl
      next payload toMediator hqueue =>
          cases hl
          have hhead : m.toMediator = payload :: (toMediator ++ queuedOut) := by
            rw [hout, hqueue, List.cons_append]
          refine ⟨_, congrArg (Option.map _) (?_ : m.toExchange.next _ = some { m.toExchange with
            toMediator := toMediator ++ queuedOut
            toDriver := m.toDriver ++ (s.lock.handle deviceId encryptedScope payload).2
            lock := (s.lock.handle deviceId encryptedScope payload).1 }), ?_⟩
          · simp only [Exchange.next, hhead, hlock]
          · exact ⟨hdriver, hphase, hids, rfl, ⟨queuedOut, rfl, hsent⟩, hqueued _⟩
  | otherBegins =>
      simp only [Exchange.next] at hl
      split at hl
      next hfree =>
          cases hl
          refine ⟨_, congrArg (Option.map _) (?_ : m.toExchange.next _ =
            some { m.toExchange with lock := .other }), ?_⟩
          · simp only [Exchange.next, hlock, hfree, if_true]
          · exact ⟨hdriver, hphase, hids, rfl, ⟨queuedOut, hout, hsent⟩, ⟨queuedIn, hin, hreceived⟩⟩
      next => cases hl
  | otherEnds deviceId encryptedScope =>
      simp only [Exchange.next] at hl
      split at hl
      next hother =>
          cases hl
          refine ⟨_, congrArg (Option.map _) (?_ : m.toExchange.next _ = some { m.toExchange with
            toDriver := m.toDriver ++ [.transactionEnded deviceId encryptedScope]
            lock := .free }), ?_⟩
          · simp only [Exchange.next, hlock, hother, if_true]
          · exact ⟨hdriver, hphase, hids, rfl, ⟨queuedOut, hout, hsent⟩, hqueued _⟩
      next => cases hl
  | sends payload =>
      simp only [Exchange.next] at hl
      split at hl
      next hunsolicited =>
          cases hl
          refine ⟨_, congrArg (Option.map _) (?_ : m.toExchange.next _ =
            some { m.toExchange with toDriver := m.toDriver ++ [payload] }), ?_⟩
          · simp only [Exchange.next, hunsolicited, if_true]
          · exact ⟨hdriver, hphase, hids, hlock, ⟨queuedOut, hout, hsent⟩, hqueued _⟩
      next => cases hl

end Exchange

namespace Served

/-- The client's branches, as they are or as they were dropped, refine the driver
against the mediator. -/
structure Refines (parts : ClientParts P Q L) (s : Served P Q L) (m : Mediated L)
    (tasks : ClientTasks P Q L) : Prop where
  parts_eq : s.client.parts = parts
  live : s.client.Live
  refined : s.Refined tasks m
  before : s.client.phase.isBefore = true → tasks = .start parts
  running : ∀ tasks', s.client.phase = .running tasks' → tasks' = tasks

variable {parts : ClientParts P Q L} {s s' : Served P Q L} {m : Mediated L}
  {tasks tasks' : ClientTasks P Q L}

theorem Refines.start (parts : ClientParts P Q L) :
    Refines parts (.start parts)
      (.start (.new parts.deviceGroupKey parts.contactStore parts.contacts)) (.start parts) where
  parts_eq := rfl
  live := by
    intro tasks hphase
    cases hphase
  refined := ⟨rfl, rfl, rfl, rfl, ⟨[], rfl, fun _ => rfl⟩, ⟨[], rfl, fun _ => rfl⟩⟩
  before _ := rfl
  running tasks' hphase := by cases hphase

/-- A step of a branch. -/
theorem Refines.select {exchange : Exchange} (h : Refines parts s m tasks) {m' : Mediated L}
    (hrefined : exchange.Refined tasks' m') {client : Client P Q L}
    (hparts : client.parts = s.client.parts) :
    Refines parts { exchange with client := client.select tasks' } m' tasks' where
  parts_eq := (Client.parts_select client tasks').trans (hparts.trans h.parts_eq)
  live := client.live_select tasks'
  refined := hrefined
  before hbefore := by
    rw [show ({ exchange with client := client.select tasks' } : Served P Q L).client =
      client.select tasks' from rfl, Client.Tracks.isBefore_select] at hbefore
    cases hbefore
  running tasks'' hrunning := Client.Tracks.running_select hrunning

/-- A step of the client is a step of the driver against the mediator, or none. -/
theorem Refines.next (h : Refines parts s m tasks) {l : ClientLabel ⊕ MediatorLabel}
    (hl : s.next l = some s') :
    ∃ m' tasks', (Mediated.machine L).exec m (mediated l).toList = some m' ∧
      Refines parts s' m' tasks' := by
  cases l with
  | inr l =>
      obtain ⟨exchange, hexchange, rfl⟩ := Option.map_eq_some_iff.mp hl
      obtain ⟨m', hm', hrefined⟩ := h.refined.mediator hexchange
      refine ⟨m', tasks, ?_, h.parts_eq, h.live, hrefined, h.before, h.running⟩
      exact (Mediated.machine L).exec_cons_eq_some.mpr ⟨m', hm', rfl⟩
  | inl l =>
      obtain ⟨client, hclient, hl⟩ := Option.bind_eq_some_iff.mp hl
      obtain ⟨exchange, hexchange, rfl⟩ := Option.map_eq_some_iff.mp hl
      cases Client.step_of_next hclient with
      | @csp running running' l hphase hnext =>
          obtain rfl := h.running running hphase
          rw [hphase] at hexchange
          cases hexchange
          exact ⟨m, running', rfl, h.select (h.refined.nextCsp hnext) rfl⟩
      | @d2m running running' l hphase hnext =>
          obtain rfl := h.running running hphase
          rw [hphase] at hexchange
          exact ⟨m, running', rfl, h.select (h.refined.nextD2m hnext hexchange) rfl⟩
      | @driver running running' l sent hphase hnext hsent =>
          obtain rfl := h.running running hphase
          rw [hphase] at hexchange
          obtain ⟨m', hm', hrefined⟩ := h.refined.nextDriver hnext hexchange
          refine ⟨m', running', ?_, h.select hrefined (Client.parts_send _ _)⟩
          exact (Mediated.machine L).exec_cons_eq_some.mpr ⟨m', hm', rfl⟩
      | sendText recipient text hphase =>
          rw [hphase] at hexchange
          cases hexchange
          exact ⟨m, tasks, rfl, h.parts_eq, h.live, h.refined, h.before, h.running⟩
      | receiverDropped hphase =>
          rw [hphase] at hexchange
          cases hexchange
          exact ⟨m, tasks, rfl, h.parts_eq, h.live, h.refined, h.before, h.running⟩
      | @shutdown running command hphase =>
          rw [hphase] at hexchange
          cases hexchange
          refine ⟨m, tasks, rfl, h.parts_eq, ?_, h.refined, ?_, ?_⟩
          · intro tasks' hrunning
            cases hrunning
          · intro hbefore
            cases hbefore
          · intro tasks' hrunning
            cases hrunning
      | connectedD2m receiver hphase =>
          rw [hphase] at hexchange
          cases hexchange
          have htasks : tasks = .start parts := h.before (by rw [hphase]; rfl)
          refine ⟨m, tasks, rfl, (Client.parts_send _ _).trans h.parts_eq, ?_, h.refined, ?_, ?_⟩
          · intro tasks' hrunning
            cases hrunning
            rfl
          · intro hbefore
            cases hbefore
          · intro tasks' hrunning
            cases hrunning
            rw [h.parts_eq, htasks]
      -- the set-up and the connections
      | _ =>
          have hphase := ‹s.client.phase = _›
          rw [hphase] at hexchange
          cases hexchange
          refine ⟨m, tasks, rfl, h.parts_eq, ?_, h.refined, ?_, ?_⟩
          · intro tasks' hrunning
            cases hrunning
          · intro _
            exact h.before (by rw [hphase]; rfl)
          · intro tasks' hrunning
            cases hrunning

/-- Every run of the client against the mediator is a run of the driver against the
mediator. -/
theorem refines_exec {ls : List (ClientLabel ⊕ MediatorLabel)}
    (hrun : (machine P Q L).exec (start parts) ls = some s) :
    ∃ m, (Mediated.machine L).exec
        (.start (.new parts.deviceGroupKey parts.contactStore parts.contacts))
        (ls.filterMap mediated) = some m ∧ ∃ tasks, Refines parts s m tasks := by
  refine (machine P Q L).exec_simulates (p := mediated)
    (R := fun s m => ∃ tasks, Refines parts s m tasks) ?_ ⟨_, .start parts⟩ hrun
  rintro s m l s' ⟨tasks, h⟩ hl
  obtain ⟨m', tasks', hm', h'⟩ := h.next hl
  exact ⟨m', hm', tasks', h'⟩

/-- Every run of the client against the mediator is a run of the driver against the
mediator, with all that is between them in two queues. -/
theorem served_refines {ls : List (ClientLabel ⊕ MediatorLabel)}
    (hrun : (machine P Q L).exec (start parts) ls = some s) :
    ∃ m, (Mediated.machine L).exec
        (.start (.new parts.deviceGroupKey parts.contactStore parts.contacts))
        (ls.filterMap mediated) = some m ∧ m.lock = s.lock ∧ m.phase = s.phase ∧
      ∀ tasks, s.client.phase = .running tasks → m.driver = tasks.driver ∧
        (tasks.d2m.pc.hasEnded = false → m.toExchange = s.whole tasks) := by
  obtain ⟨m, hm, tasks, h⟩ := refines_exec hrun
  refine ⟨m, hm, h.refined.lock, h.refined.phase, ?_⟩
  intro tasks' hphase
  obtain rfl := h.running tasks' hphase
  exact ⟨h.refined.driver, h.refined.whole⟩

end Served

/-! ### A transaction -/

/-- After the login, a datagram that starts with a one or a two is a reply about a
transaction, and the others acknowledge reflected messages. -/
def D2mProtocol.sampleReplies : D2mProtocol where
  State := Bool × List Bytes
  poll s :=
    match D2mProtocol.sampleLogin.poll s with
    | .ok (some ⟨none, some (.reflected 1 _), datagram⟩, s') =>
        .ok (some ⟨none, some .beginTransactionAck, datagram⟩, s')
    | .ok (some ⟨none, some (.reflected 2 _), datagram⟩, s') =>
        .ok (some ⟨none, some .commitTransactionAck, datagram⟩, s')
    | .ok (some ⟨none, some (.reflected reflectId _), datagram⟩, s') =>
        .ok (some ⟨none, some (.reflectAck reflectId), datagram⟩, s')
    | result => result
  addDatagrams s added := D2mProtocol.sampleLogin.addDatagrams s added
  createPayload s payload := D2mProtocol.sampleLogin.createPayload s payload

namespace Served

/-- The set-up of a client without contacts. -/
def transactions : ClientParts .sampleLogin .sampleReplies
    (.sample fun _ => .error "invalid envelope") where
  stateDir := "."
  deviceGroupKey := ()
  contactStore := .sample _
  contacts := ∅
  cspProtocol := (false, [])
  clientHello := [42]
  d2mProtocol := (false, [])

/-- A message arrives, and its task asks for a transaction. -/
def asks : List ClientLabel :=
  Client.setsUp ++ .connectedD2m (.ok true) :: Client.handshakes ++
    [.d2m (.payload .turn), .csp (.payload .turn), .csp (.payload (.readable (.bytes [1, 5]))),
      .csp (.payload .turn), .csp (.payload (.sentIncoming (.message ⟨[5]⟩))),
      .driver (.recvCsp (some (.message ⟨[5]⟩))),
      .driver (.polled (.ok (.contacts .createContact
        (.beginTransaction (.beginTransaction [] 0))))),
      .driver (.sentD2m (.beginTransaction [] none)),
      .d2m (.payload (.recvOutgoing (.beginTransaction [] none)))]

/-- The mediator grants it, and the task reflects a message and commits.  The commit
has not left the channel when the mediator acknowledges the message. -/
def commits : List (ClientLabel ⊕ MediatorLabel) :=
  asks.map .inl ++
    [.inl (.d2m (.payload (.written none))), .inr (.handle 0 []), .inl (.d2m (.payload .turn)),
      .inl (.d2m (.payload (.received (.binary [1])))), .inl (.d2m (.payload .turn)),
      .inl (.d2m (.payload (.sentIncoming .beginTransactionAck))),
      .inl (.driver (.recvD2m (some .beginTransactionAck))), .inl (.driver (.responded none)),
      .inl (.driver (.polled (.ok (.contacts .createContact
        (.reflectAndCommitTransaction [⟨false, 7, []⟩]))))),
      .inl (.driver (.sentD2m (.reflect false 7 []))), .inl (.driver (.sentD2m .commitTransaction)),
      .inl (.d2m (.payload .turn)), .inl (.d2m (.payload (.recvOutgoing (.reflect false 7 [])))),
      .inl (.d2m (.payload (.written none))), .inr (.handle 0 [])]

theorem served_refines_commits : ∃ m, (Mediated.machine _).exec
      (.start (.new transactions.deviceGroupKey transactions.contactStore transactions.contacts))
      (commits.filterMap mediated) = some m ∧ m.lock = .driver ∧
    m.toMediator = [.commitTransaction] ∧ m.toDriver = [.reflectAck 7] := by
  obtain ⟨s, hrun, tasks, hphase, hopen, hlock, hwhole⟩ : ∃ s,
      (machine _ _ _).exec (start transactions) commits = some s ∧ ∃ tasks,
        s.client.phase = .running tasks ∧ tasks.d2m.pc.hasEnded = false ∧ s.lock = .driver ∧
        (s.whole tasks).toMediator = [.commitTransaction] ∧
        (s.whole tasks).toDriver = [.reflectAck 7] :=
    ⟨_, rfl, _, rfl, rfl, rfl, rfl, rfl⟩
  obtain ⟨m, hm, hmLock, -, hrunning⟩ := served_refines hrun
  refine ⟨m, hm, hmLock.trans hlock, ?_⟩
  rw [(hrunning tasks hphase).2 hopen]
  exact hwhole

end Served

/-! ## Transactions -/

namespace DriverPc

/-- Without a task, the driver goes on in its `select!`. -/
theorem continuation_of_idle {pc : DriverPc} (h : pc.idle = true)
    (hlive : ∀ error, pc ≠ .returned error) : pc.continuation = .top := by
  cases pc with
  | top => rfl
  | updateD2mState resume =>
      cases resume with
      | none => rfl
      | some wait => cases h
  | sendUnblock resume =>
      cases resume with
      | none => rfl
      | some wait => cases h
  | sendReflectedAck reflectId resume =>
      cases resume with
      | none => rfl
      | some wait => cases h
  | returned error => exact absurd rfl (hlive error)
  | _ => cases h

theorem continuation_live {pc : DriverPc} (hlive : ∀ error, pc ≠ .returned error) (error : String) :
    pc.continuation ≠ .returned error := by
  cases pc with
  | updateD2mState resume => cases resume <;> exact DriverPc.noConfusion
  | sendUnblock resume => cases resume <;> exact DriverPc.noConfusion
  | sendReflectedAck reflectId resume => cases resume <;> exact DriverPc.noConfusion
  | _ => exact hlive error

end DriverPc

namespace Exchange

/-- While only reflected messages are under way, no request is about a transaction. -/
theorem lock_of_reflects {s : Exchange} (ids : List UInt32)
    (htransit : s.inTransit = ids.map .reflect) :
    (.beginTransaction ∈ s.toMediator.filterMap D2mOutgoingPayload.request → s.lock ≠ .driver) ∧
      (.commitTransaction ∈ s.toMediator.filterMap D2mOutgoingPayload.request →
        s.lock = .driver) := by
  have hreflect : ∀ request ∈ s.toMediator.filterMap D2mOutgoingPayload.request,
      ∃ reflectId, Request.reflect reflectId = request := by
    intro request hmem
    have htransited : request ∈ s.inTransit := List.mem_append_right _ hmem
    rw [htransit, List.mem_map] at htransited
    obtain ⟨reflectId, -, heq⟩ := htransited
    exact ⟨reflectId, heq⟩
  constructor
  · intro hmem
    obtain ⟨reflectId, heq⟩ := hreflect _ hmem
    cases heq
  · intro hmem
    obtain ⟨reflectId, heq⟩ := hreflect _ hmem
    cases heq

/-- The commit and what is reflected before it find the lock with this device. -/
theorem CommitReply.lock_of_request {s : Exchange} {left : List UInt32} (h : s.CommitReply left) :
    (.beginTransaction ∈ s.toMediator.filterMap D2mOutgoingPayload.request → s.lock ≠ .driver) ∧
      (.commitTransaction ∈ s.toMediator.filterMap D2mOutgoingPayload.request →
        s.lock = .driver) := by
  constructor
  · intro hmem
    have htransited : .beginTransaction ∈ s.inTransit := List.mem_append_right _ hmem
    rw [h.1] at htransited
    simp at htransited
  · intro hmem
    exact h.2.mpr (List.ne_nil_of_mem hmem)

/-- A request to begin a transaction finds the lock elsewhere, and one to commit it
finds the lock with this device. -/
theorem Agrees.lock_of_request {s : Exchange} {pc : DriverPc} (h : s.Agrees pc)
    (hlive : ∀ error, pc ≠ .returned error) :
    (.beginTransaction ∈ s.toMediator.filterMap D2mOutgoingPayload.request → s.lock ≠ .driver) ∧
      (.commitTransaction ∈ s.toMediator.filterMap D2mOutgoingPayload.request →
        s.lock = .driver) := by
  cases pc with
  | top => exact lock_of_reflects [] h.1
  | fetchSender => exact lock_of_reflects [] h.1
  | respond response => exact lock_of_reflects [] h.1
  | sendMessageAck messageAck => exact lock_of_reflects [] h.1
  | sendBeginTransaction task encryptedScope ttl => exact lock_of_reflects [] h.1
  | nextD2mIncoming wait =>
      cases wait with
      | transactionEnded => exact lock_of_reflects [] h.2.1
      | beginReply task =>
          cases h with
          | requested hDriver hMediator hlock =>
              rw [hMediator]
              refine ⟨fun _ => hlock, ?_⟩
              intro hmem
              cases List.mem_singleton.mp hmem
          | granted before after hqueue hbefore hafter hMediator hlock =>
              rw [hMediator]
              constructor <;> exact fun hmem => absurd hmem List.not_mem_nil
          | rejected before after deviceId encryptedScope hqueue hbefore hafter hMediator hend =>
              rw [hMediator]
              constructor <;> exact fun hmem => absurd hmem List.not_mem_nil
      | abortAck task => exact CommitReply.lock_of_request h
      | commitAck task acknowledged =>
          obtain ⟨left, -, hcommit⟩ := h
          exact hcommit.lock_of_request
      | reflectAcks pending acknowledged =>
          obtain ⟨-, -, left, -, -, -, htransit⟩ := h
          exact lock_of_reflects left htransit
  | sendReflect payload rest goal =>
      obtain ⟨sent, -, htransit, -⟩ := h
      exact lock_of_reflects sent htransit
  | sendCommitTransaction wait =>
      cases wait with
      | abortAck task => exact lock_of_reflects [] h.1
      | commitAck task acknowledged => exact lock_of_reflects s.reflectIds h.2.1
      | _ => cases h
  | returned error => exact absurd rfl (hlive error)
  | _ => cases h

end Exchange

namespace Served

/-- The client's dealings with the mediator are in order. -/
structure Transacts (s : Served P Q L) (tasks : ClientTasks P Q L) : Prop where
  /-- Without a task, this device does not hold the lock. -/
  idle : tasks.driver.pendingTask = none → s.lock ≠ .driver
  /-- While the mediator has a request to begin a transaction, this device does not
  hold the lock. -/
  begins : .beginTransaction ∈ s.toMediator.filterMap D2mOutgoingPayload.request →
    s.lock ≠ .driver
  /-- While the mediator has a request to commit one, this device holds the lock. -/
  commits : .commitTransaction ∈ s.toMediator.filterMap D2mOutgoingPayload.request →
    s.lock = .driver
  /-- While the connection is up, what the driver is blocked on is under way. -/
  awaited : tasks.d2m.pc.hasEnded = false → ∀ wait,
    tasks.driver.pc = .nextD2mIncoming wait → (s.whole tasks).Awaited wait
  /-- A reply at the head of the driver's channel is accepted by its wait. -/
  accepted : ∀ resume payload rest request, tasks.driver.Awaits resume →
    tasks.d2mIncoming = payload :: rest → payload.answers = some request →
      ∃ wait pc, resume = some wait ∧ wait.accept payload = some pc
  /-- A response to the task fits the instruction. -/
  answered : ∀ response, tasks.driver.pc = .respond response → s.Answered response

/-- The invariant of the driver against the mediator, read as one of the client. -/
theorem Refines.transacts (h : Refines parts s m tasks) (hinv : m.Invariant)
    (hphase : s.client.phase = .running tasks) : Transacts s tasks := by
  have hpaired := hinv.paired
  have hdriver := h.refined.driver
  have hlive : ∀ error, m.driver.pc ≠ .returned error := by
    rw [hdriver]
    exact (ClientTasks.result_eq_none (h.live tasks hphase)).2.2
  obtain ⟨hbegins, hcommits⟩ := hinv.agrees.lock_of_request (DriverPc.continuation_live hlive)
  obtain ⟨queuedOut, hout, -⟩ := h.refined.toMediator
  have hmem : ∀ request ∈ s.toMediator.filterMap D2mOutgoingPayload.request,
      request ∈ m.toMediator.filterMap D2mOutgoingPayload.request := by
    intro request hmem
    rw [hout, List.filterMap_append]
    exact List.mem_append_left _ hmem
  rw [h.refined.lock] at hbegins hcommits
  refine ⟨?_, fun hbegin => hbegins (hmem _ hbegin), fun hcommit => hcommits (hmem _ hcommit),
    ?_, ?_, ?_⟩
  · intro htask
    obtain ⟨hidle, hpc⟩ := hinv.idle (by rw [hdriver, htask])
    have hagrees := hinv.agrees
    rw [DriverPc.continuation_of_idle hpc hlive] at hagrees
    have hholder := hagrees.2
    rw [hidle] at hholder
    rw [← h.refined.lock]
    exact hholder
  · intro hopen wait hpc
    rw [← h.refined.whole hopen]
    exact hpaired.awaited wait (by rw [hdriver, hpc])
  · intro resume payload rest request hawaits hqueue hanswers
    obtain ⟨queuedIn, hin, -⟩ := h.refined.toDriver
    rw [hqueue, List.cons_append] at hin
    rw [← hdriver] at hawaits
    exact hpaired.accepted resume payload _ request hawaits hin hanswers
  · intro response hpc
    have hanswered := hpaired.answered response (by rw [hdriver, hpc])
    unfold Exchange.Answered at hanswered ⊢
    rw [h.refined.reflectIds, h.refined.lock] at hanswered
    exact hanswered

/-- In every state of every run against the mediator, the client's dealings with it are
in order, whatever is in the channels, in the connection or on the network. -/
theorem served_transactions {ls : List (ClientLabel ⊕ MediatorLabel)}
    (hrun : (machine P Q L).exec (start parts) ls = some s)
    (hphase : s.client.phase = .running tasks) : Transacts s tasks := by
  obtain ⟨m, hm, tasks', h⟩ := refines_exec hrun
  obtain rfl := h.running tasks hphase
  have hinv : m.Invariant :=
    (Mediated.machine L).exec_invariant (I := Mediated.Invariant) (fun _ _ _ h hl => h.step hl)
      (Mediated.Invariant.start ..) hm
  exact h.transacts hinv hphase

/-- The task waits for the reply to a request that has not left the connection. -/
theorem served_transactions_asks : ∃ s tasks,
    (machine _ _ _).exec (start transactions) (asks.map .inl) = some s ∧
    s.client.phase = .running tasks ∧ s.lock ≠ .driver ∧
    (s.whole tasks).inTransit = [.beginTransaction] := by
  obtain ⟨s, tasks, hrun, hphase, hopen, hpc, hmem⟩ : ∃ s tasks,
      (machine _ _ _).exec (start transactions) (asks.map .inl) = some s ∧
        s.client.phase = .running tasks ∧ tasks.d2m.pc.hasEnded = false ∧
        tasks.driver.pc = .nextD2mIncoming (.beginReply .createContact) ∧
        .beginTransaction ∈ s.toMediator.filterMap D2mOutgoingPayload.request :=
    ⟨_, _, rfl, rfl, rfl, rfl, List.mem_singleton_self _⟩
  have htransacts := served_transactions hrun hphase
  exact ⟨s, tasks, hrun, hphase, htransacts.begins hmem, htransacts.awaited hopen _ hpc⟩

end Served

end MultideviceClient
