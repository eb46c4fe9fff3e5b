import MultideviceClient.E2e

/-!
# Unsolicited payloads of the mediator

The driver receives from the mediator connection in its `select!` and in five
waits.  Each of them hands what it does not wait for to `handle_unsolicited_d2m`,
which acknowledges reflected payloads and unblocks the incoming messages after a
promotion to leader.

*Effects.*  `demanded` lists what the consumption of a payload calls for, and
`observed` what a step does of it.  `due` is the part that the driver has still
to do, which it keeps in its `DriverPc`.  The three balance at every step
(`observed_due`), so over a run everything that was called for is done in order,
up to what is still due.

*Transparency.*  The handling of these payloads leaves no trace in what the
driver waits for: without it the run goes the same way (`exec_withoutUnsolicited`).
-/

namespace MultideviceClient

open Foundations

variable {L : Libthreema}

/-- The driver on its own. -/
def driverMachine (L : Libthreema) : Machine (Driver L) DriverLabel where
  next := Driver.next

/-! ## Effects -/

/-- What the handling of payloads and tasks does to the outside. -/
inductive Effect where
  /-- An event is sent. -/
  | event (event : Event)
  /-- The role is set to leader. -/
  | leader
  /-- `UnblockIncomingMessages` is sent to the chat server. -/
  | unblockIncomingMessages
  /-- A `ReflectedAck` is sent to the mediator. -/
  | reflectedAck (reflectId : UInt32)
deriving DecidableEq, Repr

/-- The effect of a label itself. -/
def DriverLabel.effect : DriverLabel → Option Effect
  | .updated none => some .leader
  | .sentCsp .unblockIncomingMessages => some .unblockIncomingMessages
  | .sentD2m (.reflectedAck reflectId) => some (.reflectedAck reflectId)
  | _ => none

/-- No send fails, and neither does `update_d2m_state`. -/
def DriverLabel.Succeeds : DriverLabel → Prop
  | .sendFailed => False
  | .updated (some _) => False
  | _ => True

namespace Driver

/-- The effects of a step, the new events first. -/
def observed (self : Driver L) (l : DriverLabel) : List Effect :=
  ((self.next l).elim [] fun self' => (self'.events.drop self.events.length).map .event) ++
    l.effect.toList

/-- The effects that the step calls for. -/
def demanded (self : Driver L) : DriverLabel → List Effect
  | .recvD2m (some (.reflected reflectId envelope)) =>
      (self.reflectedEvent envelope).toList.map .event ++ [.reflectedAck reflectId]
  | .recvD2m (some .rolePromotedToLeader) => [.leader, .unblockIncomingMessages]
  | .provided _ emitted => emitted.map .event
  | _ => []

end Driver

/-- The effects that were called for and are still to come. -/
def DriverPc.due : DriverPc → List Effect
  | .updateD2mState _ => [.leader, .unblockIncomingMessages]
  | .sendUnblock _ => [.unblockIncomingMessages]
  | .sendReflectedAck reflectId _ => [.reflectedAck reflectId]
  | _ => []

namespace Driver

@[simp] theorem due_top : DriverPc.top.due = [] := rfl

@[simp] theorem due_returned (error : String) : (DriverPc.returned error).due = [] := rfl

@[simp] theorem due_resume (resume : Option Wait) : (DriverPc.resume resume).due = [] := by
  cases resume <;> rfl

@[simp] theorem due_awaitReflectAcks (pending : Nat) (ids : List UInt32) :
    (awaitReflectAcks pending ids).due = [] := by
  simp only [awaitReflectAcks]
  split <;> rfl

@[simp] theorem due_sendReflects (messages : List ReflectPayload) (goal : ReflectGoal) :
    (sendReflects messages goal).due = [] := by
  cases messages with
  | cons payload rest => rfl
  | nil =>
      cases goal with
      | commit task => rfl
      | acks pending => exact due_awaitReflectAcks pending []

theorem due_accept {wait : Wait} {payload : D2mIncomingPayload} {pc : DriverPc}
    (h : wait.accept payload = some pc) : pc.due = [] := by
  cases wait <;> cases payload <;> cases h <;> first | rfl | exact due_awaitReflectAcks ..

theorem due_runInstruction (self : Driver L) (loop : IncomingMessageLoop) :
    (self.runInstruction loop).pc.due = [] := by
  cases loop with
  | fetchSender => rfl
  | contacts task instruction =>
      cases instruction with
      | beginTransaction instruction => cases instruction <;> rfl
      | reflectAndCommitTransaction messages => exact due_sendReflects ..
  | reflectMessage messages => exact due_sendReflects ..
  | done messageAck => cases messageAck <;> rfl

theorem due_inTask {pc : DriverPc} (h : pc.inTask = true) : pc.due = [] := by
  cases pc <;> first | rfl | cases h

/-- An unsolicited payload makes due what it calls for, its event apart. -/
theorem due_handleUnsolicitedD2m (self : Driver L) (resume : Option Wait)
    (payload : D2mIncomingPayload) :
    ((self.handleUnsolicitedD2m resume payload).events.drop self.events.length).map .event ++
        (self.handleUnsolicitedD2m resume payload).pc.due =
      self.demanded (.recvD2m (some payload)) := by
  cases payload with
  | reflected reflectId envelope =>
      simp only [handleUnsolicitedD2m, List.drop_left, demanded, DriverPc.due]
  | rolePromotedToLeader => simp [handleUnsolicitedD2m, demanded, DriverPc.due]
  | _ => simp [handleUnsolicitedD2m, demanded]

/-- A payload that a wait accepts calls for nothing. -/
theorem demanded_accept (self : Driver L) {wait : Wait} {payload : D2mIncomingPayload}
    {pc : DriverPc} (h : wait.accept payload = some pc) :
    self.demanded (.recvD2m (some payload)) = [] := by
  cases wait <;> cases payload <;> cases h <;> rfl

/-- What a step does and what is then due is what was due and what the step
calls for. -/
theorem observed_due {self self' : Driver L} {l : DriverLabel} (hok : l.Succeeds)
    (hl : self.next l = some self') :
    self.observed l ++ self'.pc.due = self.pc.due ++ self.demanded l := by
  simp only [observed, hl, Option.elim_some]
  cases step_of_next hl with
  | message message h => simp [DriverLabel.effect, demanded]
  | messageAck messageAck h => simp [DriverLabel.effect, demanded]
  | cspClosed h => simp [h.1, DriverLabel.effect, demanded]
  | accepted h haccept =>
      rw [due_accept haccept, demanded_accept self haccept, h]
      simp [DriverLabel.effect, DriverPc.due]
  | @unsolicited resume payload h hreject =>
      rw [h.1, due_resume, List.nil_append, ← due_handleUnsolicitedD2m self resume payload]
      simp [DriverLabel.effect]
  | d2mClosed h => simp [h.1, DriverLabel.effect, demanded]
  | polled loop h htask => simp [h, due_runInstruction, DriverLabel.effect, demanded]
  | pollFailed error h htask => simp [h, DriverLabel.effect, demanded]
  | fetched h => simp [h, DriverLabel.effect, demanded, DriverPc.due]
  | responded h => simp [h, DriverLabel.effect, demanded, DriverPc.due]
  | responseFailed error h => simp [h, DriverLabel.effect, demanded, DriverPc.due]
  | updated h => simp [h, DriverLabel.effect, demanded, DriverPc.due]
  | updateFailed error h => exact hok.elim
  | sentUnblock h =>
      rw [due_resume, h]
      simp [DriverLabel.effect, demanded, DriverPc.due]
  | sentMessageAck h => simp [h, DriverLabel.effect, demanded, DriverPc.due]
  | sentReflectedAck h =>
      rw [due_resume, h]
      simp [DriverLabel.effect, demanded, DriverPc.due]
  | sentBeginTransaction h => simp [h, DriverLabel.effect, demanded, DriverPc.due]
  | sentReflect h =>
      rw [due_sendReflects, h]
      simp [DriverLabel.effect, demanded, DriverPc.due]
  | sentCommitTransaction h => simp [h, DriverLabel.effect, demanded, DriverPc.due]
  | sendFailed h => exact hok.elim
  | provided data emitted h =>
      have hpc : self.pc.inTask = true := (Bool.and_eq_true_iff.mp h).2
      simp [due_inTask hpc, DriverLabel.effect, demanded]

/-! ## Transparency -/

end Driver

/-- Where the driver goes on after the handling of an unsolicited payload. -/
def DriverPc.continuation : DriverPc → DriverPc
  | .updateD2mState resume => .resume resume
  | .sendUnblock resume => .resume resume
  | .sendReflectedAck _ resume => .resume resume
  | pc => pc

/-- A payload that no wait waits for. -/
def D2mIncomingPayload.unsolicited : D2mIncomingPayload → Bool
  | .reflected _ _ => true
  | .rolePromotedToLeader => true
  | .reflectionQueueDry => true
  | .other => true
  | _ => false

/-- The label consumes an unsolicited payload, or belongs to its handling. -/
def DriverLabel.unsolicited : DriverLabel → Bool
  | .recvD2m (some payload) => payload.unsolicited
  | l => l.effect.isSome

namespace Driver

/-- `t` is where `s` will be after the handling of an unsolicited payload. -/
def Follows (s t : Driver L) : Prop :=
  t.pc = s.pc.continuation ∧ t.pendingTask = s.pendingTask

theorem continuation_of_due {pc : DriverPc} (h : pc.due = []) : pc.continuation = pc := by
  cases pc <;> first | rfl | cases h

theorem runInstruction_congr {s t : Driver L} (htask : t.pendingTask = s.pendingTask)
    (loop : IncomingMessageLoop) :
    (t.runInstruction loop).pc = (s.runInstruction loop).pc ∧
      (t.runInstruction loop).pendingTask = (s.runInstruction loop).pendingTask := by
  cases loop with
  | contacts task instruction => cases instruction <;> exact ⟨rfl, htask⟩
  | done messageAck =>
      cases messageAck with
      | none => exact ⟨rfl, rfl⟩
      | some messageAck => exact ⟨rfl, htask⟩
  | _ => exact ⟨rfl, htask⟩

/-- Where the driver is decides what it can do and where it gets. -/
theorem next_congr {s s' t : Driver L} {l : DriverLabel} (hpc : t.pc = s.pc)
    (htask : t.pendingTask = s.pendingTask) (hl : s.next l = some s') :
    ∃ t', t.next l = some t' ∧ t'.pc = s'.pc ∧ t'.pendingTask = s'.pendingTask := by
  have hawaits : ∀ {resume}, s.Awaits resume → t.Awaits resume := by
    intro resume h
    exact ⟨hpc.trans h.1, fun hnone => htask.trans (h.2 hnone)⟩
  cases step_of_next hl with
  | message message h => exact ⟨_, next_of_step (.message message (hawaits h)), hpc, rfl⟩
  | messageAck messageAck h =>
      exact ⟨_, next_of_step (.messageAck messageAck (hawaits h)), hpc, htask⟩
  | cspClosed h => exact ⟨_, next_of_step (.cspClosed (hawaits h)), rfl, htask⟩
  | accepted h haccept => exact ⟨_, next_of_step (.accepted (hpc.trans h) haccept), rfl, htask⟩
  | @unsolicited resume payload h hreject =>
      refine ⟨_, next_of_step (.unsolicited (hawaits h) hreject), ?_, ?_⟩
      · cases payload <;> rfl
      · cases payload <;> exact htask
  | d2mClosed h => exact ⟨_, next_of_step (.d2mClosed (hawaits h)), rfl, htask⟩
  | polled loop h htask' =>
      have hrun := runInstruction_congr htask loop
      exact ⟨_, next_of_step (.polled loop (hpc.trans h) (htask.trans htask')), hrun⟩
  | pollFailed error h htask' =>
      exact ⟨_, next_of_step (.pollFailed error (hpc.trans h) (htask.trans htask')), rfl, htask⟩
  | fetched h => exact ⟨_, next_of_step (.fetched (hpc.trans h)), rfl, htask⟩
  | responded h => exact ⟨_, next_of_step (.responded (hpc.trans h)), rfl, htask⟩
  | responseFailed error h =>
      exact ⟨_, next_of_step (.responseFailed error (hpc.trans h)), rfl, htask⟩
  | updated h => exact ⟨_, next_of_step (.updated (hpc.trans h)), rfl, htask⟩
  | updateFailed error h => exact ⟨_, next_of_step (.updateFailed error (hpc.trans h)), rfl, htask⟩
  | sentUnblock h => exact ⟨_, next_of_step (.sentUnblock (hpc.trans h)), rfl, htask⟩
  | sentMessageAck h => exact ⟨_, next_of_step (.sentMessageAck (hpc.trans h)), rfl, rfl⟩
  | sentReflectedAck h => exact ⟨_, next_of_step (.sentReflectedAck (hpc.trans h)), rfl, htask⟩
  | sentBeginTransaction h =>
      exact ⟨_, next_of_step (.sentBeginTransaction (hpc.trans h)), rfl, htask⟩
  | sentReflect h => exact ⟨_, next_of_step (.sentReflect (hpc.trans h)), rfl, htask⟩
  | sentCommitTransaction h =>
      exact ⟨_, next_of_step (.sentCommitTransaction (hpc.trans h)), rfl, htask⟩
  | sendFailed h => exact ⟨_, next_of_step (.sendFailed (by rw [hpc]; exact h)), rfl, htask⟩
  | provided data emitted h =>
      exact ⟨_, next_of_step (.provided data emitted (by rw [hpc, htask]; exact h)), hpc, htask⟩

@[simp] theorem continuation_resume (resume : Option Wait) :
    (DriverPc.resume resume).continuation = .resume resume :=
  continuation_of_due (due_resume resume)

@[simp] theorem continuation_handleUnsolicitedD2m (self : Driver L) (resume : Option Wait)
    (payload : D2mIncomingPayload) :
    (self.handleUnsolicitedD2m resume payload).pc.continuation = .resume resume := by
  cases payload <;> first | rfl | exact continuation_resume resume

@[simp] theorem pendingTask_handleUnsolicitedD2m (self : Driver L) (resume : Option Wait)
    (payload : D2mIncomingPayload) :
    (self.handleUnsolicitedD2m resume payload).pendingTask = self.pendingTask := by
  cases payload <;> rfl

theorem accept_unsolicited {payload : D2mIncomingPayload} (h : payload.unsolicited = true)
    (wait : Wait) : wait.accept payload = none := by
  cases payload <;> cases wait <;> first | rfl | cases h

/-- The handling of an unsolicited payload leaves the continuation as it is. -/
theorem follows_unsolicited {s s' t : Driver L} {l : DriverLabel} (hl : s.next l = some s')
    (hun : l.unsolicited = true) (hf : s.Follows t) : s'.Follows t := by
  obtain ⟨hpc, htask⟩ := hf
  cases step_of_next hl with
  | @accepted wait payload pc h haccept =>
      rw [accept_unsolicited hun] at haccept
      cases haccept
  | @unsolicited resume payload h hreject =>
      rw [h.1, continuation_resume] at hpc
      exact ⟨hpc.trans (continuation_handleUnsolicitedD2m s resume payload).symm,
        htask.trans (pendingTask_handleUnsolicitedD2m s resume payload).symm⟩
  | updated h =>
      rw [h] at hpc
      exact ⟨hpc, htask⟩
  | sentUnblock h =>
      rw [h] at hpc
      exact ⟨hpc.trans (continuation_resume _).symm, htask⟩
  | sentReflectedAck h =>
      rw [h] at hpc
      exact ⟨hpc.trans (continuation_resume _).symm, htask⟩
  | _ => cases hun

/-- Any other step is taken outside the handling of unsolicited payloads. -/
theorem due_solicited {s s' : Driver L} {l : DriverLabel} (hok : l.Succeeds)
    (hl : s.next l = some s') (hun : l.unsolicited = false) :
    s.pc.due = [] ∧ s'.pc.due = [] := by
  cases step_of_next hl with
  | message message h => simp [h.1]
  | messageAck messageAck h => simp [h.1]
  | cspClosed h => simp [h.1]
  | accepted h haccept => exact ⟨by rw [h]; rfl, due_accept haccept⟩
  | @unsolicited resume payload h hreject =>
      refine ⟨by rw [h.1]; exact due_resume resume, ?_⟩
      cases payload <;> first | exact due_resume resume | cases hun
  | d2mClosed h => simp [h.1]
  | polled loop h htask => exact ⟨by rw [h]; rfl, due_runInstruction s loop⟩
  | pollFailed error h htask => simp [h]
  | fetched h => exact ⟨by rw [h]; rfl, rfl⟩
  | responded h => exact ⟨by rw [h]; rfl, rfl⟩
  | responseFailed error h => exact ⟨by rw [h]; rfl, rfl⟩
  | updated h => cases hun
  | updateFailed error h => exact hok.elim
  | sentUnblock h => cases hun
  | sentMessageAck h => exact ⟨by rw [h]; rfl, rfl⟩
  | sentReflectedAck h => cases hun
  | sentBeginTransaction h => exact ⟨by rw [h]; rfl, rfl⟩
  | sentReflect h => exact ⟨by rw [h]; rfl, due_sendReflects ..⟩
  | sentCommitTransaction h => exact ⟨by rw [h]; rfl, rfl⟩
  | sendFailed h => exact hok.elim
  | provided data emitted h =>
      have hdue := due_inTask (Bool.and_eq_true_iff.mp h).2
      exact ⟨hdue, hdue⟩

/-- The follower takes any other step as well. -/
theorem follows_solicited {s s' t : Driver L} {l : DriverLabel} (hok : l.Succeeds)
    (hl : s.next l = some s') (hun : l.unsolicited = false) (hf : s.Follows t) :
    ∃ t', t.next l = some t' ∧ s'.Follows t' := by
  obtain ⟨hdue, hdue'⟩ := due_solicited hok hl hun
  obtain ⟨t', ht, hpc', htask'⟩ :=
    next_congr (hf.1.trans (continuation_of_due hdue)) hf.2 hl
  exact ⟨t', ht, hpc'.trans (continuation_of_due hdue').symm, htask'⟩

/-- Without the handling of unsolicited payloads, the run goes the same way. -/
theorem exec_withoutUnsolicited {s s' t : Driver L} {ls : List DriverLabel}
    (hok : ∀ l ∈ ls, l.Succeeds) (hrun : (driverMachine L).exec s ls = some s')
    (h : s.Follows t) :
    ∃ t', (driverMachine L).exec t (ls.filter fun l => !l.unsolicited) = some t' ∧
      s'.Follows t' := by
  induction ls generalizing s t with
  | nil =>
      cases hrun
      exact ⟨t, rfl, h⟩
  | cons l ls ih =>
      obtain ⟨s₁, hl, hrest⟩ := (driverMachine L).exec_cons_eq_some.mp hrun
      have hok' : ∀ l ∈ ls, l.Succeeds := fun l hmem => hok l (List.mem_cons_of_mem _ hmem)
      cases hun : l.unsolicited with
      | true =>
          rw [List.filter_cons_of_neg (by simp [hun])]
          exact ih hok' hrest (follows_unsolicited hl hun h)
      | false =>
          rw [List.filter_cons_of_pos (by simp [hun])]
          obtain ⟨t₁, ht, h₁⟩ := follows_solicited (hok l (List.mem_cons_self ..)) hl hun h
          obtain ⟨t', hexec, h'⟩ := ih hok' hrest h₁
          exact ⟨t', (driverMachine L).exec_cons_eq_some.mpr ⟨t₁, ht, hexec⟩, h'⟩

end Driver

/-! ## Whole runs -/

/-- The effects that answer a payload of the mediator. -/
def Effect.answer : Effect → Option Effect
  | .unblockIncomingMessages => some .unblockIncomingMessages
  | .reflectedAck reflectId => some (.reflectedAck reflectId)
  | _ => none

/-- The answer that a label sends. -/
def DriverLabel.answer : DriverLabel → Option Effect
  | .sentCsp .unblockIncomingMessages => some .unblockIncomingMessages
  | .sentD2m (.reflectedAck reflectId) => some (.reflectedAck reflectId)
  | _ => none

/-- The answer that the payload a label consumes calls for. -/
def DriverLabel.answerTo : DriverLabel → Option Effect
  | .recvD2m (some (.reflected reflectId _)) => some (.reflectedAck reflectId)
  | .recvD2m (some .rolePromotedToLeader) => some .unblockIncomingMessages
  | _ => none

namespace Driver

theorem filterMap_answer_event (events : List Event) :
    (events.map Effect.event).filterMap Effect.answer = [] := by
  rw [List.filterMap_eq_nil_iff]
  intro effect hmem
  obtain ⟨event, -, rfl⟩ := List.mem_map.mp hmem
  rfl

theorem filterMap_observed (self : Driver L) (l : DriverLabel) :
    (self.observed l).filterMap Effect.answer = l.answer.toList := by
  have hevents : ((self.next l).elim [] fun self' =>
      (self'.events.drop self.events.length).map Effect.event).filterMap Effect.answer = [] := by
    cases self.next l with
    | none => rfl
    | some self' => exact filterMap_answer_event _
  rw [observed, List.filterMap_append, hevents, List.nil_append]
  cases l with
  | updated error => cases error <;> rfl
  | sentCsp payload => cases payload <;> rfl
  | sentD2m payload => cases payload <;> rfl
  | _ => rfl

theorem filterMap_demanded (self : Driver L) (l : DriverLabel) :
    (self.demanded l).filterMap Effect.answer = l.answerTo.toList := by
  cases l with
  | recvD2m payload =>
      cases payload with
      | none => rfl
      | some payload =>
          cases payload with
          | reflected reflectId envelope =>
              rw [demanded, List.filterMap_append, filterMap_answer_event]
              rfl
          | _ => rfl
  | provided data emitted => exact filterMap_answer_event emitted
  | _ => rfl

@[simp] theorem leader_handleUnsolicitedD2m (self : Driver L) (resume : Option Wait)
    (payload : D2mIncomingPayload) :
    (self.handleUnsolicitedD2m resume payload).leader = self.leader := by
  cases payload <;> rfl

@[simp] theorem leader_runInstruction (self : Driver L) (loop : IncomingMessageLoop) :
    (self.runInstruction loop).leader = self.leader := by
  simp only [runInstruction]
  split <;> rfl

theorem leader_next {self self' : Driver L} {l : DriverLabel} (hl : self.next l = some self') :
    self'.leader = true ↔ self.leader = true ∨ l = .updated none := by
  cases step_of_next hl with
  | _ => simp

/-- The role is leader once `update_d2m_state` has succeeded. -/
theorem leader_exec {self self' : Driver L} {ls : List DriverLabel}
    (hrun : (driverMachine L).exec self ls = some self') :
    self'.leader = true ↔ self.leader = true ∨ DriverLabel.updated none ∈ ls := by
  induction ls generalizing self with
  | nil =>
      cases hrun
      simp
  | cons l ls ih =>
      obtain ⟨s₁, hl, hrest⟩ := (driverMachine L).exec_cons_eq_some.mp hrun
      rw [ih hrest, leader_next hl, List.mem_cons, or_assoc, eq_comm (a := l)]

/-- Every unsolicited payload is handled exactly once, wherever the driver
consumes it.  The effects of a run are those that its payloads call for, in
order, up to what is due at its end; so are the answers among them.  And without
the handling the run gets to the same place. -/
theorem unsolicited_exactly_once (deviceGroupKey : L.reflection.DeviceGroupKey)
    (contactStore : ContactStore L) (contacts : ContactMap) {self : Driver L}
    {ls : List DriverLabel} (hok : ∀ l ∈ ls, l.Succeeds)
    (hrun : (driverMachine L).exec (new deviceGroupKey contactStore contacts) ls = some self) :
    (driverMachine L).collect observed (new deviceGroupKey contactStore contacts) ls ++
        self.pc.due =
      (driverMachine L).collect demanded (new deviceGroupKey contactStore contacts) ls ∧
    ls.filterMap DriverLabel.answer ++ self.pc.due.filterMap Effect.answer =
      ls.filterMap DriverLabel.answerTo ∧
    (self.leader = true ↔ DriverLabel.updated none ∈ ls) ∧
    ∃ t, (driverMachine L).exec (new deviceGroupKey contactStore contacts)
        (ls.filter fun l => !l.unsolicited) = some t ∧
      t.pc = self.pc.continuation ∧ t.pendingTask = self.pendingTask := by
  have hledger : (driverMachine L).collect observed (new deviceGroupKey contactStore contacts) ls ++
        self.pc.due =
      [] ++ (driverMachine L).collect demanded (new deviceGroupKey contactStore contacts) ls :=
    (driverMachine L).collect_ledger (fun s l s' hok hl => observed_due hok hl)
      ((driverMachine L).meets_of_forall hok _) hrun
  rw [List.nil_append] at hledger
  refine ⟨hledger, ?_, ?_, exec_withoutUnsolicited hok hrun ⟨rfl, rfl⟩⟩
  · rw [← (driverMachine L).filterMap_collect filterMap_observed hrun,
      ← (driverMachine L).filterMap_collect filterMap_demanded hrun, ← List.filterMap_append,
      hledger]
  · rw [leader_exec hrun]
    exact or_iff_right Bool.false_ne_true

/-- A reflected payload and a promotion arrive while a reply is awaited. -/
def interruptedWait : List DriverLabel :=
  [.recvCsp (some (.message ⟨[1]⟩)),
    .polled (.ok (.contacts .createContact (.beginTransaction (.beginTransaction [] 0)))),
    .sentD2m (.beginTransaction [] none),
    .recvD2m (some (.reflected 7 [])),
    .sentD2m (.reflectedAck 7),
    .recvD2m (some .rolePromotedToLeader),
    .updated none,
    .sentCsp .unblockIncomingMessages]

theorem unsolicited_exactly_once_interruptedWait :
    interruptedWait.filterMap DriverLabel.answer = [.reflectedAck 7, .unblockIncomingMessages] ∧
      ∃ t, (driverMachine _).exec sample (interruptedWait.filter fun l => !l.unsolicited) = some t ∧
        t.pc = .nextD2mIncoming (.beginReply .createContact) := by
  have hok : ∀ l ∈ interruptedWait, l.Succeeds := by
    simp [interruptedWait, DriverLabel.Succeeds]
  obtain ⟨-, hanswers, -, t, hexec, hpc, -⟩ :=
    unsolicited_exactly_once () sample.contactStore ∅ hok rfl
  exact ⟨(List.append_nil _).symm.trans hanswers, t, hexec, hpc⟩

end Driver

end MultideviceClient
