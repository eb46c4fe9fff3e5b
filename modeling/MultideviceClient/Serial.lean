import MultideviceClient.Unsolicited

/-!
# One message at a time

The driver works on one message of the chat server at a time.  It takes the next
one only when the task of the last one is done, and between two polls of a task
it gives the task what the polled instruction asks for.

*Accounts.*  Three histories of a run are balanced step by step, each with an
account of what is still open: the messages taken against the tasks that are done
(`unfinished`), the acknowledgements of the results against those sent
(`unsent`), and what the instructions ask for against what was given (`owed`).  A
run that ends in an error may leave one entry open for good.

The third account is empty whenever a task is polled.  So between two polls it is
settled by exactly one entry: the response of the kind of the instruction or,
after a rejected transaction, the end of the other one (`serial`).
-/

namespace MultideviceClient

open Foundations

variable {L : Libthreema}

/-! ## What an instruction asks for -/

/-- The kinds of response. -/
inductive ResponseKind where
  | fetchSender
  | beginTransactionReply (task : ContactsTask)
  | abortTransactionResponse (task : ContactsTask)
  | commitTransactionResponse (task : ContactsTask)
  | reflectMessage
deriving DecidableEq, Repr

/-- What an instruction asks for before the task is polled again. -/
inductive Answer where
  /-- The task is given a response. -/
  | response (kind : ResponseKind)
  /-- The transaction of another device has ended. -/
  | transactionEnded
deriving DecidableEq, Repr

/-- The kind of a response. -/
def IncomingMessageResponse.kind : IncomingMessageResponse → ResponseKind
  | .fetchSender => .fetchSender
  | .contacts task (.beginTransactionReply _) => .beginTransactionReply task
  | .contacts task .abortTransactionResponse => .abortTransactionResponse task
  | .contacts task (.commitTransactionResponse _) => .commitTransactionResponse task
  | .reflectMessage _ => .reflectMessage

/-- What a result of `task.poll` asks for.  A task that is done is not polled
again. -/
def IncomingMessageLoop.answer : IncomingMessageLoop → Option Answer
  | .fetchSender => some (.response .fetchSender)
  | .contacts _ (.beginTransaction .transactionRejected) => some .transactionEnded
  | .contacts task (.beginTransaction (.beginTransaction _ _)) =>
      some (.response (.beginTransactionReply task))
  | .contacts task (.beginTransaction .abortTransaction) =>
      some (.response (.abortTransactionResponse task))
  | .contacts task (.reflectAndCommitTransaction _) =>
      some (.response (.commitTransactionResponse task))
  | .reflectMessage _ => some (.response .reflectMessage)
  | .done _ => none

/-- What a wait leads to. -/
def Wait.answer : Wait → Answer
  | .transactionEnded => .transactionEnded
  | .beginReply task => .response (.beginTransactionReply task)
  | .abortAck task => .response (.abortTransactionResponse task)
  | .commitAck task _ => .response (.commitTransactionResponse task)
  | .reflectAcks _ _ => .response .reflectMessage

/-- What the reflected messages lead to. -/
def ReflectGoal.answer : ReflectGoal → Answer
  | .commit task => .response (.commitTransactionResponse task)
  | .acks _ => .response .reflectMessage

/-! ## What is open -/

/-- What the instruction that was polled last is still to be given. -/
def DriverPc.owed : DriverPc → Option Answer
  | .top => none
  | .fetchSender => some (.response .fetchSender)
  | .nextD2mIncoming wait => some wait.answer
  | .respond response => some (.response response.kind)
  | .updateD2mState resume => resume.map Wait.answer
  | .sendUnblock resume => resume.map Wait.answer
  | .sendReflectedAck _ resume => resume.map Wait.answer
  | .sendMessageAck _ => none
  | .sendBeginTransaction task _ _ => some (.response (.beginTransactionReply task))
  | .sendReflect _ _ goal => some goal.answer
  | .sendCommitTransaction wait => some wait.answer
  | .returned _ => none

/-- The acknowledgement of a result that is still to be sent. -/
def DriverPc.unsent (pc : DriverPc) : Option MessageAck :=
  match pc.outgoingCsp with
  | some (.messageAck messageAck) => some messageAck
  | _ => none

namespace Driver

/-- The message whose task is not done. -/
def unfinished (self : Driver L) : Option MessageWithMetadataBox :=
  if self.pc.unsent.isSome then none else self.pendingTask

@[simp] theorem owed_resume (resume : Option Wait) :
    (DriverPc.resume resume).owed = resume.map Wait.answer := by
  cases resume <;> rfl

@[simp] theorem owed_awaitReflectAcks (pending : Nat) (ids : List UInt32) :
    (awaitReflectAcks pending ids).owed = some (.response .reflectMessage) := by
  simp only [awaitReflectAcks]
  split <;> rfl

@[simp] theorem owed_sendReflects (messages : List ReflectPayload) (goal : ReflectGoal) :
    (sendReflects messages goal).owed = some goal.answer := by
  cases messages with
  | cons payload rest => rfl
  | nil =>
      cases goal with
      | commit task => rfl
      | acks pending => exact owed_awaitReflectAcks pending []

@[simp] theorem owed_handleUnsolicitedD2m (self : Driver L) (resume : Option Wait)
    (payload : D2mIncomingPayload) :
    (self.handleUnsolicitedD2m resume payload).pc.owed = resume.map Wait.answer := by
  cases payload <;> first | rfl | exact owed_resume resume

/-- An instruction is owed what it asks for. -/
theorem owed_runInstruction (self : Driver L) (loop : IncomingMessageLoop) :
    (self.runInstruction loop).pc.owed = loop.answer := by
  cases loop with
  | fetchSender => rfl
  | contacts task instruction =>
      cases instruction with
      | beginTransaction instruction => cases instruction <;> rfl
      | reflectAndCommitTransaction messages => exact owed_sendReflects messages (.commit task)
  | reflectMessage messages => exact owed_sendReflects messages (.acks _)
  | done messageAck => cases messageAck <;> rfl

theorem unsent_of_outgoingCsp {pc : DriverPc} (h : pc.outgoingCsp = none) : pc.unsent = none := by
  rw [DriverPc.unsent, h]

@[simp] theorem unsent_resume (resume : Option Wait) : (DriverPc.resume resume).unsent = none :=
  unsent_of_outgoingCsp (outgoingCsp_resume resume)

@[simp] theorem unsent_sendReflects (messages : List ReflectPayload) (goal : ReflectGoal) :
    (sendReflects messages goal).unsent = none :=
  unsent_of_outgoingCsp (outgoingCsp_sendReflects messages goal)

@[simp] theorem unsent_handleUnsolicitedD2m (self : Driver L) (resume : Option Wait)
    (payload : D2mIncomingPayload) : (self.handleUnsolicitedD2m resume payload).pc.unsent = none :=
  unsent_of_outgoingCsp (outgoingCsp_handleUnsolicitedD2m self resume payload)

end Driver

/-! ## Histories -/

/-- A task is polled. -/
def DriverLabel.isPoll : DriverLabel → Bool
  | .polled _ => true
  | _ => false

/-- The message that a label takes. -/
def DriverLabel.taken : DriverLabel → Option MessageWithMetadataBox
  | .recvCsp (some (.message message)) => some message
  | _ => none

/-- The acknowledgement that a label sends to the chat server. -/
def DriverLabel.ackSent : DriverLabel → Option MessageAck
  | .sentCsp (.messageAck messageAck) => some messageAck
  | _ => none

/-- What a label asks for. -/
def DriverLabel.asked : DriverLabel → Option Answer
  | .polled (.ok loop) => loop.answer
  | _ => none

/-- The label ends the run: a channel is closed, or libthreema returns an error. -/
def DriverLabel.ends : DriverLabel → Bool
  | .recvCsp none => true
  | .recvD2m none => true
  | .polled (.error _) => true
  | .responded (some _) => true
  | .updated (some _) => true
  | .sendFailed => true
  | _ => false

namespace Driver

/-- The result of a task that is done, with its message. -/
def result (self : Driver L) : DriverLabel → Option (MessageWithMetadataBox × Option MessageAck)
  | .polled (.ok (.done messageAck)) => self.pendingTask.map fun message => (message, messageAck)
  | _ => none

/-- What a step gives to the instruction that was polled last. -/
def answered (self : Driver L) : DriverLabel → Option Answer
  | .recvD2m (some payload) =>
      match self.pc, payload with
      | .nextD2mIncoming .transactionEnded, .transactionEnded _ _ => some .transactionEnded
      | _, _ => none
  | .responded _ =>
      match self.pc with
      | .respond response => some (.response response.kind)
      | _ => none
  | _ => none

/-- `run` has returned. -/
def hasReturned (self : Driver L) : Bool :=
  match self.pc with
  | .returned _ => true
  | _ => false

/-! ## Steps -/

/-- A message is taken only without a task. -/
theorem pendingTask_of_recvCsp {self self' : Driver L} {payload : Option IncomingPayloadForCspE2e}
    (hl : self.next (.recvCsp payload) = some self') : self.pendingTask = none := by
  cases step_of_next hl with
  | message message h => exact h.2 rfl
  | messageAck messageAck h => exact h.2 rfl
  | cspClosed h => exact h.2 rfl

/-- A payload that a wait accepts ends what it waits for, or leaves it owed. -/
theorem answered_accept {self : Driver L} {wait : Wait} {payload : D2mIncomingPayload}
    {pc : DriverPc} (h : self.pc = .nextD2mIncoming wait)
    (haccept : wait.accept payload = some pc) :
    (self.answered (.recvD2m (some payload))).toList ++ pc.owed.toList = [wait.answer] := by
  cases wait with
  | reflectAcks pending ids =>
      cases payload <;> cases haccept
      simp only [answered, h, owed_awaitReflectAcks]
      rfl
  | _ =>
      cases payload <;> cases haccept <;> simp only [answered, h] <;> rfl

/-- An unsolicited payload ends nothing. -/
theorem answered_unsolicited {self : Driver L} {resume : Option Wait} {payload : D2mIncomingPayload}
    (h : self.Awaits resume) (hreject : ∀ wait, resume = some wait → wait.accept payload = none) :
    self.answered (.recvD2m (some payload)) = none := by
  obtain ⟨hpc, -⟩ := h
  cases resume with
  | none =>
      have htop : self.pc = .top := hpc
      simp only [answered, htop]
  | some wait =>
      have hwait : self.pc = .nextD2mIncoming wait := hpc
      have hnone := hreject wait rfl
      simp only [answered, hwait]
      split
      next heq =>
          cases heq
          cases hnone
      next => rfl

/-- After a label that ends the run, `run` has returned. -/
theorem hasReturned_of_ends {self self' : Driver L} {l : DriverLabel}
    (hl : self.next l = some self') (hends : l.ends = true) : self'.hasReturned = true := by
  cases step_of_next hl <;> first | rfl | cases hends

/-- After that nothing happens. -/
theorem next_of_hasReturned {self : Driver L} (h : self.hasReturned = true) (l : DriverLabel) :
    self.next l = none := by
  cases hpc : self.pc with
  | returned error =>
      cases l with
      | recvD2m payload => cases payload <;> simp only [next, consumeD2m, hpc]
      | provided data emitted =>
          simp only [next, hpc, DriverPc.inTask, Bool.and_false, Bool.false_eq_true, if_false]
      | _ => simp [next, hpc, DriverPc.outgoingCsp, DriverPc.outgoingD2m]
  | _ =>
      rw [hasReturned, hpc] at h
      cases h

/-- The last step of a run finishes no task. -/
theorem result_of_ends (self : Driver L) {l : DriverLabel} (hends : l.ends = true) :
    self.result l = none := by
  cases l with
  | polled result =>
      cases result with
      | ok loop => cases hends
      | error error => rfl
  | _ => rfl

/-- What the last step of a run gives is what was owed. -/
theorem answered_of_ends {self : Driver L} {l : DriverLabel} (hends : l.ends = true) :
    self.answered l = none ∨ self.answered l = self.pc.owed := by
  cases l with
  | responded error =>
      simp only [answered]
      split
      next response hpc =>
          rw [hpc]
          exact Or.inr rfl
      next => exact Or.inl rfl
  | recvD2m payload =>
      cases payload with
      | none => exact Or.inl rfl
      | some payload => cases hends
  | _ => exact Or.inl rfl

theorem unfinished_of_unsent {self : Driver L} (h : self.pc.unsent = none) :
    self.unfinished = self.pendingTask := by
  simp only [unfinished, h, Option.isSome_none, Bool.false_eq_true, if_false]

/-- An instruction keeps the task, unless the task is done. -/
theorem unfinished_runInstruction {self : Driver L} {message : MessageWithMetadataBox}
    (loop : IncomingMessageLoop) (htask : self.pendingTask = some message) :
    ((self.result (.polled (.ok loop))).toList.map Prod.fst ++
      (self.runInstruction loop).unfinished.toList) = [message] := by
  cases loop with
  | done messageAck =>
      simp only [result, htask]
      cases messageAck <;> rfl
  | contacts task instruction =>
      cases instruction with
      | beginTransaction instruction =>
          rw [unfinished_of_unsent (unsent_of_outgoingCsp (outgoingCsp_beginTransaction ..))]
          exact congrArg Option.toList htask
      | reflectAndCommitTransaction messages =>
          rw [unfinished_of_unsent (unsent_sendReflects ..)]
          exact congrArg Option.toList htask
  | reflectMessage messages =>
      rw [unfinished_of_unsent (unsent_sendReflects ..)]
      exact congrArg Option.toList htask
  | fetchSender => exact congrArg Option.toList htask

/-- A step takes a message up when there is none, and its task is done. -/
theorem result_unfinished {self self' : Driver L} {l : DriverLabel}
    (hl : self.next l = some self') (hlive : l.ends = false) :
    (self.result l).toList.map Prod.fst ++ self'.unfinished.toList =
      self.unfinished.toList ++ l.taken.toList := by
  have hquiet : self.result l = none → l.taken = none → self.pc.unsent = none →
      self'.pc.unsent = none → self'.pendingTask = self.pendingTask →
      (self.result l).toList.map Prod.fst ++ self'.unfinished.toList =
        self.unfinished.toList ++ l.taken.toList := by
    intro hresult htaken hunsent hunsent' htask
    rw [hresult, htaken, unfinished_of_unsent hunsent, unfinished_of_unsent hunsent', htask]
    exact (List.append_nil _).symm
  cases step_of_next hl with
  | message message h =>
      have hunsent : self.pc.unsent = none := congrArg DriverPc.unsent h.1
      rw [unfinished_of_unsent hunsent, h.2 rfl, unfinished_of_unsent]
      · rfl
      · exact hunsent
  | messageAck messageAck h => exact (List.append_nil _).symm
  | cspClosed h => cases hlive
  | accepted h haccept =>
      exact hquiet rfl rfl (congrArg DriverPc.unsent h)
        (unsent_of_outgoingCsp (outgoingCsp_accept haccept)) rfl
  | unsolicited h hreject =>
      exact hquiet rfl rfl ((congrArg DriverPc.unsent h.1).trans (unsent_resume _))
        (unsent_handleUnsolicitedD2m ..) (pendingTask_handleUnsolicitedD2m ..)
  | d2mClosed h => cases hlive
  | polled loop h htask =>
      rw [unfinished_runInstruction loop htask,
        unfinished_of_unsent (congrArg DriverPc.unsent h), htask]
      rfl
  | pollFailed error h htask => cases hlive
  | fetched h => exact hquiet rfl rfl (congrArg DriverPc.unsent h) rfl rfl
  | responded h => exact hquiet rfl rfl (congrArg DriverPc.unsent h) rfl rfl
  | responseFailed error h => cases hlive
  | updated h => exact hquiet rfl rfl (congrArg DriverPc.unsent h) rfl rfl
  | updateFailed error h => cases hlive
  | sentUnblock h => exact hquiet rfl rfl (congrArg DriverPc.unsent h) (unsent_resume _) rfl
  | sentMessageAck h =>
      have hunfinished : self.unfinished = none := by
        simp only [unfinished, h]
        rfl
      rw [hunfinished]
      rfl
  | sentReflectedAck h => exact hquiet rfl rfl (congrArg DriverPc.unsent h) (unsent_resume _) rfl
  | sentBeginTransaction h => exact hquiet rfl rfl (congrArg DriverPc.unsent h) rfl rfl
  | sentReflect h => exact hquiet rfl rfl (congrArg DriverPc.unsent h) (unsent_sendReflects ..) rfl
  | sentCommitTransaction h => exact hquiet rfl rfl (congrArg DriverPc.unsent h) rfl rfl
  | sendFailed h => cases hlive
  | provided data emitted h => exact (List.append_nil _).symm

/-- What a result makes due is what the task is done with. -/
theorem unsent_runInstruction {self : Driver L} {message : MessageWithMetadataBox}
    (loop : IncomingMessageLoop) (htask : self.pendingTask = some message) :
    (self.runInstruction loop).pc.unsent = (self.result (.polled (.ok loop))).bind Prod.snd := by
  cases loop with
  | done messageAck =>
      simp only [result, htask]
      cases messageAck <;> rfl
  | contacts task instruction =>
      cases instruction with
      | beginTransaction instruction =>
          exact unsent_of_outgoingCsp (outgoingCsp_beginTransaction ..)
      | reflectAndCommitTransaction messages => exact unsent_sendReflects ..
  | reflectMessage messages => exact unsent_sendReflects ..
  | fetchSender => rfl

/-- A step sends the acknowledgement that is due, and a result makes one due. -/
theorem ackSent_unsent {self self' : Driver L} {l : DriverLabel}
    (hl : self.next l = some self') (hlive : l.ends = false) :
    l.ackSent.toList ++ self'.pc.unsent.toList =
      self.pc.unsent.toList ++ ((self.result l).bind Prod.snd).toList := by
  have hquiet : self.result l = none → l.ackSent = none → self.pc.unsent = none →
      self'.pc.unsent = none →
      l.ackSent.toList ++ self'.pc.unsent.toList =
        self.pc.unsent.toList ++ ((self.result l).bind Prod.snd).toList := by
    intro hresult hsent hunsent hunsent'
    rw [hresult, hsent, hunsent, hunsent']
    rfl
  cases step_of_next hl with
  | message message h => exact (List.append_nil _).symm
  | messageAck messageAck h => exact (List.append_nil _).symm
  | cspClosed h => cases hlive
  | accepted h haccept =>
      exact hquiet rfl rfl (congrArg DriverPc.unsent h)
        (unsent_of_outgoingCsp (outgoingCsp_accept haccept))
  | unsolicited h hreject =>
      exact hquiet rfl rfl ((congrArg DriverPc.unsent h.1).trans (unsent_resume _))
        (unsent_handleUnsolicitedD2m ..)
  | d2mClosed h => cases hlive
  | polled loop h htask =>
      rw [unsent_runInstruction loop htask, h]
      rfl
  | pollFailed error h htask => cases hlive
  | fetched h => exact hquiet rfl rfl (congrArg DriverPc.unsent h) rfl
  | responded h => exact hquiet rfl rfl (congrArg DriverPc.unsent h) rfl
  | responseFailed error h => cases hlive
  | updated h => exact hquiet rfl rfl (congrArg DriverPc.unsent h) rfl
  | updateFailed error h => cases hlive
  | sentUnblock h => exact hquiet rfl rfl (congrArg DriverPc.unsent h) (unsent_resume _)
  | sentMessageAck h =>
      rw [h]
      rfl
  | sentReflectedAck h => exact hquiet rfl rfl (congrArg DriverPc.unsent h) (unsent_resume _)
  | sentBeginTransaction h => exact hquiet rfl rfl (congrArg DriverPc.unsent h) rfl
  | sentReflect h => exact hquiet rfl rfl (congrArg DriverPc.unsent h) (unsent_sendReflects ..)
  | sentCommitTransaction h => exact hquiet rfl rfl (congrArg DriverPc.unsent h) rfl
  | sendFailed h => cases hlive
  | provided data emitted h => exact (List.append_nil _).symm

/-- A step gives what is owed, and a poll makes owed what its instruction asks
for. -/
theorem answered_owed {self self' : Driver L} {l : DriverLabel}
    (hl : self.next l = some self') (hlive : l.ends = false) :
    (self.answered l).toList ++ self'.pc.owed.toList =
      self.pc.owed.toList ++ l.asked.toList := by
  cases step_of_next hl with
  | message message h => exact (List.append_nil _).symm
  | messageAck messageAck h => exact (List.append_nil _).symm
  | cspClosed h => cases hlive
  | accepted h haccept =>
      rw [h]
      exact answered_accept h haccept
  | unsolicited h hreject =>
      rw [answered_unsolicited h hreject, owed_handleUnsolicitedD2m, h.1, owed_resume]
      exact (List.append_nil _).symm
  | d2mClosed h => cases hlive
  | polled loop h htask =>
      rw [owed_runInstruction, h]
      rfl
  | pollFailed error h htask => cases hlive
  | fetched h =>
      rw [h]
      rfl
  | responded h =>
      simp only [answered, h]
      rfl
  | responseFailed error h => cases hlive
  | updated h =>
      rw [h]
      exact (List.append_nil _).symm
  | updateFailed error h => cases hlive
  | sentUnblock h =>
      rw [owed_resume, h]
      exact (List.append_nil _).symm
  | sentMessageAck h =>
      rw [h]
      rfl
  | sentReflectedAck h =>
      rw [owed_resume, h]
      exact (List.append_nil _).symm
  | sentBeginTransaction h =>
      rw [h]
      rfl
  | sentReflect h =>
      rw [owed_sendReflects, h]
      rfl
  | sentCommitTransaction h =>
      rw [h]
      rfl
  | sendFailed h => cases hlive
  | provided data emitted h => exact (List.append_nil _).symm

/-! ## Runs -/

/-- An account of one entry that every step balances is balanced over a run.  The
step that ends the run adds nothing, and pays nothing or everything. -/
theorem account_exec {ω : Type} {out script : Driver L → DriverLabel → List ω}
    (account : Driver L → Option ω)
    (hstep : ∀ {self self' : Driver L} {l : DriverLabel}, self.next l = some self' →
      l.ends = false →
      out self l ++ (account self').toList = (account self).toList ++ script self l)
    (hends : ∀ (self : Driver L) (l : DriverLabel), l.ends = true → script self l = [] ∧
      (out self l = [] ∨ out self l = (account self).toList))
    {self self' : Driver L} {ls : List DriverLabel} (hstart : self.hasReturned = false)
    (hrun : (driverMachine L).exec self ls = some self') :
    ∃ rest, Machine.Leaves 1 self'.hasReturned (account self').toList rest ∧
      (driverMachine L).collect out self ls ++ rest =
        (account self).toList ++ (driverMachine L).collect script self ls := by
  refine (driverMachine L).collect_account hasReturned out script (fun s => (account s).toList) 1
    (fun s _ => Option.length_toList_le) ?_ ?_ ?_ hstart hrun
  · intro s l s' _ hl hs'
    refine hstep hl ?_
    cases hend : l.ends with
    | false => rfl
    | true =>
        rw [hasReturned_of_ends hl hend] at hs'
        cases hs'
  · intro s l s' _ hl hs'
    cases hend : l.ends with
    | false => exact ⟨_, Option.length_toList_le, hstep hl hend⟩
    | true =>
        obtain ⟨hscript, hout⟩ := hends s l hend
        rw [hscript, List.append_nil]
        rcases hout with hout | hout
        · exact ⟨(account s).toList, Option.length_toList_le, by rw [hout, List.nil_append]⟩
        · exact ⟨[], Nat.zero_le _, by rw [hout, List.append_nil]⟩
  · intro s l s' hs hl
    have hnone : (driverMachine L).next s l = none := next_of_hasReturned hs l
    rw [hl] at hnone
    cases hnone

/-- The results of a run, with their messages. -/
def results (self : Driver L) (ls : List DriverLabel) :
    List (MessageWithMetadataBox × Option MessageAck) :=
  (driverMachine L).collect (fun s l => (s.result l).toList) self ls

/-- A run that has not ended has not ended before. -/
theorem hasReturned_of_exec {self self' : Driver L} {ls : List DriverLabel}
    (hrun : (driverMachine L).exec self ls = some self') (hlive : self'.hasReturned = false) :
    self.hasReturned = false := by
  cases ls with
  | nil =>
      cases hrun
      exact hlive
  | cons l ls =>
      obtain ⟨s, hl, -⟩ := (driverMachine L).exec_cons_eq_some.mp hrun
      cases hreturned : self.hasReturned with
      | false => rfl
      | true =>
          have hnone : (driverMachine L).next self l = none := next_of_hasReturned hreturned l
          rw [hl] at hnone
          cases hnone

/-- Messages are taken one after the other, and their tasks are done in that
order. -/
theorem results_taken {self self' : Driver L} {ls : List DriverLabel}
    (hstart : self.hasReturned = false) (hrun : (driverMachine L).exec self ls = some self') :
    ∃ rest, Machine.Leaves 1 self'.hasReturned self'.unfinished.toList rest ∧
      (self.results ls).map Prod.fst ++ rest =
        self.unfinished.toList ++ ls.filterMap DriverLabel.taken := by
  rw [results, ← List.filterMap_eq_map, (driverMachine L).filterMap_collect_eq,
    ← (driverMachine L).collect_labels hrun]
  refine account_exec unfinished (fun hl hlive => ?_) ?_ hstart hrun
  · rw [List.filterMap_eq_map]
    exact result_unfinished hl hlive
  · intro s l hend
    refine ⟨?_, Or.inl (by rw [s.result_of_ends hend]; rfl)⟩
    cases l with
    | recvCsp payload =>
        cases payload with
        | none => rfl
        | some payload => cases hend
    | _ => rfl

/-- The acknowledgements are sent in the order of the results. -/
theorem acks_sent {self self' : Driver L} {ls : List DriverLabel}
    (hstart : self.hasReturned = false) (hrun : (driverMachine L).exec self ls = some self') :
    ∃ rest, Machine.Leaves 1 self'.hasReturned self'.pc.unsent.toList rest ∧
      ls.filterMap DriverLabel.ackSent ++ rest =
        self.pc.unsent.toList ++ (self.results ls).filterMap Prod.snd := by
  rw [results, (driverMachine L).filterMap_collect_eq, ← (driverMachine L).collect_labels hrun]
  refine account_exec (fun self => self.pc.unsent) (fun {s s' l} hl hlive => ?_) ?_ hstart hrun
  · have hsnd : (s.result l).toList.filterMap Prod.snd = ((s.result l).bind Prod.snd).toList := by
      cases s.result l with
      | none => rfl
      | some result =>
          obtain ⟨message, messageAck⟩ := result
          cases messageAck <;> rfl
    rw [hsnd]
    exact ackSent_unsent hl hlive
  · intro s l hend
    rw [s.result_of_ends hend]
    refine ⟨rfl, Or.inl ?_⟩
    cases l with
    | sentCsp payload => cases hend
    | _ => rfl

/-- Every answer is given, in the order of the instructions. -/
theorem answers_given {self self' : Driver L} {ls : List DriverLabel}
    (hstart : self.hasReturned = false) (hrun : (driverMachine L).exec self ls = some self') :
    ∃ rest, Machine.Leaves 1 self'.hasReturned self'.pc.owed.toList rest ∧
      (driverMachine L).collect (fun s l => (s.answered l).toList) self ls ++ rest =
        self.pc.owed.toList ++ ls.filterMap DriverLabel.asked := by
  rw [← (driverMachine L).collect_labels hrun]
  refine account_exec (fun self => self.pc.owed) answered_owed ?_ hstart hrun
  intro s l hend
  constructor
  · cases l with
    | polled result =>
        cases result with
        | ok loop => cases hend
        | error error => rfl
    | _ => rfl
  · rcases s.answered_of_ends hend with hnone | howed
    · exact Or.inl (by rw [hnone]; rfl)
    · exact Or.inr (by rw [howed])

/-- Between two polls the driver gives what the first one asked for, and nothing
else. -/
theorem answers_between_polls {self s : Driver L} {loop : IncomingMessageLoop}
    {mid : List DriverLabel} {result : Except String IncomingMessageLoop}
    (hmid : ∀ l ∈ mid, l.isPoll = false)
    (hrun : (driverMachine L).exec (self.runInstruction loop) mid = some s)
    (hnext : (s.next (.polled result)).isSome = true) :
    (driverMachine L).collect (fun s l => (s.answered l).toList) (self.runInstruction loop) mid =
      loop.answer.toList := by
  have htop : s.pc = .top := by
    obtain ⟨s', hs'⟩ := Option.isSome_iff_exists.mp hnext
    cases step_of_next hs' with
    | polled loop h htask => exact h
    | pollFailed error h htask => exact h
  have hlive : s.hasReturned = false := by rw [hasReturned, htop]
  obtain ⟨rest, ⟨-, hrest⟩, hgiven⟩ := answers_given (hasReturned_of_exec hrun hlive) hrun
  have hasked : mid.filterMap DriverLabel.asked = [] := by
    rw [List.filterMap_eq_nil_iff]
    intro l hl
    have hpolls := hmid l hl
    cases l with
    | polled result => cases hpolls
    | _ => rfl
  have howed : rest = [] := by
    rw [hrest hlive, htop]
    rfl
  rw [howed, List.append_nil, hasked, List.append_nil, owed_runInstruction] at hgiven
  exact hgiven

/-- The driver works on one message at a time.  It takes none while a task is
pending.  The tasks are done in the order of their messages, and what they
acknowledge is sent in that order.  Between two polls the driver gives what the
first one asked for, and nothing else. -/
theorem serial (deviceGroupKey : L.reflection.DeviceGroupKey) (contactStore : ContactStore L)
    (contacts : ContactMap) {self : Driver L} {ls : List DriverLabel}
    (hrun : (driverMachine L).exec (new deviceGroupKey contactStore contacts) ls = some self) :
    (driverMachine L).Meets (fun s l => ∀ payload, l = .recvCsp payload → s.pendingTask = none)
      (new deviceGroupKey contactStore contacts) ls ∧
    (∃ rest, Machine.Leaves 1 self.hasReturned self.unfinished.toList rest ∧
      ((new deviceGroupKey contactStore contacts).results ls).map Prod.fst ++ rest =
        ls.filterMap DriverLabel.taken) ∧
    (∃ rest, Machine.Leaves 1 self.hasReturned self.pc.unsent.toList rest ∧
      ls.filterMap DriverLabel.ackSent ++ rest =
        ((new deviceGroupKey contactStore contacts).results ls).filterMap Prod.snd) ∧
    ∀ pre loop mid result post,
      ls = pre ++ .polled (.ok loop) :: (mid ++ .polled result :: post) →
      (∀ l ∈ mid, l.isPoll = false) →
      ∃ s, (driverMachine L).exec (new deviceGroupKey contactStore contacts)
          (pre ++ [.polled (.ok loop)]) = some s ∧
        (driverMachine L).collect (fun s l => (s.answered l).toList) s mid =
          loop.answer.toList := by
  refine ⟨?_, results_taken rfl hrun, acks_sent rfl hrun, ?_⟩
  · refine (driverMachine L).meets_of_next (fun s l s' hl payload heq => ?_) _ _
    rw [heq] at hl
    exact pendingTask_of_recvCsp hl
  · intro pre loop mid result post hsplit hmid
    rw [hsplit, List.append_cons] at hrun
    obtain ⟨s₁, hpre, hrun⟩ := (driverMachine L).exec_append_eq_some.mp hrun
    obtain ⟨s₂, hmidRun, hrun⟩ := (driverMachine L).exec_append_eq_some.mp hrun
    obtain ⟨s₃, hnext, -⟩ := (driverMachine L).exec_cons_eq_some.mp hrun
    refine ⟨s₁, hpre, ?_⟩
    obtain ⟨s₀, -, hpoll⟩ := (driverMachine L).exec_append_eq_some.mp hpre
    obtain ⟨s₁', hl, hend⟩ := (driverMachine L).exec_cons_eq_some.mp hpoll
    cases hend
    have hpolled : s₀.next (.polled (.ok loop)) = some s₁ := hl
    cases step_of_next hpolled with
    | polled loop h htask =>
        exact answers_between_polls hmid hmidRun (Option.isSome_iff_exists.mpr ⟨s₃, hnext⟩)

/-- A message whose transaction is rejected at first. -/
def rejectedOnce : List DriverLabel :=
  [.recvCsp (some (.message ⟨[1]⟩)),
    .polled (.ok (.contacts .createContact (.beginTransaction .transactionRejected))),
    .recvD2m (some .reflectionQueueDry),
    .recvD2m (some (.transactionEnded 2 [])),
    .polled (.ok (.done (some ⟨[1]⟩))),
    .sentCsp (.messageAck ⟨[1]⟩)]

theorem serial_rejectedOnce :
    (sample.results rejectedOnce).map Prod.fst = rejectedOnce.filterMap DriverLabel.taken ∧
      ∃ s, (driverMachine _).exec sample (rejectedOnce.take 2) = some s ∧
        (driverMachine _).collect (fun s l => (s.answered l).toList) s
          [.recvD2m (some .reflectionQueueDry), .recvD2m (some (.transactionEnded 2 []))] =
            [.transactionEnded] := by
  obtain ⟨-, ⟨rest, ⟨-, hrest⟩, htaken⟩, -, hbetween⟩ :=
    @serial (Libthreema.sample fun _ => .error "invalid envelope") () sample.contactStore ∅ sample
      rejectedOnce rfl
  rw [hrest rfl] at htaken
  exact ⟨(List.append_nil _).symm.trans htaken,
    hbetween [.recvCsp (some (.message ⟨[1]⟩))] _ _ _ [.sentCsp (.messageAck ⟨[1]⟩)] rfl
      (by decide)⟩

end Driver

end MultideviceClient
