import MultideviceClient.Wiring

/-!
# The life of a run

`run` goes on until one of its branches is done or a command ends it.  This module
says how it ends, and when it can only be ended from outside.

*Endings.*  `Ending` lists the results of `run` with the step that gives them.  Only
the command to shut down, and the loss of its sender, make a result of `Ok`: the
connections and the driver return with an error or not at all (`lifecycle`).

*Deadlocks.*  The driver and a connection can be suspended in a send to each other.
Nothing in `run` resolves this (`deadlock_final`): no message is processed and no
event is sent any more, whatever the servers do, until the other connection ends or a
command comes.
-/

namespace MultideviceClient

open Foundations

variable {P : CspProtocol} {Q : D2mProtocol} {L : Libthreema}

/-! ## Endings -/

/-- The results of `run`, each with the step that gives it, and where `run` was before.
The branches give the error that they return with. -/
inductive Ending (stateDir : String) :
    ClientPhase P Q L → ClientLabel → Except String Unit → Prop where
  | setUp (part : SetUp) (message : String) :
      Ending stateDir (.setUp part) (.setUp (some message)) (.error (part.error stateDir message))
  | connectCsp (message : String) :
      Ending stateDir .connectCsp (.connectedCsp (some message)) (.error message)
  | connectD2m (message : String) :
      Ending stateDir .connectD2m (.connectedD2m (.error message)) (.error message)
  | csp {tasks : ClientTasks P Q L} {l : CspSessionLabel} {csp : CspSession P} {message : String}
      (hnext : tasks.csp.next l = some csp) (hpc : csp.pc = .returned (.error message)) :
      Ending stateDir (.running tasks) (.csp l)
        (.error (errorWithContext "CSP connection ended" message))
  | d2m {tasks : ClientTasks P Q L} {l : D2mSessionLabel} {d2m : D2mSession Q} {message : String}
      (hnext : tasks.d2m.next l = some d2m) (hpc : d2m.pc = .returned message) :
      Ending stateDir (.running tasks) (.d2m l)
        (.error (errorWithContext "D2M connection ended" message))
  | driver {tasks : ClientTasks P Q L} {l : DriverLabel} {driver : Driver L} {message : String}
      (hnext : tasks.driver.next l = some driver) (hpc : driver.pc = .returned message) :
      Ending stateDir (.running tasks) (.driver l)
        (.error (errorWithContext "Message processing ended" message))
  | shutdown (tasks : ClientTasks P Q L) :
      Ending stateDir (.running tasks) (.command (some .shutdown)) (.ok ())
  | senderDropped (tasks : ClientTasks P Q L) :
      Ending stateDir (.running tasks) (.command none) (.ok ())

/-- A command that is only logged. -/
def ClientLabel.isSendText : ClientLabel → Bool
  | .command (some (.sendText _ _)) => true
  | _ => false

/-- The chat server connection returns, or is about to return, without an error. -/
def CspSessionPc.isOk : CspSessionPc → Bool
  | .payload (.returned (.ok ())) => true
  | .returned (.ok ()) => true
  | _ => false

/-- Where a step of the handshake leads: to another one, to the start of the payload flow,
or to an error. -/
def CspSessionPc.afterHandshake : CspSessionPc → Bool
  | .handshake _ => true
  | .payload (.top none) => true
  | .returned (.error _) => true
  | _ => false

theorem CspSessionPc.isOk_of_afterHandshake {pc : CspSessionPc} (h : pc.afterHandshake = true) :
    pc.isOk = false := by
  cases pc with
  | handshake pc => rfl
  | payload pc => cases pc <;> first | rfl | cases h
  | returned result => cases result <;> first | rfl | cases h

namespace CspRunner

theorem isOk_finish (frame : Option Bytes) (instruction : Option CspInstruction) :
    (CspSessionPc.payload (finish frame instruction)).isOk = false := by
  cases frame <;> rfl

theorem isOk_process (self : CspRunner P) (instruction : CspInstruction) :
    (CspSessionPc.payload (self.process instruction).pc).isOk = false := by
  simp only [process]
  split
  next => rfl
  next =>
      split
      next =>
          split
          next => rfl
          next => exact isOk_finish ..
      next => rfl
      next => rfl
      next => exact isOk_finish ..

/-- The payload flow returns `Ok` only when the driver's end of the channel is
gone. -/
theorem isOk_next {self self' : CspRunner P} {l : CspLabel} (h : self.next l = some self')
    (hl : l ≠ .recvOutgoing none) : (CspSessionPc.payload self'.pc).isOk = false := by
  cases l with
  | turn =>
      simp only [next] at h
      split at h <;> cases h
      next instruction hpc =>
          cases instruction with
          | some instruction => exact isOk_process self instruction
          | none =>
              simp only [turn]
              split
              next => rfl
              next => rfl
              next => exact isOk_process ..
  | readable read =>
      simp only [next] at h
      split at h
      next =>
          cases h
          rfl
      next =>
          split at h
          next => split at h <;> cases h <;> rfl
          next => cases h
      next => cases h
  | recvOutgoing payload =>
      cases payload with
      | none => exact absurd rfl hl
      | some payload =>
          simp only [next] at h
          split at h
          next heq => cases heq
          next =>
              split at h <;> cases h
              next => rfl
              next => exact isOk_process ..
          next => cases h
  | sentIncoming payload =>
      simp only [next] at h
      split at h
      next =>
          split at h <;> cases h
          exact isOk_finish ..
      next => cases h
  | sendFailed =>
      simp only [next] at h
      split at h <;> cases h
      rfl
  | written error =>
      simp only [next] at h
      split at h <;> cases h <;> rfl

end CspRunner

namespace CspSession

theorem afterHandshake_afterInstruction (stateUpdate : Option CspStateUpdate) :
    (afterInstruction stateUpdate).afterHandshake = true := by
  simp only [afterInstruction]
  split <;> rfl

theorem afterHandshake_addChunk (self : CspSession P) (bytes : Bytes) :
    (self.addChunk bytes).pc.afterHandshake = true := by
  simp only [addChunk]
  split
  next => rfl
  next =>
      split
      next => rfl
      next => rfl
      next instruction protocol _ =>
          simp only [processHandshake]
          split
          next => rfl
          next =>
              cases instruction.outgoingFrame with
              | some frame => rfl
              | none => exact afterHandshake_afterInstruction _

theorem afterHandshake_nextHandshake {self self' : CspSession P} {pc : CspHandshakePc}
    {l : CspHandshakeLabel} (h : self.nextHandshake pc l = some self') :
    self'.pc.afterHandshake = true := by
  cases l with
  | turn =>
      simp only [nextHandshake] at h
      split at h <;> cases h
      simp only [receiveRequired]
      split
      next => rfl
      next => exact afterHandshake_addChunk ..
      next => rfl
  | read result =>
      simp only [nextHandshake] at h
      split at h
      next =>
          cases h
          rfl
      next =>
          simp only [readExact] at h
          split at h
          next =>
              cases h
              rfl
          next =>
              split at h
              next =>
                  cases h
                  rfl
              next =>
                  split at h <;> cases h
                  rfl
      next => cases h
  | tryReadBuf read =>
      simp only [nextHandshake] at h
      split at h <;> cases h
      cases read with
      | closed => rfl
      | bytes bytes => exact afterHandshake_addChunk ..
      | wouldBlock => exact afterHandshake_addChunk ..
      | error message => rfl
  | written error =>
      simp only [nextHandshake] at h
      split at h <;> cases h
      next => rfl
      next stateUpdate => exact afterHandshake_afterInstruction stateUpdate
      next => rfl
      next => rfl

/-- While the driver's end of the channel is there, the chat server connection does
not return `Ok`. -/
theorem isOk_next {self self' : CspSession P} {l : CspSessionLabel} (h : self.next l = some self')
    (hl : l ≠ .payload (.recvOutgoing none)) (hself : self.pc.isOk = false) :
    self'.pc.isOk = false := by
  cases l with
  | handshake l =>
      simp only [next] at h
      split at h
      next => exact CspSessionPc.isOk_of_afterHandshake (afterHandshake_nextHandshake h)
      next => cases h
  | payload l =>
      simp only [next] at h
      split at h
      next =>
          obtain ⟨runner, hrunner, rfl⟩ := Option.map_eq_some_iff.mp h
          exact CspRunner.isOk_next hrunner (fun heq => hl (congrArg _ heq))
      next => cases h
  | shutdown error =>
      simp only [next] at h
      split at h <;> cases h
      next result hpc =>
          rw [hpc] at hself
          cases result with
          | error message => rfl
          | ok done =>
              cases done
              cases hself
      next => rfl

end CspSession

namespace ClientTasks

theorem isOk_nextCsp {tasks tasks' : ClientTasks P Q L} {l : CspSessionLabel}
    (h : tasks.nextCsp l = some tasks') (htasks : tasks.csp.pc.isOk = false) :
    tasks'.csp.pc.isOk = false := by
  obtain ⟨-, hclosed, -, csp, chans, hcsp, -, rfl⟩ := nextCsp_eq_some h
  exact CspSession.isOk_next hcsp hclosed htasks

variable {tasks tasks' : ClientTasks P Q L} {result : Except String Unit} {stateDir : String}

/-- After a step of the chat server connection, the `select!` can end with this one. -/
theorem ending_of_nextCsp {l : CspSessionLabel} (hlive : tasks.result = none)
    (hOk : tasks.csp.pc.isOk = false) (hnext : tasks.nextCsp l = some tasks')
    (hresult : tasks'.result = some result) :
    Ending stateDir (.running tasks) (.csp l) result := by
  obtain ⟨-, hd2m, hdriver⟩ := result_eq_none hlive
  have hOk' := isOk_nextCsp hnext hOk
  obtain ⟨-, -, -, csp, chans, hcsp, -, rfl⟩ := nextCsp_eq_some hnext
  rcases result_eq_some hresult with ⟨hpc, -⟩ | ⟨message, hpc, rfl⟩ | ⟨message, hpc, -⟩ |
    ⟨message, hpc, -⟩
  · rw [hpc] at hOk'
    cases hOk'
  · exact .csp hcsp hpc
  · exact absurd hpc (hd2m message)
  · exact absurd hpc (hdriver message)

/-- The same for the mediator connection. -/
theorem ending_of_nextD2m {l : D2mSessionLabel} (hlive : tasks.result = none)
    (hnext : tasks.nextD2m l = some tasks') (hresult : tasks'.result = some result) :
    Ending stateDir (.running tasks) (.d2m l) result := by
  obtain ⟨hcsp, -, hdriver⟩ := result_eq_none hlive
  obtain ⟨-, d2m, chans, hd2m, -, rfl⟩ := nextD2m_eq_some hnext
  rcases result_eq_some hresult with ⟨hpc, -⟩ | ⟨message, hpc, -⟩ | ⟨message, hpc, rfl⟩ |
    ⟨message, hpc, -⟩
  · exact absurd hpc (hcsp _)
  · exact absurd hpc (hcsp _)
  · exact .d2m hd2m hpc
  · exact absurd hpc (hdriver message)

/-- The same for the driver. -/
theorem ending_of_nextDriver {l : DriverLabel} (hlive : tasks.result = none)
    (hnext : tasks.nextDriver l = some tasks') (hresult : tasks'.result = some result) :
    Ending stateDir (.running tasks) (.driver l) result := by
  obtain ⟨hcsp, hd2m, -⟩ := result_eq_none hlive
  obtain ⟨-, driver, csp, d2m, hnext', -, -, rfl⟩ := nextDriver_eq_some hnext
  rcases result_eq_some hresult with ⟨hpc, -⟩ | ⟨message, hpc, -⟩ | ⟨message, hpc, -⟩ |
    ⟨message, hpc, rfl⟩
  · exact absurd hpc (hcsp _)
  · exact absurd hpc (hcsp _)
  · exact absurd hpc (hd2m message)
  · exact .driver hnext' hpc

end ClientTasks

namespace Client

/-- The `select!` goes on, or it ends with the result of a branch. -/
theorem select_cases (client : Client P Q L) (tasks : ClientTasks P Q L) :
    (tasks.result = none ∧ (client.select tasks).phase = .running tasks) ∨
      ∃ result, tasks.result = some result ∧ (client.select tasks).phase = .returned result := by
  simp only [select]
  cases hresult : tasks.result with
  | none => exact .inl ⟨rfl, rfl⟩
  | some result => exact .inr ⟨result, rfl, rfl⟩

/-- What holds after every run: how it has ended, if it has. -/
structure Fits (parts : ClientParts P Q L) (ls : List ClientLabel) (client : Client P Q L) :
    Prop where
  run : (machine P Q L).exec (start parts) ls = some client
  parts_eq : client.parts = parts
  live : client.Live
  isOk : ∀ tasks, client.phase = .running tasks → tasks.csp.pc.isOk = false
  ending : ∀ result, client.phase = .returned result →
    ∃ ls' l before, ls = ls' ++ [l] ∧ (machine P Q L).exec (start parts) ls' = some before ∧
      Ending parts.stateDir before.phase l result
  texts : (machine P Q L).exec (start parts) (ls.filter fun l => !l.isSendText) = some client

namespace Fits

variable {parts : ClientParts P Q L} {ls : List ClientLabel} {client client' : Client P Q L}
  {tasks tasks' : ClientTasks P Q L}

theorem start (parts : ClientParts P Q L) : Fits parts [] (.start parts) where
  run := rfl
  parts_eq := rfl
  live := by
    intro tasks hphase
    cases hphase
  isOk tasks hphase := by cases hphase
  ending result hphase := by cases hphase
  texts := rfl

theorem texts_concat (h : Fits parts ls client) {l : ClientLabel} (hl : l.isSendText = false)
    (hnext : client.next l = some client') :
    (machine P Q L).exec (.start parts) ((ls ++ [l]).filter fun l => !l.isSendText) =
      some client' := by
  rw [List.filter_append, List.filter_singleton, hl]
  exact (machine P Q L).exec_concat h.texts hnext

/-- A step of a branch, which is the only one that it can end with. -/
theorem select (h : Fits parts ls client) {l : ClientLabel} (hl : l.isSendText = false)
    (hnext : client.next l = some (client'.select tasks')) (hparts : client'.parts = client.parts)
    (hOk : tasks'.csp.pc.isOk = false)
    (hending : ∀ result, tasks'.result = some result →
      Ending parts.stateDir client.phase l result) :
    Fits parts (ls ++ [l]) (client'.select tasks') where
  run := (machine P Q L).exec_concat h.run hnext
  parts_eq := (parts_select client' tasks').trans (hparts.trans h.parts_eq)
  live := client'.live_select tasks'
  isOk tasks'' hphase := by
    obtain rfl := Tracks.running_select hphase
    exact hOk
  ending result hphase := by
    refine ⟨ls, l, client, rfl, h.run, hending result ?_⟩
    rcases client'.select_cases tasks' with ⟨-, hrunning⟩ | ⟨result', hresult, hreturned⟩
    · rw [hphase] at hrunning
      cases hrunning
    · rw [hphase] at hreturned
      cases hreturned
      exact hresult
  texts := h.texts_concat hl hnext

/-- A step before the branches are started, or one that ends `run` by itself. -/
theorem own (h : Fits parts ls client) {l : ClientLabel} (hl : l.isSendText = false)
    (hnext : client.next l = some client') (hparts : client'.parts = client.parts)
    (hrunning : ∀ tasks, client'.phase = .running tasks → tasks = .start parts)
    (hending : ∀ result, client'.phase = .returned result →
      Ending parts.stateDir client.phase l result) :
    Fits parts (ls ++ [l]) client' where
  run := (machine P Q L).exec_concat h.run hnext
  parts_eq := hparts.trans h.parts_eq
  live := by
    intro tasks hphase
    rw [hrunning tasks hphase]
    rfl
  isOk tasks hphase := by
    rw [hrunning tasks hphase]
    rfl
  ending result hphase := ⟨ls, l, client, rfl, h.run, hending result hphase⟩
  texts := h.texts_concat hl hnext

/-- A step that ends `run` by itself. -/
theorem ends (h : Fits parts ls client) {l : ClientLabel} {result : Except String Unit}
    (hl : l.isSendText = false) (hnext : client.next l = some client')
    (hparts : client'.parts = client.parts) (hphase : client'.phase = .returned result)
    (hending : Ending parts.stateDir client.phase l result) : Fits parts (ls ++ [l]) client' := by
  refine h.own hl hnext hparts ?_ ?_
  · intro tasks hrunning
    cases hphase.symm.trans hrunning
  · intro result' hreturned
    cases hphase.symm.trans hreturned
    exact hending

theorem next (h : Fits parts ls client) {l : ClientLabel} (hl : client.next l = some client') :
    Fits parts (ls ++ [l]) client' := by
  cases step_of_next hl with
  | @setUpFailed part message hphase =>
      refine h.ends rfl hl rfl rfl ?_
      rw [h.parts_eq, hphase]
      exact .setUp part message
  | cspFailed message hphase => exact h.ends rfl hl rfl rfl (hphase ▸ .connectCsp message)
  | d2mFailed message hphase => exact h.ends rfl hl rfl rfl (hphase ▸ .connectD2m message)
  | connectedD2m receiver hphase =>
      refine h.own rfl hl (parts_send _ _) ?_ ?_
      · intro tasks hrunning
        cases hrunning
        rw [h.parts_eq]
      · intro result hreturned
        cases hreturned
  | @csp running running' l hphase hnext =>
      have hlive := h.live running hphase
      have hOk := h.isOk running hphase
      refine h.select rfl hl rfl (ClientTasks.isOk_nextCsp hnext hOk) ?_
      intro result hresult
      rw [hphase]
      exact ClientTasks.ending_of_nextCsp hlive hOk hnext hresult
  | @d2m running running' l hphase hnext =>
      have hlive := h.live running hphase
      have hOk : running'.csp.pc.isOk = false := by
        obtain ⟨-, d2m, chans, -, -, rfl⟩ := ClientTasks.nextD2m_eq_some hnext
        exact h.isOk running hphase
      refine h.select rfl hl rfl hOk ?_
      intro result hresult
      rw [hphase]
      exact ClientTasks.ending_of_nextD2m hlive hnext hresult
  | @driver running running' l sent hphase hnext hsent =>
      have hlive := h.live running hphase
      have hOk : running'.csp.pc.isOk = false := by
        obtain ⟨-, driver, csp, d2m, -, -, -, rfl⟩ := ClientTasks.nextDriver_eq_some hnext
        exact h.isOk running hphase
      refine h.select rfl hl (parts_send _ _) hOk ?_
      intro result hresult
      rw [hphase]
      exact ClientTasks.ending_of_nextDriver hlive hnext hresult
  | receiverDropped hphase =>
      refine ⟨(machine P Q L).exec_concat h.run hl, h.parts_eq, h.live, h.isOk, ?_,
        h.texts_concat rfl hl⟩
      intro result hreturned
      cases hphase.symm.trans hreturned
  | sendText recipient text hphase =>
      refine ⟨(machine P Q L).exec_concat h.run hl, h.parts_eq, h.live, h.isOk, ?_, ?_⟩
      · intro result hreturned
        cases hphase.symm.trans hreturned
      · rw [List.filter_append]
        exact (congrArg _ (List.append_nil _)).trans h.texts
  | @shutdown running command hphase =>
      cases command with
      | none => exact h.ends rfl hl rfl rfl (hphase ▸ .senderDropped running)
      | some command =>
          cases command with
          | sendText recipient text =>
              -- such a command leaves the client running
              simp only [Client.next, hphase, Option.some.injEq] at hl
              cases hphase.symm.trans (congrArg Client.phase hl)
          | shutdown => exact h.ends rfl hl rfl rfl (hphase ▸ .shutdown running)
  | _ =>
      refine h.own rfl hl rfl ?_ ?_
      · intro tasks hrunning
        cases hrunning
      · intro result hreturned
        cases hreturned

end Fits

theorem fits_exec {parts : ClientParts P Q L} {ls : List ClientLabel} {client : Client P Q L}
    (hrun : (machine P Q L).exec (start parts) ls = some client) : Fits parts ls client :=
  (machine P Q L).exec_history (Fits.start parts) (fun _ _ _ _ h hl => h.next hl) hrun

/-- After `run` has returned, nothing happens. -/
theorem next_of_hasReturned {client : Client P Q L} (h : client.hasReturned = true)
    (l : ClientLabel) : client.next l = none := by
  cases hphase : client.phase with
  | returned result => cases l <;> simp [next, hphase]
  | _ =>
      rw [hasReturned, hphase] at h
      cases h

/-- How a run ends: with its last step, and with `Ok` only by a command to shut down
or by the loss of the commands' sender.  The commands to send a text change
nothing. -/
theorem lifecycle {parts : ClientParts P Q L} {ls : List ClientLabel} {client : Client P Q L}
    (hrun : (machine P Q L).exec (start parts) ls = some client) :
    (∀ result, client.phase = .returned result →
      (∃ ls' l before, ls = ls' ++ [l] ∧ (machine P Q L).exec (start parts) ls' = some before ∧
        Ending parts.stateDir before.phase l result) ∧
        ∀ l, client.next l = none) ∧
      (machine P Q L).exec (start parts) (ls.filter fun l => !l.isSendText) = some client := by
  refine ⟨?_, (fits_exec hrun).texts⟩
  intro result hphase
  refine ⟨(fits_exec hrun).ending result hphase, next_of_hasReturned ?_⟩
  rw [hasReturned, hphase]

/-- A text is not sent, and the sender of the commands is dropped. -/
theorem lifecycle_senderDropped : ∃ ls' l before,
    setsUp ++ [.connectedD2m (.ok true), .command (some (.sendText (.contact "ECHOECHO") "hi")),
      .command none] = ls' ++ [l] ∧
    (machine _ _ _).exec (start (.sample fun _ => .error "invalid envelope")) ls' = some before ∧
    Ending "." before.phase l (.ok ()) := by
  obtain ⟨hends, -⟩ := @lifecycle _ _ _ (.sample fun _ => .error "invalid envelope")
    (setsUp ++ [.connectedD2m (.ok true),
      .command (some (.sendText (.contact "ECHOECHO") "hi")), .command none]) _ rfl
  exact (hends (.ok ()) rfl).1

end Client

/-! ## Deadlocks -/

/-- The two links of the driver. -/
inductive ClientLink where
  /-- With the chat server connection. -/
  | csp
  /-- With the mediator connection. -/
  | d2m
deriving DecidableEq, Repr

namespace ClientLink

/-- The label is a step of the driver or of the connection of the link. -/
def takesPart : ClientLink → ClientLabel → Bool
  | _, .driver _ => true
  | .csp, .csp _ => true
  | .d2m, .d2m _ => true
  | _, _ => false

/-- The result when the other connection ends. -/
def otherEnds : ClientLink → String → String
  | .csp, message => errorWithContext "D2M connection ended" message
  | .d2m, message => errorWithContext "CSP connection ended" message

end ClientLink

/-- The driver sends on one channel at a time. -/
theorem DriverPc.not_sends_both {pc : DriverPc} (hcsp : pc.outgoingCsp.isSome = true)
    (hd2m : pc.outgoingD2m.isSome = true) : False := by
  cases pc with
  | sendUnblock resume => cases hd2m
  | sendMessageAck messageAck => cases hd2m
  | _ => cases hcsp

/-- A driver that is suspended in a send makes no other step. -/
theorem Driver.label_of_outgoing {self self' : Driver L} {l : DriverLabel}
    (h : self.pc.outgoingCsp.isSome = true ∨ self.pc.outgoingD2m.isSome = true)
    (hl : self.next l = some self') :
    l = .sendFailed ∨ (∃ payload, l = .sentCsp payload ∧ self.pc.outgoingCsp = some payload) ∨
      ∃ payload, l = .sentD2m payload ∧ self.pc.outgoingD2m = some payload := by
  cases l with
  | sendFailed => exact .inl rfl
  | sentCsp payload =>
      simp only [next] at hl
      split at hl
      next hsend => exact .inr (.inl ⟨payload, rfl, hsend⟩)
      next => cases hl
  | sentD2m payload =>
      simp only [next] at hl
      split at hl
      next hsend => exact .inr (.inr ⟨payload, rfl, hsend⟩)
      next => cases hl
  | recvD2m payload =>
      cases payload <;> cases hpc : self.pc <;> simp [next, consumeD2m, hpc] at hl <;>
        simp [DriverPc.outgoingCsp, DriverPc.outgoingD2m, hpc] at h
  | provided data emitted =>
      cases hpc : self.pc <;> simp [next, DriverPc.inTask, hpc] at hl <;>
        simp [DriverPc.outgoingCsp, DriverPc.outgoingD2m, hpc] at h
  | _ =>
      cases hpc : self.pc <;> simp [next, hpc] at hl
      all_goals simp [DriverPc.outgoingCsp, DriverPc.outgoingD2m, hpc] at h

namespace ClientTasks

/-- The driver and the connection of the link are suspended in sends to each other,
both on a full channel. -/
def Deadlocked (tasks : ClientTasks P Q L) : ClientLink → Prop
  | .csp => ∃ pc, tasks.csp.pc = .payload pc ∧
      CspDeadlocked 4 ⟨⟨tasks.csp.protocol, pc⟩, tasks.driver, tasks.cspIncoming, tasks.cspOutgoing⟩
  | .d2m => ∃ pc, tasks.d2m.pc = .payload pc ∧
      D2mDeadlocked 16
        ⟨⟨tasks.d2m.protocol, pc⟩, tasks.driver, tasks.d2mIncoming, tasks.d2mOutgoing⟩

/-- The link is as it was. -/
def SameLink (tasks tasks' : ClientTasks P Q L) : ClientLink → Prop
  | .csp => tasks'.csp = tasks.csp ∧ tasks'.driver = tasks.driver ∧
      tasks'.cspIncoming = tasks.cspIncoming ∧ tasks'.cspOutgoing = tasks.cspOutgoing
  | .d2m => tasks'.d2m = tasks.d2m ∧ tasks'.driver = tasks.driver ∧
      tasks'.d2mIncoming = tasks.d2mIncoming ∧ tasks'.d2mOutgoing = tasks.d2mOutgoing

variable {tasks tasks' : ClientTasks P Q L} {link : ClientLink}

theorem SameLink.refl (tasks : ClientTasks P Q L) (link : ClientLink) :
    tasks.SameLink tasks link := by
  cases link <;> exact ⟨rfl, rfl, rfl, rfl⟩

theorem SameLink.trans {tasks'' : ClientTasks P Q L} (h : tasks.SameLink tasks' link)
    (h' : tasks'.SameLink tasks'' link) : tasks.SameLink tasks'' link := by
  cases link with
  | csp =>
      exact ⟨h'.1.trans h.1, h'.2.1.trans h.2.1, h'.2.2.1.trans h.2.2.1, h'.2.2.2.trans h.2.2.2⟩
  | d2m =>
      exact ⟨h'.1.trans h.1, h'.2.1.trans h.2.1, h'.2.2.1.trans h.2.2.1, h'.2.2.2.trans h.2.2.2⟩

theorem SameLink.deadlocked (h : tasks.SameLink tasks' link) (hdead : tasks.Deadlocked link) :
    tasks'.Deadlocked link := by
  cases link with
  | csp =>
      obtain ⟨hcsp, hdriver, hincoming, houtgoing⟩ := h
      rw [Deadlocked, hcsp, hdriver, hincoming, houtgoing]
      exact hdead
  | d2m =>
      obtain ⟨hd2m, hdriver, hincoming, houtgoing⟩ := h
      rw [Deadlocked, hd2m, hdriver, hincoming, houtgoing]
      exact hdead

/-- The driver has something to send, and no room. -/
theorem Deadlocked.sending (h : tasks.Deadlocked link) :
    (tasks.driver.pc.outgoingCsp.isSome = true ∧ 4 ≤ tasks.cspOutgoing.length ∧
        tasks.csp.pc.hasEnded = false) ∨
      (tasks.driver.pc.outgoingD2m.isSome = true ∧ 16 ≤ tasks.d2mOutgoing.length ∧
        tasks.d2m.pc.hasEnded = false) := by
  cases link with
  | csp =>
      obtain ⟨pc, hpc, hforwarding, -, hsending, hfull⟩ := h
      refine .inl ⟨hsending, hfull, ?_⟩
      rw [hpc]
      cases pc <;> first | rfl | cases hforwarding
  | d2m =>
      obtain ⟨pc, hpc, hforwarding, -, hsending, hfull⟩ := h
      refine .inr ⟨hsending, hfull, ?_⟩
      rw [hpc]
      cases pc <;> first | rfl | cases hforwarding

/-- A driver that is suspended in a send on a full channel makes no step, while the
connection holds the other end. -/
theorem nextDriver_of_full
    (h : tasks.driver.pc.outgoingCsp.isSome = true ∧ 4 ≤ tasks.cspOutgoing.length ∧
        tasks.csp.pc.hasEnded = false ∨
      tasks.driver.pc.outgoingD2m.isSome = true ∧ 16 ≤ tasks.d2mOutgoing.length ∧
        tasks.d2m.pc.hasEnded = false) (l : DriverLabel) : tasks.nextDriver l = none := by
  refine Option.eq_none_iff_forall_ne_some.mpr ?_
  intro tasks' hl
  obtain ⟨hallows, driver, csp, d2m, hdriver, hcsp, hd2m, -⟩ := nextDriver_eq_some hl
  rcases h with ⟨hsending, hfull, hopen⟩ | ⟨hsending, hfull, hopen⟩
  · rcases Driver.label_of_outgoing (.inl hsending) hdriver with
      rfl | ⟨payload, rfl, hpayload⟩ | ⟨payload, rfl, hpayload⟩
    · simp only [allows, hopen, Bool.and_false, Bool.false_or, Bool.and_eq_true] at hallows
      exact DriverPc.not_sends_both hsending hallows.1
    · exact absurd (Link.room_of_transfer hcsp) (Nat.not_lt.mpr hfull)
    · exact DriverPc.not_sends_both hsending (by rw [hpayload]; rfl)
  · rcases Driver.label_of_outgoing (.inr hsending) hdriver with
      rfl | ⟨payload, rfl, hpayload⟩ | ⟨payload, rfl, hpayload⟩
    · simp only [allows, hopen, Bool.and_false, Bool.or_false, Bool.and_eq_true] at hallows
      exact DriverPc.not_sends_both hallows.1 hsending
    · exact DriverPc.not_sends_both (by rw [hpayload]; rfl) hsending
    · exact absurd (Link.room_of_transfer hd2m) (Nat.not_lt.mpr hfull)

/-- The driver is not through with its send. -/
theorem Deadlocked.nextDriver (h : tasks.Deadlocked link) (l : DriverLabel) :
    tasks.nextDriver l = none :=
  nextDriver_of_full h.sending l

/-- The connection is not through with its send either. -/
theorem Deadlocked.nextCsp (h : tasks.Deadlocked .csp) (l : CspSessionLabel) :
    tasks.nextCsp l = none := by
  refine Option.eq_none_iff_forall_ne_some.mpr ?_
  intro tasks' hl
  obtain ⟨hfailed, -, -, csp, ⟨incoming, outgoing⟩, hcsp, hchans, -⟩ := nextCsp_eq_some hl
  obtain ⟨pc, hpc, hforwarding, hfull, -⟩ := h
  cases pc with
  | forward payload frame =>
      cases l with
      | handshake l => simp [CspSession.next, hpc] at hcsp
      | shutdown error => simp [CspSession.next, hpc] at hcsp
      | payload l =>
          cases l with
          | sentIncoming payload' =>
              exact absurd (Link.room_of_transfer hchans) (Nat.not_lt.mpr hfull)
          | sendFailed => exact hfailed rfl
          | _ => simp [CspSession.next, CspRunner.next, hpc] at hcsp
  | _ => cases hforwarding

theorem Deadlocked.nextD2m (h : tasks.Deadlocked .d2m) (l : D2mSessionLabel) :
    tasks.nextD2m l = none := by
  refine Option.eq_none_iff_forall_ne_some.mpr ?_
  intro tasks' hl
  obtain ⟨hfailed, d2m, ⟨incoming, outgoing⟩, hd2m, hchans, -⟩ := nextD2m_eq_some hl
  obtain ⟨pc, hpc, hforwarding, hfull, -⟩ := h
  cases pc with
  | forward payload datagram =>
      cases l with
      | handshake l => simp [D2mSession.next, hpc] at hd2m
      | shutdown error => simp [D2mSession.next, hpc] at hd2m
      | payload l =>
          cases l with
          | sentIncoming payload' =>
              exact absurd (Link.room_of_transfer hchans) (Nat.not_lt.mpr hfull)
          | sendFailed => exact hfailed rfl
          | _ => simp [D2mSession.next, D2mRunner.next, hpc] at hd2m
  | _ => cases hforwarding

/-- A step of the chat server connection is one of the other connection. -/
theorem Deadlocked.other_of_nextCsp (h : tasks.Deadlocked link) {l : CspSessionLabel}
    (hl : tasks.nextCsp l = some tasks') :
    link.takesPart (.csp l) = false ∧ tasks.SameLink tasks' link := by
  cases link with
  | csp =>
      rw [h.nextCsp] at hl
      cases hl
  | d2m =>
      obtain ⟨-, -, -, csp, chans, -, -, rfl⟩ := nextCsp_eq_some hl
      exact ⟨rfl, rfl, rfl, rfl, rfl⟩

/-- A step of the mediator connection is one of the other connection. -/
theorem Deadlocked.other_of_nextD2m (h : tasks.Deadlocked link) {l : D2mSessionLabel}
    (hl : tasks.nextD2m l = some tasks') :
    link.takesPart (.d2m l) = false ∧ tasks.SameLink tasks' link := by
  cases link with
  | csp =>
      obtain ⟨-, d2m, chans, -, -, rfl⟩ := nextD2m_eq_some hl
      exact ⟨rfl, rfl, rfl, rfl, rfl⟩
  | d2m =>
      rw [h.nextD2m] at hl
      cases hl

/-- A deadlocked `select!` can only end with the other connection. -/
theorem Deadlocked.result (h : tasks.Deadlocked link) (hOk : tasks.csp.pc.isOk = false)
    {result : Except String Unit} (hresult : tasks.result = some result) :
    ∃ message, result = .error (link.otherEnds message) := by
  have hdriver : ∀ message, tasks.driver.pc ≠ .returned message := by
    intro message hpc
    rcases h.sending with ⟨hsending, -⟩ | ⟨hsending, -⟩ <;> rw [hpc] at hsending <;> cases hsending
  cases link with
  | csp =>
      obtain ⟨pc, hpc, -⟩ := h
      rcases result_eq_some hresult with ⟨hreturned, -⟩ | ⟨message, hreturned, -⟩ |
        ⟨message, -, rfl⟩ | ⟨message, hreturned, -⟩
      · cases hpc.symm.trans hreturned
      · cases hpc.symm.trans hreturned
      · exact ⟨message, rfl⟩
      · exact absurd hreturned (hdriver message)
  | d2m =>
      obtain ⟨pc, hpc, -⟩ := h
      rcases result_eq_some hresult with ⟨hreturned, -⟩ | ⟨message, -, rfl⟩ |
        ⟨message, hreturned, -⟩ | ⟨message, hreturned, -⟩
      · rw [hreturned] at hOk
        cases hOk
      · exact ⟨message, rfl⟩
      · cases hpc.symm.trans hreturned
      · exact absurd hreturned (hdriver message)

end ClientTasks

namespace Client

variable {parts : ClientParts P Q L} {client client' : Client P Q L}
  {tasks tasks' : ClientTasks P Q L} {link : ClientLink} {ls ls' : List ClientLabel}

/-- Where a client is after a deadlock of its link. -/
structure Stalled (client : Client P Q L) (tasks : ClientTasks P Q L) (link : ClientLink)
    (ls : List ClientLabel) (client' : Client P Q L) : Prop where
  /-- The driver and its connection have made no step. -/
  still : ∀ l ∈ ls, link.takesPart l = false
  /-- No event has been sent. -/
  events_eq : client'.events = client.events
  /-- They wait for each other as before, or the run was ended from elsewhere. -/
  waits : (∃ tasks', client'.phase = .running tasks' ∧ tasks.SameLink tasks' link) ∨
    client'.phase = .returned (.ok ()) ∨
    ∃ message, client'.phase = .returned (.error (link.otherEnds message))

namespace Stalled

theorem start (hphase : client.phase = .running tasks) : Stalled client tasks link [] client where
  still := List.forall_mem_nil _
  events_eq := rfl
  waits := .inl ⟨tasks, hphase, .refl tasks link⟩

theorem still_concat (h : Stalled client tasks link ls client') {l : ClientLabel}
    (hl : link.takesPart l = false) : ∀ l' ∈ ls ++ [l], link.takesPart l' = false :=
  List.forall_mem_append.mpr ⟨h.still, List.forall_mem_singleton.mpr hl⟩

/-- A step of the other connection. -/
theorem select (h : Stalled client tasks link ls client') (hdead : tasks.Deadlocked link)
    {running running' : ClientTasks P Q L} (hsame : tasks.SameLink running link)
    (hsame' : running.SameLink running' link)
    (hOk : running'.csp.pc.isOk = false) {l : ClientLabel} (hl : link.takesPart l = false) :
    Stalled client tasks link (ls ++ [l]) (client'.select running') where
  still := h.still_concat hl
  events_eq := by
    rw [events_select]
    exact h.events_eq
  waits := by
    rcases client'.select_cases running' with ⟨-, hrunning⟩ | ⟨result, hresult, hreturned⟩
    · exact .inl ⟨running', hrunning, hsame.trans hsame'⟩
    · obtain ⟨message, rfl⟩ := ((hsame.trans hsame').deadlocked hdead).result hOk hresult
      exact .inr (.inr ⟨message, hreturned⟩)

/-- A step while the branches run.  Only the other connection and the embedder make one. -/
theorem next_running (h : Stalled client tasks link ls' client') (hdead : tasks.Deadlocked link)
    {running : ClientTasks P Q L} (hphase : client'.phase = .running running)
    (hsame : tasks.SameLink running link) (hOk : running.csp.pc.isOk = false)
    {client'' : Client P Q L} {l : ClientLabel} (hl : client'.next l = some client'') :
    Stalled client tasks link (ls' ++ [l]) client'' := by
  have hstuck := hsame.deadlocked hdead
  cases step_of_next hl with
  | csp hphase' hnext =>
      cases hphase.symm.trans hphase'
      obtain ⟨hother, hsame'⟩ := hstuck.other_of_nextCsp hnext
      exact h.select hdead hsame hsame' (ClientTasks.isOk_nextCsp hnext hOk) hother
  | d2m hphase' hnext =>
      cases hphase.symm.trans hphase'
      obtain ⟨hother, hsame'⟩ := hstuck.other_of_nextD2m hnext
      obtain ⟨-, d2m, chans, -, -, rfl⟩ := ClientTasks.nextD2m_eq_some hnext
      exact h.select hdead hsame hsame' hOk hother
  | driver hphase' hnext =>
      cases hphase.symm.trans hphase'
      rw [hstuck.nextDriver] at hnext
      cases hnext
  | sendText recipient text hphase' =>
      exact ⟨h.still_concat (by cases link <;> rfl), h.events_eq, h.waits⟩
  | shutdown command hphase' =>
      exact ⟨h.still_concat (by cases link <;> rfl), h.events_eq, .inr (.inl rfl)⟩
  | receiverDropped hphase' =>
      exact ⟨h.still_concat (by cases link <;> rfl), h.events_eq, h.waits⟩
  | _ =>
      have hphase' := ‹client'.phase = _›
      cases hphase.symm.trans hphase'

theorem next (h : Stalled client tasks link ls' client') (hdead : tasks.Deadlocked link)
    (hfits : Fits parts ls client') {client'' : Client P Q L} {l : ClientLabel}
    (hl : client'.next l = some client'') : Stalled client tasks link (ls' ++ [l]) client'' := by
  rcases h.waits with ⟨running, hphase, hsame⟩ | hreturned | ⟨message, hreturned⟩
  · exact h.next_running hdead hphase hsame (hfits.isOk running hphase) hl
  · rw [next_of_hasReturned (by rw [hasReturned, hreturned])] at hl
    cases hl
  · rw [next_of_hasReturned (by rw [hasReturned, hreturned])] at hl
    cases hl

end Stalled

/-- Once the driver and one of the connections wait for each other, neither makes a step
and no event is sent any more, in whatever way the run goes on.  It ends only by a
command or with the other connection. -/
theorem deadlock_final (hrun : (machine P Q L).exec (start parts) ls = some client)
    (hphase : client.phase = .running tasks) (hdead : tasks.Deadlocked link)
    (hrest : (machine P Q L).exec client ls' = some client') :
    Stalled client tasks link ls' client' := by
  refine ((machine P Q L).exec_history
    (I := fun ls' client' => Stalled client tasks link ls' client' ∧ Fits parts (ls ++ ls') client')
    ⟨.start hphase, ?_⟩ ?_ hrest).1
  · rw [List.append_nil]
    exact fits_exec hrun
  · rintro ls' client' l client'' ⟨h, hfits'⟩ hl
    refine ⟨h.next hdead hfits' hl, ?_⟩
    rw [← List.append_assoc]
    exact hfits'.next hl

/-- One read of ten messages, after both handshakes. -/
def bursts : List ClientLabel :=
  setsUp ++ .connectedD2m (.ok true) :: handshakes ++
    CspBurst.run.map (Sum.elim (fun l => .csp (.payload l)) .driver)

set_option maxRecDepth 4000 in
/-- The burst stalls the client, and it goes on only as far as the mediator connection
and the commands do. -/
theorem deadlock_final_bursts : ∃ client tasks client',
    (machine _ _ _).exec (start (.sample fun _ => .error "invalid envelope")) bursts = some client ∧
    client.phase = .running tasks ∧ tasks.Deadlocked .csp ∧
    (machine _ _ _).exec client [.d2m (.payload .turn), .command none] = some client' ∧
    Stalled client tasks .csp [.d2m (.payload .turn), .command none] client' := by
  obtain ⟨client, tasks, client', hrun, hphase, hdead, hrest⟩ : ∃ client tasks client',
      (machine _ _ _).exec (start (.sample fun _ => .error "invalid envelope")) bursts =
        some client ∧ client.phase = .running tasks ∧ tasks.Deadlocked .csp ∧
      (machine _ _ _).exec client [.d2m (.payload .turn), .command none] = some client' := by
    refine ⟨_, _, _, rfl, rfl, ?_, rfl⟩
    exact ⟨_, rfl, rfl, by decide, rfl, by decide⟩
  exact ⟨client, tasks, client', hrun, hphase, hdead, hrest,
    deadlock_final hrun hphase hdead hrest⟩

end Client

end MultideviceClient
