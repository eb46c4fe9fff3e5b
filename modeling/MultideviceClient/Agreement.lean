import MultideviceClient.Mediator

/-!
# The driver and the mediator agree

`Agrees` is the invariant of the driver against the mediator.  It fixes, for
every point of the driver, the replies that are under way and the holder of the
lock.

*The mediator.*  A step of the mediator moves a reply from the queued requests to
the queue of the driver, or adds a payload that is no reply (`MediatorStep`).
Neither changes the list of replies under way.  The lock changes hands only for a
request that is under way, or to and from another device
(`Agrees.mediatorStep`).

*The driver.*  A send adds to the end of the list (`inTransit_sent`).  A receive
takes its head, or nothing (`AgreesWait.receives`): what a wait receives is the
reply that it waits for, or no reply at all.
-/

namespace MultideviceClient

open Foundations

variable {L : Libthreema}

/-! ## The invariant -/

namespace Exchange

variable (s : Exchange)

/-- Another device holds the lock, or the end of its transaction is queued. -/
def EndComing : Prop :=
  s.lock ≠ .driver ∧
    (s.lock = .other ∨ ∃ deviceId encryptedScope,
      D2mIncomingPayload.transactionEnded deviceId encryptedScope ∈ s.toDriver)

/-- The reply to `BeginTransaction` is under way, and nothing else.  Behind a
rejection, the end of the other transaction is still to come. -/
inductive BeginReply : Prop where
  | requested (hDriver : s.toDriver.filterMap D2mIncomingPayload.answers = [])
      (hMediator : s.toMediator.filterMap D2mOutgoingPayload.request = [.beginTransaction])
      (hlock : s.lock ≠ .driver)
  | granted (before after : List D2mIncomingPayload)
      (hqueue : s.toDriver = before ++ .beginTransactionAck :: after)
      (hbefore : before.filterMap D2mIncomingPayload.answers = [])
      (hafter : after.filterMap D2mIncomingPayload.answers = [])
      (hMediator : s.toMediator.filterMap D2mOutgoingPayload.request = [])
      (hlock : s.lock = .driver)
  | rejected (before after : List D2mIncomingPayload) (deviceId : UInt64) (encryptedScope : Bytes)
      (hqueue : s.toDriver = before ++ .transactionRejected deviceId encryptedScope :: after)
      (hbefore : before.filterMap D2mIncomingPayload.answers = [])
      (hafter : after.filterMap D2mIncomingPayload.answers = [])
      (hMediator : s.toMediator.filterMap D2mOutgoingPayload.request = [])
      (hend : EndComing { s with toDriver := after })

/-- The acknowledgements of reflected messages and of the commit are under way.
The lock is this device's until the mediator handles the commit. -/
def CommitReply (left : List UInt32) : Prop :=
  s.inTransit = left.map .reflect ++ [.commitTransaction] ∧
    (s.lock = .driver ↔ s.toMediator.filterMap D2mOutgoingPayload.request ≠ [])

/-- What a wait can count on. -/
def AgreesWait : Wait → Prop
  | .transactionEnded => s.phase = .retry ∧ s.inTransit = [] ∧ s.EndComing
  | .beginReply _ => s.BeginReply
  | .abortAck _ => s.CommitReply []
  | .commitAck _ acknowledged => ∃ left, acknowledged ++ left = s.reflectIds ∧ s.CommitReply left
  | .reflectAcks pending acknowledged =>
      s.phase = .idle ∧ s.lock ≠ .driver ∧
        ∃ left, acknowledged ++ left = s.reflectIds ∧ left.length = pending ∧ 0 < pending ∧
          s.inTransit = left.map .reflect

/-- A response is that of the mediator. -/
def AgreesResponse : IncomingMessageResponse → Prop
  | .fetchSender => s.phase = .idle ∧ s.lock ≠ .driver
  | .reflectMessage acknowledged =>
      s.phase = .idle ∧ s.lock ≠ .driver ∧ acknowledged = s.reflectIds
  | .contacts _ (.beginTransactionReply .beginTransactionAck) => s.lock = .driver
  | .contacts _ (.beginTransactionReply (.transactionRejected _ _)) => s.EndComing
  | .contacts _ .abortTransactionResponse => s.lock ≠ .driver
  | .contacts _ (.commitTransactionResponse acknowledged) =>
      s.lock ≠ .driver ∧ acknowledged = s.reflectIds

/-- The lock when the task is about to be polled. -/
def AgreesPhase : TaskPhase → Prop
  | .idle => s.lock ≠ .driver
  | .retry => s.lock ≠ .driver
  | .rejected => s.EndComing
  | .holding => s.lock = .driver
  | .begun => False
  | .closing => False

/-- What follows the reflected messages fits the transaction. -/
def AgreesGoal : ReflectGoal → Prop
  | .commit _ => s.lock = .driver
  | .acks pending => s.phase = .idle ∧ s.lock ≠ .driver ∧ pending = s.reflectIds.length

/-- The exchange fits the point where the driver is, the handling of unsolicited
payloads apart. -/
def Agrees : DriverPc → Prop
  | .top => s.inTransit = [] ∧ s.AgreesPhase s.phase
  | .fetchSender => s.inTransit = [] ∧ s.phase = .idle ∧ s.lock ≠ .driver
  | .nextD2mIncoming wait => s.AgreesWait wait
  | .respond response => s.inTransit = [] ∧ s.AgreesResponse response
  | .sendMessageAck _ => s.inTransit = [] ∧ s.phase = .idle ∧ s.lock ≠ .driver
  | .sendBeginTransaction _ _ _ => s.inTransit = [] ∧ s.lock ≠ .driver
  | .sendReflect payload rest goal =>
      ∃ sent, sent ++ MultideviceClient.reflectIds (payload :: rest) = s.reflectIds ∧
        s.inTransit = sent.map .reflect ∧ s.AgreesGoal goal
  | .sendCommitTransaction (.abortAck _) => s.inTransit = [] ∧ s.lock = .driver
  | .sendCommitTransaction (.commitAck _ acknowledged) =>
      acknowledged = [] ∧ s.inTransit = s.reflectIds.map .reflect ∧ s.lock = .driver
  | .sendCommitTransaction _ => False
  | .updateD2mState _ => False
  | .sendUnblock _ => False
  | .sendReflectedAck _ _ => False
  | .returned _ => True

end Exchange

/-! ## Steps of the mediator -/

namespace Exchange

/-- Everything a step of the mediator can do. -/
inductive MediatorStep (s : Exchange) : Exchange → Prop where
  | quiet (toMediator : List D2mOutgoingPayload) (added : List D2mIncomingPayload) (lock : Lock)
      (hrequests : s.toMediator.filterMap D2mOutgoingPayload.request =
        toMediator.filterMap D2mOutgoingPayload.request)
      (hadded : added.filterMap D2mIncomingPayload.answers = [])
      (hholder : lock = .driver ↔ s.lock = .driver)
      (hother : s.lock = .other → lock = .other ∨ ∃ deviceId encryptedScope,
        D2mIncomingPayload.transactionEnded deviceId encryptedScope ∈ added) :
      MediatorStep s
        { s with toMediator := toMediator, toDriver := s.toDriver ++ added, lock := lock }
  | reflectAck (toMediator : List D2mOutgoingPayload) (reflectId : UInt32)
      (hrequests : s.toMediator.filterMap D2mOutgoingPayload.request =
        .reflect reflectId :: toMediator.filterMap D2mOutgoingPayload.request) :
      MediatorStep s
        { s with toMediator := toMediator, toDriver := s.toDriver ++ [.reflectAck reflectId] }
  | granted (toMediator : List D2mOutgoingPayload)
      (hrequests : s.toMediator.filterMap D2mOutgoingPayload.request =
        .beginTransaction :: toMediator.filterMap D2mOutgoingPayload.request)
      (hfree : s.lock = .free) :
      MediatorStep s
        { s with
          toMediator := toMediator
          toDriver := s.toDriver ++ [.beginTransactionAck]
          lock := .driver }
  | rejected (toMediator : List D2mOutgoingPayload) (deviceId : UInt64) (encryptedScope : Bytes)
      (hrequests : s.toMediator.filterMap D2mOutgoingPayload.request =
        .beginTransaction :: toMediator.filterMap D2mOutgoingPayload.request)
      (hheld : s.lock ≠ .free) :
      MediatorStep s
        { s with
          toMediator := toMediator
          toDriver := s.toDriver ++ [.transactionRejected deviceId encryptedScope] }
  | committed (toMediator : List D2mOutgoingPayload) (lock : Lock)
      (hrequests : s.toMediator.filterMap D2mOutgoingPayload.request =
        .commitTransaction :: toMediator.filterMap D2mOutgoingPayload.request)
      (hlock : lock ≠ .driver) :
      MediatorStep s
        { s with
          toMediator := toMediator
          toDriver := s.toDriver ++ [.commitTransactionAck]
          lock := lock }

theorem mediatorStep_of_handle {s : Exchange} {payload : D2mOutgoingPayload}
    {toMediator : List D2mOutgoingPayload} (h : s.toMediator = payload :: toMediator)
    (deviceId : UInt64) (encryptedScope : Bytes) :
    s.MediatorStep
      { s with
        toMediator := toMediator
        toDriver := s.toDriver ++ (s.lock.handle deviceId encryptedScope payload).2
        lock := (s.lock.handle deviceId encryptedScope payload).1 } := by
  obtain ⟨phase, ids, queue, toDriver, lock⟩ := s
  cases h
  cases payload with
  | beginTransaction scope ttl =>
      cases lock with
      | free => exact .granted toMediator rfl rfl
      | driver => exact .rejected toMediator deviceId encryptedScope rfl nofun
      | other => exact .rejected toMediator deviceId encryptedScope rfl nofun
  | commitTransaction =>
      cases lock with
      | free => exact .committed toMediator .free rfl nofun
      | driver => exact .committed toMediator .free rfl nofun
      | other => exact .committed toMediator .other rfl nofun
  | reflect ephemeral reflectId envelope =>
      cases ephemeral with
      | true => exact .quiet toMediator [] lock rfl rfl Iff.rfl .inl
      | false => exact .reflectAck toMediator reflectId rfl
  | reflectedAck reflectId => exact .quiet toMediator [] lock rfl rfl Iff.rfl .inl

theorem mediatorStep_of_next {s s' : Exchange} {l : MediatorLabel} (h : s.next l = some s') :
    s.MediatorStep s' := by
  cases l with
  | handle deviceId encryptedScope =>
      simp only [next] at h
      split at h <;> cases h
      next payload toMediator hqueue =>
          exact mediatorStep_of_handle hqueue deviceId encryptedScope
  | otherBegins =>
      simp only [next] at h
      split at h <;> cases h
      next hfree =>
          have hstep := MediatorStep.quiet s.toMediator [] .other rfl rfl
            (iff_of_false nofun (by rw [hfree]; nofun)) (fun _ => .inl rfl)
          rwa [List.append_nil] at hstep
  | otherEnds deviceId encryptedScope =>
      simp only [next] at h
      split at h <;> cases h
      next hother =>
          exact .quiet s.toMediator [.transactionEnded deviceId encryptedScope] .free rfl rfl
            (iff_of_false nofun (by rw [hother]; nofun))
            (fun _ => .inr ⟨deviceId, encryptedScope, List.mem_singleton_self _⟩)
  | sends payload =>
      simp only [next] at h
      split at h <;> cases h
      next hun =>
          refine .quiet s.toMediator [payload] s.lock rfl ?_ Iff.rfl .inl
          cases payload <;> first | rfl | cases hun

/-- A step of the mediator keeps the replies under way. -/
theorem inTransit_mediatorStep {s s' : Exchange} (h : s.MediatorStep s') :
    s'.inTransit = s.inTransit := by
  cases h with
  | quiet toMediator added lock hrequests hadded hholder hother =>
      simp only [inTransit, List.filterMap_append, hadded, hrequests, List.append_nil]
  | reflectAck toMediator reflectId hrequests =>
      simp [inTransit, hrequests, D2mIncomingPayload.answers]
  | granted toMediator hrequests hfree =>
      simp [inTransit, hrequests, D2mIncomingPayload.answers]
  | rejected toMediator deviceId encryptedScope hrequests hheld =>
      simp [inTransit, hrequests, D2mIncomingPayload.answers]
  | committed toMediator lock hrequests hlock =>
      simp [inTransit, hrequests, D2mIncomingPayload.answers]

theorem phase_mediatorStep {s s' : Exchange} (h : s.MediatorStep s') : s'.phase = s.phase := by
  cases h <;> rfl

theorem reflectIds_mediatorStep {s s' : Exchange} (h : s.MediatorStep s') :
    s'.reflectIds = s.reflectIds := by
  cases h <;> rfl

theorem mem_inTransit_of_requests {s : Exchange} {request : Request} {requests : List Request}
    (h : s.toMediator.filterMap D2mOutgoingPayload.request = request :: requests) :
    request ∈ s.inTransit := by
  rw [inTransit, h]
  exact List.mem_append_right _ (List.mem_cons_self ..)

/-- While only reflected messages are under way, this device neither gets the
lock nor loses it. -/
theorem holder_mediatorStep {s s' : Exchange} (h : s.MediatorStep s') (ids : List UInt32)
    (htransit : s.inTransit = ids.map .reflect) : s'.lock = .driver ↔ s.lock = .driver := by
  have hreflect : ∀ {request requests},
      s.toMediator.filterMap D2mOutgoingPayload.request = request :: requests →
        ∃ reflectId, Request.reflect reflectId = request := by
    intro request requests hrequests
    have hmem := mem_inTransit_of_requests hrequests
    rw [htransit, List.mem_map] at hmem
    obtain ⟨reflectId, -, heq⟩ := hmem
    exact ⟨reflectId, heq⟩
  cases h with
  | quiet toMediator added lock hrequests hadded hholder hother => exact hholder
  | reflectAck toMediator reflectId hrequests => exact Iff.rfl
  | granted toMediator hrequests hfree => exact nomatch hreflect hrequests
  | rejected toMediator deviceId encryptedScope hrequests hheld => exact Iff.rfl
  | committed toMediator lock hrequests hlock => exact nomatch hreflect hrequests

theorem EndComing.append {s : Exchange} (h : s.EndComing) (toMediator : List D2mOutgoingPayload)
    {added : List D2mIncomingPayload} {lock : Lock}
    (hholder : lock = .driver ↔ s.lock = .driver)
    (hother : s.lock = .other → lock = .other ∨ ∃ deviceId encryptedScope,
      D2mIncomingPayload.transactionEnded deviceId encryptedScope ∈ added) :
    EndComing
      { s with toMediator := toMediator, toDriver := s.toDriver ++ added, lock := lock } := by
  obtain ⟨hlock, hend⟩ := h
  refine ⟨fun heq => hlock (hholder.mp heq), ?_⟩
  rcases hend with hlockOther | ⟨deviceId, encryptedScope, hmem⟩
  · rcases hother hlockOther with hlock' | ⟨deviceId, encryptedScope, hmem⟩
    · exact .inl hlock'
    · exact .inr ⟨deviceId, encryptedScope, List.mem_append_right _ hmem⟩
  · exact .inr ⟨deviceId, encryptedScope, List.mem_append_left _ hmem⟩

theorem EndComing.mediatorStep {s s' : Exchange} (h : s.EndComing) (hstep : s.MediatorStep s')
    (htransit : s.inTransit = []) : s'.EndComing := by
  have hnone : ∀ {request requests},
      s.toMediator.filterMap D2mOutgoingPayload.request ≠ request :: requests := by
    intro request requests hrequests
    have hmem := mem_inTransit_of_requests hrequests
    rw [htransit] at hmem
    cases hmem
  cases hstep with
  | quiet toMediator added lock hrequests hadded hholder hother =>
      exact h.append toMediator hholder hother
  | reflectAck toMediator reflectId hrequests => exact absurd hrequests hnone
  | granted toMediator hrequests hfree => exact absurd hrequests hnone
  | rejected toMediator deviceId encryptedScope hrequests hheld => exact absurd hrequests hnone
  | committed toMediator lock hrequests hlock => exact absurd hrequests hnone

theorem BeginReply.mediatorStep {s s' : Exchange} (h : s.BeginReply) (hstep : s.MediatorStep s') :
    s'.BeginReply := by
  cases h with
  | requested hDriver hMediator hlock =>
      cases hstep with
      | quiet toMediator added lock hrequests hadded hholder hother =>
          refine .requested ?_ (hrequests.symm.trans hMediator) (fun heq => hlock (hholder.mp heq))
          rw [List.filterMap_append, hDriver, hadded, List.append_nil]
      | reflectAck toMediator reflectId hrequests => cases hMediator.symm.trans hrequests
      | granted toMediator hrequests hfree =>
          have hrest := List.tail_eq_of_cons_eq (hMediator.symm.trans hrequests)
          exact .granted s.toDriver [] rfl hDriver rfl hrest.symm rfl
      | rejected toMediator deviceId encryptedScope hrequests hheld =>
          have hrest := List.tail_eq_of_cons_eq (hMediator.symm.trans hrequests)
          have hother : s.lock = .other := by
            cases hholder : s.lock with
            | free => exact absurd hholder hheld
            | driver => exact absurd hholder hlock
            | other => rfl
          exact .rejected s.toDriver [] deviceId encryptedScope rfl hDriver rfl hrest.symm
            ⟨hlock, .inl hother⟩
      | committed toMediator lock hrequests hlock => cases hMediator.symm.trans hrequests
  | granted before after hqueue hbefore hafter hMediator hlock =>
      cases hstep with
      | quiet toMediator added lock hrequests hadded hholder hother =>
          refine .granted before (after ++ added) ?_ hbefore ?_ (hrequests.symm.trans hMediator)
            (hholder.mpr hlock)
          · rw [hqueue, List.append_assoc, List.cons_append]
          · rw [List.filterMap_append, hafter, hadded, List.append_nil]
      | reflectAck toMediator reflectId hrequests => cases hMediator.symm.trans hrequests
      | granted toMediator hrequests hfree => cases hMediator.symm.trans hrequests
      | rejected toMediator deviceId encryptedScope hrequests hheld =>
          cases hMediator.symm.trans hrequests
      | committed toMediator lock hrequests hlock => cases hMediator.symm.trans hrequests
  | rejected before after deviceId encryptedScope hqueue hbefore hafter hMediator hend =>
      cases hstep with
      | quiet toMediator added lock hrequests hadded hholder hother =>
          refine .rejected before (after ++ added) deviceId encryptedScope ?_ hbefore ?_
            (hrequests.symm.trans hMediator) (hend.append toMediator hholder hother)
          · rw [hqueue, List.append_assoc, List.cons_append]
          · rw [List.filterMap_append, hafter, hadded, List.append_nil]
      | reflectAck toMediator reflectId hrequests => cases hMediator.symm.trans hrequests
      | granted toMediator hrequests hfree => cases hMediator.symm.trans hrequests
      | rejected toMediator deviceId encryptedScope hrequests hheld =>
          cases hMediator.symm.trans hrequests
      | committed toMediator lock hrequests hlock => cases hMediator.symm.trans hrequests

/-- A list of reflected messages and a commit holds no other request. -/
theorem not_mem_commit {left : List UInt32} :
    Request.beginTransaction ∉ left.map .reflect ++ [.commitTransaction] := by
  simp

theorem CommitReply.mediatorStep {s s' : Exchange} {left : List UInt32} (h : s.CommitReply left)
    (hstep : s.MediatorStep s') : s'.CommitReply left := by
  obtain ⟨htransit, hlock⟩ := h
  refine ⟨(inTransit_mediatorStep hstep).trans htransit, ?_⟩
  cases hstep with
  | quiet toMediator added lock hrequests hadded hholder hother =>
      rw [hholder, hlock, hrequests]
  | reflectAck toMediator reflectId hrequests =>
      have hours : s.lock = .driver := hlock.mpr (by rw [hrequests]; exact List.cons_ne_nil _ _)
      refine iff_of_true hours fun hnil => ?_
      -- The commit is behind the reflected message.
      rw [inTransit, hrequests, hnil] at htransit
      have hlast := congrArg List.getLast? htransit
      simp at hlast
  | granted toMediator hrequests hfree =>
      have hmem := mem_inTransit_of_requests hrequests
      rw [htransit] at hmem
      exact absurd hmem not_mem_commit
  | rejected toMediator deviceId encryptedScope hrequests hheld =>
      have hmem := mem_inTransit_of_requests hrequests
      rw [htransit] at hmem
      exact absurd hmem not_mem_commit
  | committed toMediator lock hrequests hlock' =>
      refine iff_of_false hlock' (not_not.mpr ?_)
      by_contra hne
      -- A request behind the commit would make the commit a reflected message.
      rw [inTransit, hrequests] at htransit
      have hinit := congrArg List.dropLast htransit
      rw [List.dropLast_append_of_ne_nil (List.cons_ne_nil _ _), List.dropLast_cons_of_ne_nil hne,
        List.dropLast_concat] at hinit
      have hmem : Request.commitTransaction ∈ left.map Request.reflect := by
        rw [← hinit]
        exact List.mem_append_right _ (List.mem_cons_self ..)
      simp at hmem

theorem AgreesWait.mediatorStep {s s' : Exchange} (hstep : s.MediatorStep s') {wait : Wait}
    (h : s.AgreesWait wait) : s'.AgreesWait wait := by
  have htransit := inTransit_mediatorStep hstep
  have hphase := phase_mediatorStep hstep
  have hids := reflectIds_mediatorStep hstep
  cases wait with
  | transactionEnded =>
      obtain ⟨hretry, hnone, hend⟩ := h
      exact ⟨hphase.trans hretry, htransit.trans hnone, hend.mediatorStep hstep hnone⟩
  | beginReply task => exact BeginReply.mediatorStep h hstep
  | abortAck task => exact CommitReply.mediatorStep h hstep
  | commitAck task acknowledged =>
      obtain ⟨left, hleft, hcommit⟩ := h
      exact ⟨left, hleft.trans hids.symm, hcommit.mediatorStep hstep⟩
  | reflectAcks pending acknowledged =>
      obtain ⟨hidle, hlock, left, hleft, hlength, hpos, hacks⟩ := h
      exact ⟨hphase.trans hidle, (holder_mediatorStep hstep left hacks).not.mpr hlock, left,
        hleft.trans hids.symm, hlength, hpos, htransit.trans hacks⟩

theorem AgreesResponse.mediatorStep {s s' : Exchange} (hstep : s.MediatorStep s')
    (hnone : s.inTransit = []) {response : IncomingMessageResponse}
    (h : s.AgreesResponse response) : s'.AgreesResponse response := by
  have hholder := holder_mediatorStep hstep [] hnone
  have hphase := phase_mediatorStep hstep
  have hids := reflectIds_mediatorStep hstep
  cases response with
  | fetchSender => exact ⟨hphase.trans h.1, hholder.not.mpr h.2⟩
  | reflectMessage acknowledged =>
      exact ⟨hphase.trans h.1, hholder.not.mpr h.2.1, h.2.2.trans hids.symm⟩
  | contacts task response =>
      cases response with
      | beginTransactionReply reply =>
          cases reply with
          | beginTransactionAck => exact hholder.mpr h
          | transactionRejected deviceId encryptedScope =>
              exact EndComing.mediatorStep h hstep hnone
      | abortTransactionResponse => exact hholder.not.mpr h
      | commitTransactionResponse acknowledged =>
          exact ⟨hholder.not.mpr h.1, h.2.trans hids.symm⟩

theorem AgreesPhase.mediatorStep {s s' : Exchange} (hstep : s.MediatorStep s')
    (hnone : s.inTransit = []) {phase : TaskPhase} (h : s.AgreesPhase phase) :
    s'.AgreesPhase phase := by
  have hholder := holder_mediatorStep hstep [] hnone
  cases phase with
  | idle => exact hholder.not.mpr h
  | retry => exact hholder.not.mpr h
  | rejected => exact EndComing.mediatorStep h hstep hnone
  | holding => exact hholder.mpr h
  | begun => exact h
  | closing => exact h

/-- A step of the mediator keeps the exchange fit for the driver. -/
theorem Agrees.mediatorStep {s s' : Exchange} (hstep : s.MediatorStep s') {pc : DriverPc}
    (h : s.Agrees pc) : s'.Agrees pc := by
  have htransit := inTransit_mediatorStep hstep
  have hphase := phase_mediatorStep hstep
  have hids := reflectIds_mediatorStep hstep
  cases pc with
  | top =>
      refine ⟨htransit.trans h.1, ?_⟩
      rw [hphase]
      exact AgreesPhase.mediatorStep hstep h.1 h.2
  | fetchSender =>
      exact ⟨htransit.trans h.1, hphase.trans h.2.1,
        (holder_mediatorStep hstep [] h.1).not.mpr h.2.2⟩
  | nextD2mIncoming wait => exact AgreesWait.mediatorStep hstep h
  | respond response => exact ⟨htransit.trans h.1, AgreesResponse.mediatorStep hstep h.1 h.2⟩
  | sendMessageAck messageAck =>
      exact ⟨htransit.trans h.1, hphase.trans h.2.1,
        (holder_mediatorStep hstep [] h.1).not.mpr h.2.2⟩
  | sendBeginTransaction task encryptedScope ttl =>
      exact ⟨htransit.trans h.1, (holder_mediatorStep hstep [] h.1).not.mpr h.2⟩
  | sendReflect payload rest goal =>
      obtain ⟨sent, hsent, hacks, hgoal⟩ := h
      have hholder := holder_mediatorStep hstep sent hacks
      refine ⟨sent, hsent.trans hids.symm, htransit.trans hacks, ?_⟩
      cases goal with
      | commit task => exact hholder.mpr hgoal
      | acks pending =>
          exact ⟨hphase.trans hgoal.1, hholder.not.mpr hgoal.2.1, by rw [hids]; exact hgoal.2.2⟩
  | sendCommitTransaction wait =>
      cases wait with
      | abortAck task =>
          exact ⟨htransit.trans h.1, (holder_mediatorStep hstep [] h.1).mpr h.2⟩
      | commitAck task acknowledged =>
          obtain ⟨hnil, hacks, hlock⟩ := h
          exact ⟨hnil, by rw [htransit, hids]; exact hacks,
            (holder_mediatorStep hstep s.reflectIds hacks).mpr hlock⟩
      | _ => exact h
  | _ => exact h

/-! ## Steps of the driver -/

/-! ### Receiving -/

theorem inTransit_received {s : Exchange} {payload : D2mIncomingPayload}
    {toDriver : List D2mIncomingPayload} (hqueue : s.toDriver = payload :: toDriver) :
    s.inTransit = payload.answers.toList ++ inTransit { s with toDriver := toDriver } := by
  simp only [inTransit, hqueue, List.filterMap_cons]
  cases payload.answers <;> rfl

theorem received_of_nil {s : Exchange} {payload : D2mIncomingPayload}
    {toDriver : List D2mIncomingPayload} (hqueue : s.toDriver = payload :: toDriver)
    (h : s.inTransit = []) :
    payload.answers = none ∧ inTransit { s with toDriver := toDriver } = [] := by
  rw [inTransit_received hqueue, List.append_eq_nil_iff] at h
  exact ⟨Option.toList_eq_nil_iff.mp h.1, h.2⟩

/-- The payload that is received is the first reply under way, or none at all. -/
theorem received_of_cons {s : Exchange} {payload : D2mIncomingPayload}
    {toDriver : List D2mIncomingPayload} (hqueue : s.toDriver = payload :: toDriver)
    {request : Request} {requests : List Request} (h : s.inTransit = request :: requests) :
    payload.answers = none ∧ inTransit { s with toDriver := toDriver } = request :: requests ∨
      payload.answers = some request ∧ inTransit { s with toDriver := toDriver } = requests := by
  rw [inTransit_received hqueue] at h
  cases hanswers : payload.answers with
  | none => exact .inl ⟨rfl, by rw [hanswers] at h; exact h⟩
  | some request' =>
      rw [hanswers] at h
      cases h
      exact .inr ⟨rfl, rfl⟩

theorem eq_commitTransactionAck {payload : D2mIncomingPayload}
    (h : payload.answers = some .commitTransaction) : payload = .commitTransactionAck := by
  cases payload <;> first | rfl | cases h

theorem eq_reflectAck {payload : D2mIncomingPayload} {reflectId : UInt32}
    (h : payload.answers = some (.reflect reflectId)) : payload = .reflectAck reflectId := by
  cases payload <;> first | cases h; rfl | cases h

theorem answers_of_cons_eq_nil {payload : D2mIncomingPayload} {queue : List D2mIncomingPayload}
    (h : (payload :: queue).filterMap D2mIncomingPayload.answers = []) :
    payload.answers = none ∧ queue.filterMap D2mIncomingPayload.answers = [] := by
  rw [List.filterMap_cons] at h
  cases hanswers : payload.answers with
  | none => exact ⟨rfl, by rw [hanswers] at h; exact h⟩
  | some request => rw [hanswers] at h; cases h

/-- Only the end of a transaction is waited for without being a reply. -/
theorem accept_of_answers_none {wait : Wait} {payload : D2mIncomingPayload}
    (h : payload.answers = none) (hwait : wait ≠ .transactionEnded) :
    wait.accept payload = none := by
  cases payload <;> cases wait <;> first | rfl | exact absurd rfl hwait | cases h

/-- A payload is accepted by a wait and leads to where the exchange fits, or it
is no reply and the wait goes on. -/
def Receives (s : Exchange) (wait : Wait) (payload : D2mIncomingPayload) : Prop :=
  match wait.accept payload with
  | some pc => s.Agrees pc
  | none => payload.answers = none ∧ s.AgreesWait wait

theorem receives_accept {s : Exchange} {wait : Wait} {payload : D2mIncomingPayload} {pc : DriverPc}
    (haccept : wait.accept payload = some pc) (h : s.Agrees pc) : s.Receives wait payload := by
  rw [Receives, haccept]
  exact h

theorem receives_other {s : Exchange} {wait : Wait} {payload : D2mIncomingPayload}
    (haccept : wait.accept payload = none) (hanswers : payload.answers = none)
    (h : s.AgreesWait wait) : s.Receives wait payload := by
  rw [Receives, haccept]
  exact ⟨hanswers, h⟩

/-- The end of the wait of `reflect`, or its next round. -/
theorem agrees_awaitReflectAcks {s : Exchange} {acknowledged left : List UInt32}
    (hidle : s.phase = .idle) (hlock : s.lock ≠ .driver)
    (hleft : acknowledged ++ left = s.reflectIds)
    (hacks : s.inTransit = left.map .reflect) :
    s.Agrees (awaitReflectAcks left.length acknowledged) := by
  rw [awaitReflectAcks]
  split
  next hzero =>
      cases List.length_eq_zero_iff.mp hzero
      exact ⟨hacks, hidle, hlock, by rw [← hleft, List.append_nil]⟩
  next hpos => exact ⟨hidle, hlock, left, hleft, rfl, Nat.pos_of_ne_zero hpos, hacks⟩

theorem receives_transactionEnded {s : Exchange} {payload : D2mIncomingPayload}
    {toDriver : List D2mIncomingPayload} (hqueue : s.toDriver = payload :: toDriver)
    (h : s.AgreesWait .transactionEnded) :
    Receives { s with toDriver := toDriver } .transactionEnded payload := by
  obtain ⟨hretry, hnone, hlock, hend⟩ := h
  obtain ⟨hanswers, hnone'⟩ := received_of_nil hqueue hnone
  cases haccept : Wait.accept .transactionEnded payload with
  | some pc =>
      refine receives_accept haccept ?_
      cases payload <;> cases haccept
      exact ⟨hnone', by rw [hretry]; exact hlock⟩
  | none =>
      refine receives_other haccept hanswers ⟨hretry, hnone', hlock, hend.imp_right ?_⟩
      rintro ⟨deviceId, encryptedScope, hmem⟩
      rw [hqueue, List.mem_cons] at hmem
      rcases hmem with rfl | hmem
      · cases haccept
      · exact ⟨deviceId, encryptedScope, hmem⟩

theorem receives_beginReply {s : Exchange} {payload : D2mIncomingPayload}
    {toDriver : List D2mIncomingPayload} (hqueue : s.toDriver = payload :: toDriver)
    (task : ContactsTask) (h : s.BeginReply) :
    Receives { s with toDriver := toDriver } (.beginReply task) payload := by
  cases h with
  | requested hDriver hMediator hlock =>
      rw [hqueue] at hDriver
      obtain ⟨hanswers, hDriver'⟩ := answers_of_cons_eq_nil hDriver
      exact receives_other (accept_of_answers_none hanswers nofun) hanswers
        (.requested hDriver' hMediator hlock)
  | granted before after hqueue' hbefore hafter hMediator hlock =>
      rw [hqueue] at hqueue'
      cases before with
      | nil =>
          cases hqueue'
          refine receives_accept rfl ⟨?_, hlock⟩
          rw [inTransit, hafter, hMediator, List.append_nil]
      | cons payload' before =>
          cases hqueue'
          obtain ⟨hanswers, hbefore'⟩ := answers_of_cons_eq_nil hbefore
          exact receives_other (accept_of_answers_none hanswers nofun) hanswers
            (.granted before after rfl hbefore' hafter hMediator hlock)
  | rejected before after deviceId encryptedScope hqueue' hbefore hafter hMediator hend =>
      rw [hqueue] at hqueue'
      cases before with
      | nil =>
          cases hqueue'
          refine receives_accept rfl ⟨?_, hend⟩
          rw [inTransit, hafter, hMediator, List.append_nil]
      | cons payload' before =>
          cases hqueue'
          obtain ⟨hanswers, hbefore'⟩ := answers_of_cons_eq_nil hbefore
          exact receives_other (accept_of_answers_none hanswers nofun) hanswers
            (.rejected before after deviceId encryptedScope rfl hbefore' hafter hMediator hend)

/-- A commit's wait receives an acknowledgement, or a payload that is no reply. -/
theorem CommitReply.received {s : Exchange} {payload : D2mIncomingPayload}
    {toDriver : List D2mIncomingPayload} (hqueue : s.toDriver = payload :: toDriver)
    {left : List UInt32} (h : s.CommitReply left) :
    payload.answers = none ∧ CommitReply { s with toDriver := toDriver } left ∨
      (payload = .commitTransactionAck ∧ left = [] ∧
        inTransit { s with toDriver := toDriver } = [] ∧ s.lock ≠ .driver) ∨
      ∃ reflectId rest, payload = .reflectAck reflectId ∧ left = reflectId :: rest ∧
        CommitReply { s with toDriver := toDriver } rest := by
  obtain ⟨htransit, hlock⟩ := h
  cases left with
  | nil =>
      rcases received_of_cons hqueue htransit with ⟨hanswers, htransit'⟩ | ⟨hanswers, hnone⟩
      · exact .inl ⟨hanswers, htransit', hlock⟩
      · refine .inr (.inl ⟨eq_commitTransactionAck hanswers, rfl, hnone, ?_⟩)
        exact hlock.not.mpr (not_not.mpr (List.append_eq_nil_iff.mp hnone).2)
  | cons reflectId rest =>
      rcases received_of_cons hqueue htransit with ⟨hanswers, htransit'⟩ | ⟨hanswers, htransit'⟩
      · exact .inl ⟨hanswers, htransit', hlock⟩
      · exact .inr (.inr ⟨reflectId, rest, eq_reflectAck hanswers, rfl, htransit', hlock⟩)

theorem receives_reflectAcks {s : Exchange} {payload : D2mIncomingPayload}
    {toDriver : List D2mIncomingPayload} (hqueue : s.toDriver = payload :: toDriver)
    {pending : Nat} {acknowledged : List UInt32}
    (h : s.AgreesWait (.reflectAcks pending acknowledged)) :
    Receives { s with toDriver := toDriver } (.reflectAcks pending acknowledged) payload := by
  obtain ⟨hidle, hlock, left, hleft, rfl, hpos, htransit⟩ := h
  cases left with
  | nil => cases hpos
  | cons reflectId rest =>
      rcases received_of_cons hqueue htransit with ⟨hanswers, htransit'⟩ | ⟨hanswers, htransit'⟩
      · exact receives_other (accept_of_answers_none hanswers nofun) hanswers
          ⟨hidle, hlock, reflectId :: rest, hleft, rfl, hpos, htransit'⟩
      · cases eq_reflectAck hanswers
        refine receives_accept rfl (agrees_awaitReflectAcks hidle hlock ?_ htransit')
        rw [List.append_assoc]
        exact hleft

/-- What a wait receives is the reply it waits for, or no reply. -/
theorem AgreesWait.receives {s : Exchange} {wait : Wait} (h : s.AgreesWait wait)
    {payload : D2mIncomingPayload} {toDriver : List D2mIncomingPayload}
    (hqueue : s.toDriver = payload :: toDriver) :
    Receives { s with toDriver := toDriver } wait payload := by
  cases wait with
  | transactionEnded => exact receives_transactionEnded hqueue h
  | beginReply task => exact receives_beginReply hqueue task h
  | abortAck task =>
      rcases CommitReply.received hqueue h with ⟨hanswers, hcommit⟩ |
        ⟨rfl, -, hnone, hlock⟩ | ⟨reflectId, rest, -, hnil, -⟩
      · exact receives_other (accept_of_answers_none hanswers nofun) hanswers hcommit
      · exact receives_accept rfl ⟨hnone, hlock⟩
      · cases hnil
  | commitAck task acknowledged =>
      obtain ⟨left, hleft, hcommit⟩ := h
      rcases hcommit.received hqueue with ⟨hanswers, hcommit'⟩ |
        ⟨rfl, rfl, hnone, hlock⟩ | ⟨reflectId, rest, rfl, rfl, hcommit'⟩
      · exact receives_other (accept_of_answers_none hanswers nofun) hanswers
          ⟨left, hleft, hcommit'⟩
      · exact receives_accept rfl ⟨hnone, hlock, by rw [← hleft, List.append_nil]⟩
      · refine receives_accept rfl ⟨rest, ?_, hcommit'⟩
        rw [List.append_assoc]
        exact hleft
  | reflectAcks pending acknowledged => exact receives_reflectAcks hqueue h

/-! ### Sending -/

theorem inTransit_sent (s : Exchange) (payload : D2mOutgoingPayload) :
    inTransit { s with toMediator := s.toMediator ++ [payload] } =
      s.inTransit ++ payload.request.toList := by
  simp only [inTransit, List.filterMap_append, List.append_assoc]
  cases hrequest : payload.request <;> simp [hrequest]

/-- A payload that gets no reply changes nothing. -/
theorem Agrees.sent {s : Exchange} {pc : DriverPc} (h : s.Agrees pc)
    {payload : D2mOutgoingPayload} (hrequest : payload.request = none) :
    Agrees { s with toMediator := s.toMediator ++ [payload] } pc := by
  have hstep := MediatorStep.quiet (s := s) (s.toMediator ++ [payload]) [] s.lock
    (by simp [hrequest]) rfl Iff.rfl .inl
  rw [List.append_nil] at hstep
  exact h.mediatorStep hstep

theorem reflectIds_cons (payload : ReflectPayload) (rest : List ReflectPayload) :
    MultideviceClient.reflectIds (payload :: rest) =
      (if payload.ephemeral then [] else [payload.id]) ++ MultideviceClient.reflectIds rest := by
  cases h : payload.ephemeral <;> simp [MultideviceClient.reflectIds, h]

theorem length_reflectIds (messages : List ReflectPayload) :
    (MultideviceClient.reflectIds messages).length =
      messages.countP fun message => !message.ephemeral := by
  rw [MultideviceClient.reflectIds, List.length_map, List.countP_eq_length_filter]

/-- The messages of an instruction that are still to be sent, and what follows. -/
theorem agrees_sendReflects {s : Exchange} {sent : List UInt32} {messages : List ReflectPayload}
    {goal : ReflectGoal} (hsent : sent ++ MultideviceClient.reflectIds messages = s.reflectIds)
    (hacks : s.inTransit = sent.map .reflect) (hgoal : s.AgreesGoal goal) :
    s.Agrees (sendReflects messages goal) := by
  cases messages with
  | cons payload rest => exact ⟨sent, hsent, hacks, hgoal⟩
  | nil =>
      cases (List.append_nil sent).symm.trans hsent
      cases goal with
      | commit task => exact ⟨rfl, hacks, hgoal⟩
      | acks pending =>
          obtain ⟨hidle, hlock, rfl⟩ := hgoal
          exact agrees_awaitReflectAcks hidle hlock rfl hacks

/-- The commit comes behind the acknowledgements of the reflected messages. -/
theorem commitReply_sent {s : Exchange} (left : List UInt32)
    (hacks : s.inTransit = left.map .reflect) (hlock : s.lock = .driver) :
    CommitReply { s with toMediator := s.toMediator ++ [.commitTransaction] } left := by
  refine ⟨?_, iff_of_true hlock ?_⟩
  · rw [inTransit_sent, hacks]
    rfl
  · rw [List.filterMap_append]
    exact List.append_ne_nil_of_right_ne_nil _ (List.cons_ne_nil _ _)

/-- After a reflected message the exchange fits what comes next. -/
theorem agrees_sentReflect {s : Exchange} {payload : ReflectPayload} {rest : List ReflectPayload}
    {goal : ReflectGoal} (h : s.Agrees (.sendReflect payload rest goal)) :
    Agrees { s with
      toMediator := s.toMediator ++ [.reflect payload.ephemeral payload.id payload.envelope] }
      (sendReflects rest goal) := by
  obtain ⟨sent, hsent, hacks, hgoal⟩ := h
  rw [reflectIds_cons, ← List.append_assoc] at hsent
  refine agrees_sendReflects hsent ?_ ?_
  · rw [inTransit_sent, hacks, List.map_append]
    cases hephemeral : payload.ephemeral <;> simp [D2mOutgoingPayload.request]
  · cases goal <;> exact hgoal

/-- After `BeginTransaction` its reply is under way. -/
theorem agrees_sentBeginTransaction {s : Exchange} {task : ContactsTask} {encryptedScope : Bytes}
    {ttl : UInt32} (h : s.Agrees (.sendBeginTransaction task encryptedScope ttl))
    (ttlSeconds : Option UInt32) :
    Agrees { s with toMediator := s.toMediator ++ [.beginTransaction encryptedScope ttlSeconds] }
      (.nextD2mIncoming (.beginReply task)) := by
  obtain ⟨hnone, hlock⟩ := h
  obtain ⟨hDriver, hMediator⟩ := List.append_eq_nil_iff.mp hnone
  refine .requested hDriver ?_ hlock
  rw [List.filterMap_append, hMediator]
  rfl

/-- After `CommitTransaction` its acknowledgement is under way. -/
theorem agrees_sentCommitTransaction {s : Exchange} {wait : Wait}
    (h : s.Agrees (.sendCommitTransaction wait)) :
    Agrees { s with toMediator := s.toMediator ++ [.commitTransaction] }
      (.nextD2mIncoming wait) := by
  cases wait with
  | abortAck task => exact commitReply_sent [] h.1 h.2
  | commitAck task acknowledged =>
      obtain ⟨rfl, hacks, hlock⟩ := h
      exact ⟨s.reflectIds, rfl, commitReply_sent s.reflectIds hacks hlock⟩
  | _ => exact h.elim

/-! ### Every step -/

/-- What a task asks for next fits the exchange. -/
theorem agrees_runInstruction {d : Driver L} {s : Exchange} {loop : IncomingMessageLoop}
    {phase : TaskPhase} (hphase : s.phase.poll loop = some phase) (hnone : s.inTransit = [])
    (h : s.AgreesPhase s.phase) :
    Agrees { s with phase := phase, reflectIds := loop.reflectIds } (d.runInstruction loop).pc := by
  obtain ⟨old, ids, toMediator, toDriver, lock⟩ := s
  cases loop with
  | fetchSender =>
      cases old <;> cases hphase
      exact ⟨hnone, rfl, h⟩
  | contacts task instruction =>
      cases instruction with
      | beginTransaction instruction =>
          cases instruction with
          | transactionRejected =>
              cases old <;> cases hphase
              exact ⟨rfl, hnone, h⟩
          | beginTransaction encryptedScope ttl =>
              cases old <;> cases hphase <;> exact ⟨hnone, h⟩
          | abortTransaction =>
              cases old <;> cases hphase
              exact ⟨hnone, h⟩
      | reflectAndCommitTransaction messages =>
          cases old <;> cases hphase
          exact agrees_sendReflects (List.nil_append _) hnone h
  | reflectMessage messages =>
      cases old <;> cases hphase
      exact agrees_sendReflects (List.nil_append _) hnone
        ⟨rfl, h, (length_reflectIds messages).symm⟩
  | done messageAck =>
      cases old <;> cases hphase
      cases messageAck with
      | none => exact ⟨hnone, h⟩
      | some messageAck => exact ⟨hnone, rfl, h⟩

/-- A response decides the phase of the task. -/
theorem agreesPhase_response {s : Exchange} {response : IncomingMessageResponse}
    (h : s.AgreesResponse response) : s.AgreesPhase (s.phase.response response) := by
  cases response with
  | fetchSender => rw [TaskPhase.response, h.1]; exact h.2
  | reflectMessage acknowledged => rw [TaskPhase.response, h.1]; exact h.2.1
  | contacts task response =>
      cases response with
      | beginTransactionReply reply => cases reply <;> exact h
      | abortTransactionResponse => exact h
      | commitTransactionResponse acknowledged => exact h.1

theorem transfer_received {s s' : Exchange} {payload : D2mIncomingPayload}
    (h : s.transfer (.recvD2m (some payload)) = some s') :
    ∃ toDriver, s.toDriver = payload :: toDriver ∧ s' = { s with toDriver := toDriver } := by
  simp only [transfer, Option.map_eq_some_iff, Link.pop_eq_some] at h
  obtain ⟨toDriver, hqueue, rfl⟩ := h
  exact ⟨toDriver, hqueue, rfl⟩

/-- A payload received outside a wait is no reply. -/
theorem agrees_receivedIdle {s : Exchange} {payload : D2mIncomingPayload}
    {toDriver : List D2mIncomingPayload} (hqueue : s.toDriver = payload :: toDriver)
    (hidle : s.phase = .idle) (h : s.Agrees .top) :
    payload.answers = none ∧ Agrees { s with toDriver := toDriver } .top := by
  obtain ⟨hnone, hphase⟩ := h
  obtain ⟨hanswers, hnone'⟩ := received_of_nil hqueue hnone
  rw [hidle] at hphase
  exact ⟨hanswers, hnone', by rw [hidle]; exact hphase⟩

/-- A step of the driver keeps the exchange fit for it. -/
theorem agrees_driverStep {d d' : Driver L} {s s₁ s₂ : Exchange} {l : DriverLabel}
    (hstep : d.Step l d') (hconduct : s.conduct d.pc l = some s₁)
    (htransfer : s₁.transfer l = some s₂) (h : s.Agrees d.pc.continuation)
    (hidle : d.pendingTask = none → s.phase = .idle) : s₂.Agrees d'.pc.continuation := by
  cases hstep with
  | message message hawaits => cases hconduct; cases htransfer; exact h
  | messageAck messageAck hawaits => cases hconduct; cases htransfer; exact h
  | cspClosed hawaits => trivial
  | @accepted wait payload pc hpc haccept =>
      cases hconduct
      obtain ⟨toDriver, hqueue, rfl⟩ := transfer_received htransfer
      rw [hpc] at h
      have hreceives := AgreesWait.receives h hqueue
      rw [Receives, haccept] at hreceives
      rw [Driver.continuation_of_due (Driver.due_accept haccept)]
      exact hreceives
  | @unsolicited resume payload hawaits hreject =>
      cases hconduct
      obtain ⟨toDriver, hqueue, rfl⟩ := transfer_received htransfer
      rw [hawaits.1, Driver.continuation_resume] at h
      rw [Driver.continuation_handleUnsolicitedD2m]
      cases resume with
      | none => exact (agrees_receivedIdle hqueue (hidle (hawaits.2 rfl)) h).2
      | some wait =>
          have hreceives := AgreesWait.receives h hqueue
          rw [Receives, hreject wait rfl] at hreceives
          exact hreceives.2
  | d2mClosed hawaits => trivial
  | polled loop hpc hpending =>
      simp only [conduct, Option.map_eq_some_iff] at hconduct
      obtain ⟨phase, hphase, rfl⟩ := hconduct
      cases htransfer
      rw [hpc] at h
      rw [Driver.continuation_of_due (Driver.due_runInstruction d loop)]
      exact agrees_runInstruction hphase h.1 h.2
  | pollFailed error hpc hpending => trivial
  | fetched hpc =>
      cases hconduct; cases htransfer
      rw [hpc] at h
      exact ⟨h.1, h.2⟩
  | responded hpc =>
      simp only [conduct, hpc] at hconduct
      cases hconduct; cases htransfer
      rw [hpc] at h
      exact ⟨h.1, agreesPhase_response h.2⟩
  | responseFailed error hpc => trivial
  | updated hpc =>
      cases hconduct; cases htransfer
      rw [hpc] at h
      exact h
  | updateFailed error hpc => trivial
  | sentUnblock hpc =>
      cases hconduct; cases htransfer
      rw [hpc] at h
      rw [Driver.continuation_resume]
      exact h
  | sentMessageAck hpc =>
      cases hconduct; cases htransfer
      rw [hpc] at h
      obtain ⟨hnone, hphase, hlock⟩ := h
      exact ⟨hnone, by rw [hphase]; exact hlock⟩
  | @sentReflectedAck reflectId resume hpc =>
      cases hconduct; cases htransfer
      rw [hpc] at h
      have hresume : s.Agrees (.resume resume) := h
      rw [Driver.continuation_resume]
      exact hresume.sent rfl
  | sentBeginTransaction hpc =>
      cases hconduct; cases htransfer
      rw [hpc] at h
      exact agrees_sentBeginTransaction h _
  | sentReflect hpc =>
      cases hconduct; cases htransfer
      rw [hpc] at h
      rw [Driver.continuation_of_due (Driver.due_sendReflects ..)]
      exact agrees_sentReflect h
  | sentCommitTransaction hpc =>
      cases hconduct; cases htransfer
      rw [hpc] at h
      exact agrees_sentCommitTransaction h
  | sendFailed hpc => trivial
  | provided data emitted hpc => cases hconduct; cases htransfer; exact h

end Exchange

/-- The driver is in its `select!`, handles a payload received there, or has
returned. -/
def DriverPc.idle : DriverPc → Bool
  | .top => true
  | .updateD2mState resume => resume.isNone
  | .sendUnblock resume => resume.isNone
  | .sendReflectedAck _ resume => resume.isNone
  | .returned _ => true
  | _ => false

theorem DriverPc.idle_resume (resume : Option Wait) :
    (DriverPc.resume resume).idle = resume.isNone := by
  cases resume <;> rfl

theorem Driver.idle_handleUnsolicitedD2m (self : Driver L) (resume : Option Wait)
    (payload : D2mIncomingPayload) :
    (self.handleUnsolicitedD2m resume payload).pc.idle = resume.isNone := by
  cases payload <;> first | rfl | exact DriverPc.idle_resume resume

namespace Mediated

/-- The exchange fits the driver, and a driver without a task has no transaction
and waits for nothing. -/
structure Invariant (s : Mediated L) : Prop where
  agrees : s.Agrees s.driver.pc.continuation
  idle : s.driver.pendingTask = none → s.phase = .idle ∧ s.driver.pc.idle = true

/-- A step of the driver gives up the task only outside a transaction. -/
theorem idle_driverStep {d d' : Driver L} {s s₁ s₂ : Exchange} {l : DriverLabel}
    (hstep : d.Step l d') (hconduct : s.conduct d.pc l = some s₁)
    (htransfer : s₁.transfer l = some s₂) (h : s.Agrees d.pc.continuation)
    (hidle : d.pendingTask = none → s.phase = .idle ∧ d.pc.idle = true) :
    d'.pendingTask = none → s₂.phase = .idle ∧ d'.pc.idle = true := by
  intro htask
  have hat : ∀ {pc : DriverPc}, d.pendingTask = none → d.pc = pc → pc.idle = true := by
    rintro pc hnone rfl
    exact (hidle hnone).2
  cases hstep with
  | message message hawaits => cases htask
  | messageAck messageAck hawaits => cases hconduct; cases htransfer; exact hidle htask
  | cspClosed hawaits => cases hconduct; cases htransfer; exact ⟨(hidle htask).1, rfl⟩
  | accepted hpc haccept => cases hat htask hpc
  | @unsolicited resume payload hawaits hreject =>
      cases hconduct
      obtain ⟨toDriver, hqueue, rfl⟩ := Exchange.transfer_received htransfer
      rw [Driver.pendingTask_handleUnsolicitedD2m] at htask
      obtain ⟨hphase, hpcIdle⟩ := hidle htask
      rw [hawaits.1, DriverPc.idle_resume] at hpcIdle
      exact ⟨hphase, (Driver.idle_handleUnsolicitedD2m ..).trans hpcIdle⟩
  | d2mClosed hawaits => cases hconduct; cases htransfer; exact ⟨(hidle htask).1, rfl⟩
  | polled loop hpc hpending =>
      simp only [Exchange.conduct, Option.map_eq_some_iff] at hconduct
      obtain ⟨phase, hphase, rfl⟩ := hconduct
      cases htransfer
      cases loop with
      | done messageAck =>
          cases messageAck with
          | none =>
              cases hold : s.phase <;> rw [hold] at hphase <;> cases hphase
              exact ⟨rfl, rfl⟩
          | some messageAck => cases htask.symm.trans hpending
      | contacts task instruction => cases instruction <;> cases htask.symm.trans hpending
      | fetchSender => cases htask.symm.trans hpending
      | reflectMessage messages => cases htask.symm.trans hpending
  | pollFailed error hpc hpending => cases htask.symm.trans hpending
  | fetched hpc => cases hat htask hpc
  | responded hpc => cases hat htask hpc
  | responseFailed error hpc => cases hconduct; cases htransfer; exact ⟨(hidle htask).1, rfl⟩
  | updated hpc =>
      cases hconduct; cases htransfer
      have hpcIdle := hat htask hpc
      exact ⟨(hidle htask).1, hpcIdle⟩
  | updateFailed error hpc => cases hconduct; cases htransfer; exact ⟨(hidle htask).1, rfl⟩
  | sentUnblock hpc =>
      cases hconduct; cases htransfer
      have hpcIdle := hat htask hpc
      exact ⟨(hidle htask).1, (DriverPc.idle_resume _).trans hpcIdle⟩
  | sentMessageAck hpc =>
      cases hconduct; cases htransfer
      rw [hpc] at h
      exact ⟨h.2.1, rfl⟩
  | sentReflectedAck hpc =>
      cases hconduct; cases htransfer
      have hpcIdle := hat htask hpc
      exact ⟨(hidle htask).1, (DriverPc.idle_resume _).trans hpcIdle⟩
  | sentBeginTransaction hpc => cases hat htask hpc
  | sentReflect hpc => cases hat htask hpc
  | sentCommitTransaction hpc => cases hat htask hpc
  | sendFailed hpc => cases hconduct; cases htransfer; exact ⟨(hidle htask).1, rfl⟩
  | provided data emitted hpc => cases hconduct; cases htransfer; exact hidle htask

/-- Everything a step of the driver does. -/
theorem next_inl {s s' : Mediated L} {l : DriverLabel} (h : s.next (.inl l) = some s') :
    ∃ driver exchange exchange', s.driver.next l = some driver ∧
      s.conduct s.driver.pc l = some exchange ∧ exchange.transfer l = some exchange' ∧
      s' = { exchange' with driver := driver } := by
  simp only [next, Option.bind_eq_some_iff, Option.map_eq_some_iff] at h
  obtain ⟨driver, hdriver, exchange, hconduct, exchange', htransfer, rfl⟩ := h
  exact ⟨driver, exchange, exchange', hdriver, hconduct, htransfer, rfl⟩

theorem Invariant.start (deviceGroupKey : L.reflection.DeviceGroupKey)
    (contactStore : ContactStore L) (contacts : ContactMap) :
    (Mediated.start (.new deviceGroupKey contactStore contacts)).Invariant where
  agrees := ⟨rfl, nofun⟩
  idle _ := ⟨rfl, rfl⟩

/-- Every step keeps the invariant. -/
theorem Invariant.step {s s' : Mediated L} {l : DriverLabel ⊕ MediatorLabel} (h : s.Invariant)
    (hl : (machine L).next s l = some s') : s'.Invariant := by
  change s.next l = some s' at hl
  cases l with
  | inl l =>
      obtain ⟨driver, exchange, exchange', hdriver, hconduct, htransfer, rfl⟩ := next_inl hl
      have hstep := Driver.step_of_next hdriver
      have hphase := fun htask => (h.idle htask).1
      exact ⟨Exchange.agrees_driverStep hstep hconduct htransfer h.agrees hphase,
        idle_driverStep hstep hconduct htransfer h.agrees h.idle⟩
  | inr l =>
      simp only [next, Option.map_eq_some_iff] at hl
      obtain ⟨exchange, hexchange, rfl⟩ := hl
      have hstep := Exchange.mediatorStep_of_next hexchange
      exact ⟨h.agrees.mediatorStep hstep,
        fun htask => ⟨(Exchange.phase_mediatorStep hstep).trans (h.idle htask).1, (h.idle htask).2⟩⟩

end Mediated

end MultideviceClient
