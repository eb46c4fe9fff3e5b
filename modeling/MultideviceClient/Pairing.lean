import MultideviceClient.Agreement

/-!
# Replies and requests

The waits of the driver read one shared queue, and each hands what it does not
wait for to `handle_unsolicited_d2m`, which drops replies.  Against the mediator
none of them drops a reply that another step waits for, and none waits for a
reply that cannot come.

*Pairing.*  In every reachable state the replies that a wait waits for are under
way, in order and alone, and a reply at the head of the queue is one that the
wait accepts.  A response to the task holds the acknowledgements of its own
messages.

*Progress.*  From every wait there is a way to its end: the mediator handles what
is queued, another device ends its transaction, and the driver receives what
arrives (`reaches_proceeding`).
-/

namespace MultideviceClient

open Foundations

variable {L : Libthreema}

/-! ## Every reply and its request -/

namespace Exchange

/-- The replies that a wait waits for are under way and nothing else is.  For the
end of another device's transaction, it is queued, or that device still holds
the lock. -/
def Awaited (s : Exchange) : Wait → Prop
  | .transactionEnded =>
      s.inTransit = [] ∧ (s.lock = .other ∨ ∃ deviceId encryptedScope,
        D2mIncomingPayload.transactionEnded deviceId encryptedScope ∈ s.toDriver)
  | .beginReply _ => s.inTransit = [.beginTransaction]
  | .abortAck _ => s.inTransit = [.commitTransaction]
  | .commitAck _ acknowledged =>
      ∃ left, acknowledged ++ left = s.reflectIds ∧
        s.inTransit = left.map .reflect ++ [.commitTransaction]
  | .reflectAcks pending acknowledged =>
      ∃ left, acknowledged ++ left = s.reflectIds ∧ left.length = pending ∧ 0 < pending ∧
        s.inTransit = left.map .reflect

/-- A response holds the acknowledgements of exactly the messages of its
instruction, in their order, and a transaction is granted to the holder of the
lock. -/
def Answered (s : Exchange) : IncomingMessageResponse → Prop
  | .reflectMessage acknowledged => acknowledged = s.reflectIds
  | .contacts _ (.commitTransactionResponse acknowledged) => acknowledged = s.reflectIds
  | .contacts _ (.beginTransactionReply .beginTransactionAck) => s.lock = .driver
  | _ => True

theorem BeginReply.inTransit {s : Exchange} (h : s.BeginReply) :
    s.inTransit = [.beginTransaction] := by
  cases h with
  | requested hDriver hMediator hlock => rw [Exchange.inTransit, hDriver, hMediator]; rfl
  | granted before after hqueue hbefore hafter hMediator hlock =>
      rw [Exchange.inTransit, hqueue, List.filterMap_append, List.filterMap_cons, hbefore, hafter,
        hMediator]
      rfl
  | rejected before after deviceId encryptedScope hqueue hbefore hafter hMediator hend =>
      rw [Exchange.inTransit, hqueue, List.filterMap_append, List.filterMap_cons, hbefore, hafter,
        hMediator]
      rfl

theorem AgreesWait.awaited {s : Exchange} {wait : Wait} (h : s.AgreesWait wait) :
    s.Awaited wait := by
  cases wait with
  | transactionEnded => exact ⟨h.2.1, h.2.2.2⟩
  | beginReply task => exact BeginReply.inTransit h
  | abortAck task => exact h.1
  | commitAck task acknowledged =>
      obtain ⟨left, hleft, hcommit⟩ := h
      exact ⟨left, hleft, hcommit.1⟩
  | reflectAcks pending acknowledged => exact h.2.2

theorem AgreesResponse.answered {s : Exchange} {response : IncomingMessageResponse}
    (h : s.AgreesResponse response) : s.Answered response := by
  cases response with
  | fetchSender => trivial
  | reflectMessage acknowledged => exact h.2.2
  | contacts task response =>
      cases response with
      | beginTransactionReply reply =>
          cases reply with
          | beginTransactionAck => exact h
          | transactionRejected deviceId encryptedScope => trivial
      | abortTransactionResponse => trivial
      | commitTransactionResponse acknowledged => exact h.2

end Exchange

namespace Mediated

/-! ## Progress -/

/-- The driver waits for nothing any more. -/
def Proceeding (s : Mediated L) : Prop :=
  s.driver.pc = .top ∨ ∃ response, s.driver.pc = .respond response

theorem next_driver {s : Mediated L} {l : DriverLabel} {driver : Driver L}
    {exchange exchange' : Exchange} (hdriver : s.driver.next l = some driver)
    (hconduct : s.conduct s.driver.pc l = some exchange)
    (htransfer : exchange.transfer l = some exchange') :
    (machine L).next s (.inl l) = some { exchange' with driver := driver } := by
  simp only [machine, next, hdriver, hconduct, htransfer, Option.bind_some, Option.map_some]

/-- The mediator handles everything that is queued. -/
theorem reaches_handled (s : Mediated L) :
    ∃ s', (machine L).Reaches s s' ∧ s'.driver = s.driver ∧ s'.toMediator = [] := by
  induction hqueue : s.toMediator generalizing s with
  | nil => exact ⟨s, .refl _ s, rfl, hqueue⟩
  | cons payload toMediator ih =>
      obtain ⟨s₁, hl, hdriver, hqueue₁⟩ : ∃ s₁, (machine L).next s (.inr (.handle 0 [])) = some s₁ ∧
          s₁.driver = s.driver ∧ s₁.toMediator = toMediator := by
        simp only [machine, next, Exchange.next, hqueue]
        exact ⟨_, rfl, rfl, rfl⟩
      obtain ⟨s', hreaches, hdriver', hqueue'⟩ := ih s₁ hqueue₁
      exact ⟨s', .head _ hl hreaches, hdriver'.trans hdriver, hqueue'⟩

/-- The transaction of another device ends, if there is one. -/
theorem reaches_unlocked (s : Mediated L) :
    ∃ s', (machine L).Reaches s s' ∧ s'.driver = s.driver ∧ s'.toMediator = s.toMediator ∧
      s'.lock ≠ .other := by
  by_cases hother : s.lock = .other
  · have hl : (machine L).next s (.inr (.otherEnds 0 [])) = some
        { s with toDriver := s.toDriver ++ [.transactionEnded 0 []], lock := .free } := by
      simp [machine, next, Exchange.next, hother]
    exact ⟨_, .head _ hl (.refl _ _), rfl, rfl, Lock.noConfusion⟩
  · exact ⟨s, .refl _ s, rfl, rfl, hother⟩

/-- The driver is back in a wait, and the exchange is as it was, apart from
payloads that get no reply. -/
def BackIn (s : Mediated L) (wait : Wait) (s' : Mediated L) : Prop :=
  (machine L).Reaches s s' ∧ s'.driver.pc = .nextD2mIncoming wait ∧ s'.toDriver = s.toDriver ∧
    s'.lock = s.lock ∧
    s'.toMediator.filterMap D2mOutgoingPayload.request =
      s.toMediator.filterMap D2mOutgoingPayload.request

theorem backIn_sendUnblock {s : Mediated L} {wait : Wait}
    (hpc : s.driver.pc = .sendUnblock (some wait)) : ∃ s', s.BackIn wait s' := by
  have hl := next_driver (s := s) (Driver.next_of_step (.sentUnblock hpc)) rfl rfl
  exact ⟨_, .head _ hl (.refl _ _), rfl, rfl, rfl, rfl⟩

theorem backIn_updateD2mState {s : Mediated L} {wait : Wait}
    (hpc : s.driver.pc = .updateD2mState (some wait)) : ∃ s', s.BackIn wait s' := by
  have hl := next_driver (s := s) (Driver.next_of_step (.updated hpc)) rfl rfl
  obtain ⟨s', hreaches, hback⟩ := backIn_sendUnblock
    (s := { s with driver := { s.driver with leader := true, pc := .sendUnblock (some wait) } }) rfl
  exact ⟨s', .head _ hl hreaches, hback⟩

theorem backIn_sendReflectedAck {s : Mediated L} {wait : Wait} {reflectId : UInt32}
    (hpc : s.driver.pc = .sendReflectedAck reflectId (some wait)) : ∃ s', s.BackIn wait s' := by
  have hl := next_driver (s := s) (Driver.next_of_step (.sentReflectedAck hpc)) rfl rfl
  refine ⟨_, .head _ hl (.refl _ _), rfl, rfl, rfl, ?_⟩
  simp [D2mOutgoingPayload.request]

/-- The driver gets through the handling of an unsolicited payload. -/
theorem backIn_handled {s : Mediated L} {d : Driver L} {wait : Wait}
    {payload : D2mIncomingPayload} (hd : s.driver = d.handleUnsolicitedD2m (some wait) payload) :
    ∃ s', s.BackIn wait s' := by
  cases payload with
  | rolePromotedToLeader => exact backIn_updateD2mState (congrArg Driver.pc hd)
  | reflected reflectId envelope => exact backIn_sendReflectedAck (congrArg Driver.pc hd)
  | _ => exact ⟨s, .refl _ s, congrArg Driver.pc hd, rfl, rfl, rfl⟩

/-- What a wait accepts ends it or takes it on. -/
theorem accept_cases {wait : Wait} {payload : D2mIncomingPayload} {pc : DriverPc}
    (h : wait.accept payload = some pc) :
    pc = .top ∨ (∃ response, pc = .respond response) ∨ ∃ wait', pc = .nextD2mIncoming wait' := by
  cases wait <;> cases payload <;> cases h
  case transactionEnded => exact .inl rfl
  case reflectAcks =>
      rw [awaitReflectAcks]
      split
      next => exact .inr (.inl ⟨_, rfl⟩)
      next => exact .inr (.inr ⟨_, rfl⟩)
  all_goals first | exact .inr (.inl ⟨_, rfl⟩) | exact .inr (.inr ⟨_, rfl⟩)

/-- A wait with nothing queued waits for something that is still to come. -/
theorem queue_ne_nil {s : Mediated L} {wait : Wait} (h : s.Awaited wait)
    (hrequests : s.toMediator.filterMap D2mOutgoingPayload.request = []) (hlock : s.lock ≠ .other) :
    s.toDriver ≠ [] := by
  intro hqueue
  have hnone : s.inTransit = [] := by
    rw [Exchange.inTransit, hqueue, hrequests]
    rfl
  cases wait with
  | transactionEnded =>
      rcases h.2 with hother | ⟨deviceId, encryptedScope, hmem⟩
      · exact hlock hother
      · rw [hqueue] at hmem
        cases hmem
  | beginReply task => cases hnone.symm.trans h
  | abortAck task => cases hnone.symm.trans h
  | commitAck task acknowledged =>
      obtain ⟨left, -, htransit⟩ := h
      exact List.append_ne_nil_of_right_ne_nil _ (List.cons_ne_nil _ _) (htransit.symm.trans hnone)
  | reflectAcks pending acknowledged =>
      obtain ⟨left, -, hlength, hpos, htransit⟩ := h
      cases List.map_eq_nil_iff.mp (htransit.symm.trans hnone)
      rw [← hlength] at hpos
      cases hpos

/-- Once the mediator has handled everything, the driver only has to receive. -/
theorem reaches_proceeding_of_handled {s : Mediated L} (h : s.Invariant) {wait : Wait}
    (hpc : s.driver.pc = .nextD2mIncoming wait)
    (hrequests : s.toMediator.filterMap D2mOutgoingPayload.request = []) (hlock : s.lock ≠ .other) :
    ∃ s', (machine L).Reaches s s' ∧ s'.Proceeding := by
  induction hqueue : s.toDriver generalizing s wait with
  | nil =>
      have hagrees := h.agrees
      rw [hpc] at hagrees
      exact absurd hqueue (queue_ne_nil (Exchange.AgreesWait.awaited hagrees) hrequests hlock)
  | cons payload toDriver ih =>
      have htransfer : s.transfer (.recvD2m (some payload)) =
          some { s.toExchange with toDriver := toDriver } := by
        simp [Exchange.transfer, hqueue, Link.pop]
      cases haccept : wait.accept payload with
      | some pc =>
          have hl := next_driver (Driver.next_of_step (.accepted hpc haccept)) rfl htransfer
          have hinv := h.step hl
          rcases accept_cases haccept with rfl | ⟨response, rfl⟩ | ⟨wait', rfl⟩
          · exact ⟨_, .head _ hl (.refl _ _), .inl rfl⟩
          · exact ⟨_, .head _ hl (.refl _ _), .inr ⟨response, rfl⟩⟩
          · obtain ⟨s', hreaches, hproceeding⟩ := ih hinv rfl hrequests hlock rfl
            exact ⟨s', .head _ hl hreaches, hproceeding⟩
      | none =>
          have hreject : ∀ wait', some wait = some wait' → wait'.accept payload = none := by
            intro wait' heq
            cases heq
            exact haccept
          have hawaits : s.driver.Awaits (some wait) := ⟨hpc, fun hnone => by cases hnone⟩
          have hl := next_driver
            (Driver.next_of_step (.unsolicited hawaits hreject)) rfl htransfer
          obtain ⟨s₁, hback, hpc₁, hqueue₁, hlock₁, hrequests₁⟩ := backIn_handled
            (s := { s with
              toDriver := toDriver
              driver := s.driver.handleUnsolicitedD2m (some wait) payload }) rfl
          have hreaches := Machine.Reaches.head _ hl hback
          have hinv : s₁.Invariant :=
            hreaches.invariant _ (I := Invariant) (fun _ _ _ hI hl => hI.step hl) h
          obtain ⟨s', hreaches', hproceeding⟩ := ih hinv hpc₁ (hrequests₁.trans hrequests)
            (by rw [hlock₁]; exact hlock) hqueue₁
          exact ⟨s', hreaches.trans _ hreaches', hproceeding⟩

/-- From every wait there is a way to its end. -/
theorem Invariant.reaches_proceeding {s : Mediated L} (h : s.Invariant) {wait : Wait}
    (hpc : s.driver.pc = .nextD2mIncoming wait) :
    ∃ s', (machine L).Reaches s s' ∧ s'.Proceeding := by
  obtain ⟨s₁, hreaches₁, hdriver₁, hqueue₁⟩ := s.reaches_handled
  obtain ⟨s₂, hreaches₂, hdriver₂, hqueue₂, hlock₂⟩ := s₁.reaches_unlocked
  have hreaches := hreaches₁.trans _ hreaches₂
  have hinv : s₂.Invariant :=
    hreaches.invariant _ (I := Invariant) (fun _ _ _ hI hl => hI.step hl) h
  obtain ⟨s', hreaches', hproceeding⟩ := reaches_proceeding_of_handled hinv
    (by rw [hdriver₂, hdriver₁]; exact hpc) (by rw [hqueue₂, hqueue₁]; rfl) hlock₂
  exact ⟨s', hreaches.trans _ hreaches', hproceeding⟩

/-! ## The result -/

/-- Every wait can end, and every reply meets the wait that it is for. -/
structure Paired (s : Mediated L) : Prop where
  /-- What the driver is blocked on is under way. -/
  awaited : ∀ wait, s.driver.pc = .nextD2mIncoming wait → s.Awaited wait
  /-- There is a way on from where the driver is blocked. -/
  proceeding : ∀ wait, s.driver.pc = .nextD2mIncoming wait →
    ∃ s', (machine L).Reaches s s' ∧ s'.Proceeding
  /-- A reply that the driver is about to receive is accepted by its wait, so none
  gets to `handle_unsolicited_d2m`. -/
  accepted : ∀ resume payload toDriver request, s.driver.Awaits resume →
    s.toDriver = payload :: toDriver → payload.answers = some request →
      ∃ wait pc, resume = some wait ∧ wait.accept payload = some pc
  /-- A response to the task fits the instruction. -/
  answered : ∀ response, s.driver.pc = .respond response → s.Answered response

theorem Invariant.paired {s : Mediated L} (h : s.Invariant) : s.Paired where
  awaited wait hpc := by
    have hagrees := h.agrees
    rw [hpc] at hagrees
    exact Exchange.AgreesWait.awaited hagrees
  proceeding wait hpc := h.reaches_proceeding hpc
  accepted resume payload toDriver request hawaits hqueue hanswers := by
    have hagrees := h.agrees
    rw [hawaits.1, Driver.continuation_resume] at hagrees
    cases resume with
    | none =>
        have hnone := (Exchange.agrees_receivedIdle hqueue (h.idle (hawaits.2 rfl)).1 hagrees).1
        cases hnone.symm.trans hanswers
    | some wait =>
        have hreceives := Exchange.AgreesWait.receives hagrees hqueue
        rw [Exchange.Receives] at hreceives
        cases haccept : wait.accept payload with
        | some pc => exact ⟨wait, pc, rfl, haccept⟩
        | none =>
            rw [haccept] at hreceives
            cases hreceives.1.symm.trans hanswers
  answered response hpc := by
    have hagrees := h.agrees
    rw [hpc] at hagrees
    exact Exchange.AgreesResponse.answered hagrees.2

/-- Against the mediator, every reply is paired with its request in every state
of every run. -/
theorem mediated_paired (deviceGroupKey : L.reflection.DeviceGroupKey)
    (contactStore : ContactStore L) (contacts : ContactMap)
    (ls : List (DriverLabel ⊕ MediatorLabel)) :
    (machine L).Visits Paired (start (.new deviceGroupKey contactStore contacts)) ls :=
  Machine.Visits.mono _ (fun _ h => h.paired)
    (Machine.visits_invariant _ (fun _ _ _ h hl => h.step hl) ls
      (Invariant.start deviceGroupKey contactStore contacts))

/-- A transaction is rejected and tried again, with a reflected payload between
its reflected message and the commit. -/
example :
    ((machine _).exec (start .sample)
      [.inr .otherBegins,
        .inl (.recvCsp (some (.message ⟨[1]⟩))),
        .inl (.polled (.ok (.contacts .createContact
          (.beginTransaction (.beginTransaction [] 0))))),
        .inl (.sentD2m (.beginTransaction [] none)),
        .inr (.handle 2 []),
        .inl (.recvD2m (some (.transactionRejected 2 []))),
        .inl (.responded none),
        .inl (.polled (.ok (.contacts .createContact (.beginTransaction .transactionRejected)))),
        .inr (.otherEnds 2 []),
        .inl (.recvD2m (some (.transactionEnded 2 []))),
        .inl (.polled (.ok (.contacts .createContact
          (.beginTransaction (.beginTransaction [] 0))))),
        .inl (.sentD2m (.beginTransaction [] none)),
        .inr (.handle 2 []),
        .inl (.recvD2m (some .beginTransactionAck)),
        .inl (.responded none),
        .inl (.polled (.ok (.contacts .createContact
          (.reflectAndCommitTransaction [⟨false, 7, []⟩, ⟨true, 8, []⟩])))),
        .inl (.sentD2m (.reflect false 7 [])),
        .inr (.handle 2 []),
        .inr (.sends (.reflected 9 [])),
        .inl (.sentD2m (.reflect true 8 [])),
        .inl (.sentD2m .commitTransaction),
        .inl (.recvD2m (some (.reflectAck 7))),
        .inr (.handle 2 []),
        .inr (.handle 2 []),
        .inl (.recvD2m (some (.reflected 9 []))),
        .inl (.sentD2m (.reflectedAck 9)),
        .inl (.recvD2m (some .commitTransactionAck))]).map
      (fun s => (s.driver.pc, s.lock, s.toMediator)) =
    some (.respond (.contacts .createContact (.commitTransactionResponse [7])), .free,
      [.reflectedAck 9]) := by
  rfl

end Mediated

end MultideviceClient
