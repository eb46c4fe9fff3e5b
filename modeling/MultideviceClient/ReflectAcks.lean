import Mathlib.Data.List.Nodup
import MultideviceClient.Mediator

/-!
# Acknowledgements of reflected messages

`reflect` and `reflect_and_commit_transaction` collect the ids of the
`ReflectAck` payloads that arrive while they wait, and return them.  Neither
compares an id with the messages it has reflected.  `reflect` counts: it returns
after as many acknowledgements as it has reflected messages that are not
ephemeral.  The other call returns at the `CommitTransactionAck`.

So the ids they return are those of the acknowledgements that happened to arrive
(`ReflectCall.returns_acks`), and they belong to the messages of the instruction
exactly when the acknowledgements that arrive do (`reflectAcks_match_iff`).
-/

namespace MultideviceClient

open Foundations

variable {L : Libthreema}

/-! ## The calls -/

/-- The two calls that reflect messages. -/
inductive ReflectCall where
  | reflect
  | reflectAndCommitTransaction (task : ContactsTask)
deriving DecidableEq, Repr

namespace ReflectCall

/-- Where the driver is at the start of the call. -/
def start (messages : List ReflectPayload) : ReflectCall → DriverPc
  | .reflect => MultideviceClient.reflect messages
  | .reflectAndCommitTransaction task =>
      MultideviceClient.reflectAndCommitTransaction task messages

/-- The response that the call returns. -/
def response (acknowledgedReflectIds : List UInt32) : ReflectCall → IncomingMessageResponse
  | .reflect => .reflectMessage acknowledgedReflectIds
  | .reflectAndCommitTransaction task =>
      .contacts task (.commitTransactionResponse acknowledgedReflectIds)

/-- What follows the messages, `n` of which are to be acknowledged. -/
def goal (n : Nat) : ReflectCall → ReflectGoal
  | .reflect => .acks n
  | .reflectAndCommitTransaction task => .commit task

end ReflectCall

/-- `reflect_ack_id`. -/
def D2mIncomingPayload.reflectAckId : D2mIncomingPayload → Option UInt32
  | .reflectAck reflectId => some reflectId
  | _ => none

/-- The payload of the mediator that a label brings. -/
def DriverLabel.arrival : DriverLabel → Option D2mIncomingPayload
  | .recvD2m payload => payload
  | _ => none

/-- The label leaves the driver in its call: it neither polls the task nor gives
it a response. -/
def DriverLabel.inCall : DriverLabel → Bool
  | .polled _ => false
  | .responded _ => false
  | _ => true

/-- The acknowledgements among the payloads that arrive. -/
def reflectAcks (arrivals : List D2mIncomingPayload) : List UInt32 :=
  arrivals.filterMap D2mIncomingPayload.reflectAckId

/-! ## Inside a call -/

namespace ReflectCall

/-- The wait of the call, after the acknowledgements `acks`. -/
def Waits (n : Nat) (acks : List UInt32) : ReflectCall → Wait → Prop
  | .reflect, .reflectAcks pending ids =>
      ids = acks ∧ 0 < pending ∧ pending + acks.length = n
  | .reflectAndCommitTransaction task, .commitAck task' ids => task' = task ∧ ids = acks
  | _, _ => False

/-- The driver is inside the call, after the acknowledgements `acks`.  `pc` is
where it goes on after the handling of an unsolicited payload. -/
def At (call : ReflectCall) (n : Nat) (acks : List UInt32) : DriverPc → Prop
  | .sendReflect _ _ goal => acks = [] ∧ goal = call.goal n
  | .sendCommitTransaction wait => acks = [] ∧ call.Waits n acks wait
  | .nextD2mIncoming wait => call.Waits n acks wait
  | .respond response =>
      response = call.response acks ∧ (call = .reflect → acks.length = n)
  | .returned _ => True
  | _ => False

variable {call : ReflectCall} {n : Nat} {acks : List UInt32}

theorem at_awaitReflectAcks {pending : Nat} (h : pending + acks.length = n) :
    ReflectCall.reflect.At n acks (awaitReflectAcks pending acks) := by
  unfold awaitReflectAcks
  split
  next hzero => exact ⟨rfl, fun _ => by omega⟩
  next hpending => exact ⟨rfl, Nat.pos_of_ne_zero hpending, h⟩

theorem at_sendReflects (call : ReflectCall) (n : Nat) (messages : List ReflectPayload) :
    call.At n [] (sendReflects messages (call.goal n)) := by
  cases messages with
  | cons payload rest => exact ⟨rfl, rfl⟩
  | nil =>
      cases call with
      | reflect => exact at_awaitReflectAcks rfl
      | reflectAndCommitTransaction task => exact ⟨rfl, rfl, rfl⟩

/-- A call starts before any acknowledgement. -/
theorem at_start (call : ReflectCall) (messages : List ReflectPayload) :
    call.At (reflectIds messages).length [] (call.start messages) := by
  have hcount : messages.countP (fun message => !message.ephemeral) =
      (reflectIds messages).length := by
    rw [reflectIds, List.length_map, List.countP_eq_length_filter]
  cases call with
  | reflect =>
      show At _ _ _ (sendReflects messages (.acks _))
      rw [hcount]
      exact at_sendReflects .reflect _ messages
  | reflectAndCommitTransaction task =>
      exact at_sendReflects (.reflectAndCommitTransaction task) _ _

/-- A wait of the call takes up every acknowledgement, and nothing else but the
acknowledgement of the commit, with which it returns. -/
theorem at_accept {wait : Wait} {payload : D2mIncomingPayload} {pc : DriverPc}
    (h : call.Waits n acks wait) (haccept : wait.accept payload = some pc) :
    call.At n (acks ++ payload.reflectAckId.toList) pc := by
  cases call with
  | reflect =>
      cases wait with
      | reflectAcks pending ids =>
          obtain ⟨rfl, hpending, hlength⟩ := h
          cases payload <;> cases haccept
          apply at_awaitReflectAcks
          rw [D2mIncomingPayload.reflectAckId, Option.toList_some, List.length_append,
            List.length_singleton]
          omega
      | _ => exact h.elim
  | reflectAndCommitTransaction task =>
      cases wait with
      | commitAck task' ids =>
          obtain ⟨rfl, rfl⟩ := h
          cases payload <;> cases haccept
          · exact ⟨rfl, rfl⟩
          · exact ⟨by simp [response, D2mIncomingPayload.reflectAckId], nofun⟩
      | _ => exact h.elim

/-- What a wait of the call does not accept is no acknowledgement. -/
theorem reflectAckId_of_rejected {wait : Wait} {payload : D2mIncomingPayload}
    (h : call.Waits n acks wait) (hreject : wait.accept payload = none) :
    payload.reflectAckId = none := by
  cases call <;> cases wait <;> first | exact h.elim | cases payload <;> first | rfl | cases hreject

/-- A step inside the call takes up the acknowledgement that it brings. -/
theorem At.next {self self' : Driver L} {l : DriverLabel} (h : call.At n acks self.pc.continuation)
    (hin : l.inCall = true) (hl : self.next l = some self') :
    call.At n (acks ++ (l.arrival.bind D2mIncomingPayload.reflectAckId).toList)
      self'.pc.continuation := by
  cases Driver.step_of_next hl with
  | message message hpc => rw [hpc.1] at h; exact h.elim
  | messageAck messageAck hpc => rw [hpc.1] at h; exact h.elim
  | cspClosed hpc => trivial
  | accepted hpc haccept =>
      rw [hpc] at h
      have hat := at_accept h haccept
      rw [Driver.continuation_of_due (Driver.due_accept haccept)]
      exact hat
  | @unsolicited resume payload hpc hreject =>
      rw [hpc.1, Driver.continuation_resume] at h
      rw [Driver.continuation_handleUnsolicitedD2m]
      cases resume with
      | none => exact h.elim
      | some wait =>
          have hnone : payload.reflectAckId = none :=
            reflectAckId_of_rejected h (hreject wait rfl)
          show call.At n (acks ++ payload.reflectAckId.toList) _
          rw [hnone, Option.toList_none, List.append_nil]
          exact h
  | d2mClosed hpc => trivial
  | polled loop hpc htask => cases hin
  | pollFailed error hpc htask => cases hin
  | fetched hpc => rw [hpc] at h; exact h.elim
  | responded hpc => cases hin
  | responseFailed error hpc => cases hin
  | updated hpc =>
      rw [hpc] at h
      show call.At n (acks ++ []) _
      rw [List.append_nil]
      exact h
  | updateFailed error hpc => trivial
  | sentUnblock hpc =>
      rw [hpc] at h
      show call.At n (acks ++ []) (DriverPc.resume _).continuation
      rw [List.append_nil, Driver.continuation_resume]
      exact h
  | sentMessageAck hpc => rw [hpc] at h; exact h.elim
  | sentReflectedAck hpc =>
      rw [hpc] at h
      show call.At n (acks ++ []) (DriverPc.resume _).continuation
      rw [List.append_nil, Driver.continuation_resume]
      exact h
  | sentBeginTransaction hpc => rw [hpc] at h; exact h.elim
  | @sentReflect payload rest goal hpc =>
      rw [hpc] at h
      obtain ⟨rfl, rfl⟩ := h
      rw [Driver.continuation_of_due (Driver.due_sendReflects rest _)]
      exact at_sendReflects call n rest
  | sentCommitTransaction hpc =>
      rw [hpc] at h
      obtain ⟨rfl, hwaits⟩ := h
      exact hwaits
  | sendFailed hsend => trivial
  | provided data emitted hpc =>
      show call.At n (acks ++ []) _
      rw [List.append_nil]
      exact h

/-- Inside the call, the driver collects the acknowledgements that arrive. -/
theorem At.exec {self self' : Driver L} {ls : List DriverLabel}
    (h : call.At n acks self.pc.continuation) (hin : ∀ l ∈ ls, l.inCall = true)
    (hrun : (driverMachine L).exec self ls = some self') :
    call.At n (acks ++ reflectAcks (ls.filterMap DriverLabel.arrival))
      self'.pc.continuation := by
  induction ls generalizing self acks with
  | nil =>
      cases hrun
      rw [List.filterMap_nil, reflectAcks, List.filterMap_nil, List.append_nil]
      exact h
  | cons l ls ih =>
      obtain ⟨s₁, hl, hrest⟩ := (driverMachine L).exec_cons_eq_some.mp hrun
      have hnext := h.next (hin l (List.mem_cons_self ..)) hl
      have hexec := ih hnext (fun l' hmem => hin l' (List.mem_cons_of_mem _ hmem)) hrest
      have hsplit : reflectAcks ((l :: ls).filterMap DriverLabel.arrival) =
          (l.arrival.bind D2mIncomingPayload.reflectAckId).toList ++
            reflectAcks (ls.filterMap DriverLabel.arrival) := by
        cases harrival : l.arrival with
        | none => rw [List.filterMap_cons_none harrival]; rfl
        | some payload =>
            rw [List.filterMap_cons_some harrival, reflectAcks, List.filterMap_cons]
            cases hid : payload.reflectAckId <;> simp [reflectAcks, hid]
      rw [hsplit, ← List.append_assoc]
      exact hexec

/-- A call returns the ids of the acknowledgements that arrived, and `reflect`
as many as it has reflected messages that are not ephemeral. -/
theorem returns_acks {messages : List ReflectPayload} {self self' : Driver L}
    {ls : List DriverLabel} {ids : List UInt32} (hstart : self.pc = call.start messages)
    (hin : ∀ l ∈ ls, l.inCall = true) (hrun : (driverMachine L).exec self ls = some self')
    (hok : self'.pc = .respond (call.response ids)) :
    ids = reflectAcks (ls.filterMap DriverLabel.arrival) ∧
      (call = .reflect → ids.length = (reflectIds messages).length) := by
  have hat := at_start call messages
  have hdue : (call.start messages).due = [] := by
    cases call <;> exact Driver.due_sendReflects ..
  rw [← Driver.continuation_of_due hdue, ← hstart] at hat
  have hend := hat.exec hin hrun
  rw [hok] at hend
  obtain ⟨hresponse, hlength⟩ := hend
  have hids : ids = reflectAcks (ls.filterMap DriverLabel.arrival) := by
    cases call <;> cases hresponse <;> rfl
  exact ⟨hids, fun hcall => hids ▸ hlength hcall⟩

end ReflectCall

/-! ## Matching -/

/-- The ids acknowledge the messages: those that are not ephemeral are all there,
nothing else is, and nothing is twice. -/
structure AcknowledgesAll (messages : List ReflectPayload) (ids : List UInt32) : Prop where
  complete : ∀ message ∈ messages, message.ephemeral = false → message.id ∈ ids
  own : ∀ id ∈ ids, ∃ message ∈ messages, message.id = id
  once : ids.Nodup

/-- The acknowledgements that arrive during the call are of its own messages and
not repeated.  Those that `reflect` counts are of messages that are not
ephemeral, and those of these messages come before the `CommitTransactionAck`. -/
def ReflectCall.Fits (messages : List ReflectPayload) (acks : List UInt32) : ReflectCall → Prop
  | .reflect => acks.Nodup ∧ ∀ id ∈ acks, id ∈ reflectIds messages
  | .reflectAndCommitTransaction _ =>
      acks.Nodup ∧ (∀ id ∈ acks, id ∈ messages.map ReflectPayload.id) ∧
        ∀ id ∈ reflectIds messages, id ∈ acks

theorem mem_reflectIds {messages : List ReflectPayload} {id : UInt32} :
    id ∈ reflectIds messages ↔
      ∃ message ∈ messages, message.ephemeral = false ∧ message.id = id := by
  simp [reflectIds, and_assoc]

theorem reflectIds_nodup {messages : List ReflectPayload}
    (h : (messages.map ReflectPayload.id).Nodup) : (reflectIds messages).Nodup :=
  h.sublist (List.filter_sublist.map ReflectPayload.id)

theorem acknowledgesAll_iff {messages : List ReflectPayload} {ids : List UInt32} :
    AcknowledgesAll messages ids ↔
      ids.Nodup ∧ (∀ id ∈ ids, id ∈ messages.map ReflectPayload.id) ∧
        ∀ id ∈ reflectIds messages, id ∈ ids := by
  constructor
  · rintro ⟨hcomplete, hown, honce⟩
    refine ⟨honce, fun id hid => List.mem_map.mpr (hown id hid), ?_⟩
    intro id hid
    obtain ⟨message, hmem, hephemeral, rfl⟩ := mem_reflectIds.mp hid
    exact hcomplete message hmem hephemeral
  · rintro ⟨honce, hown, hcomplete⟩
    refine ⟨?_, fun id hid => List.mem_map.mp (hown id hid), honce⟩
    intro message hmem hephemeral
    exact hcomplete _ (mem_reflectIds.mpr ⟨message, hmem, hephemeral, rfl⟩)

/-- A call that returns acknowledges the messages of its instruction exactly when
the acknowledgements that arrive during the call fit. -/
theorem reflectAcks_match_iff (call : ReflectCall) (messages : List ReflectPayload)
    (hdistinct : (messages.map ReflectPayload.id).Nodup) (self self' : Driver L)
    (ls : List DriverLabel) (ids : List UInt32) (hstart : self.pc = call.start messages)
    (hin : ∀ l ∈ ls, l.inCall = true) (hrun : (driverMachine L).exec self ls = some self')
    (hok : self'.pc = .respond (call.response ids)) :
    AcknowledgesAll messages ids ↔
      call.Fits messages (reflectAcks (ls.filterMap DriverLabel.arrival)) := by
  obtain ⟨hids, hlength⟩ := ReflectCall.returns_acks hstart hin hrun hok
  rw [← hids, acknowledgesAll_iff]
  cases call with
  | reflectAndCommitTransaction task => exact Iff.rfl
  | reflect =>
      -- as many ids as there are messages to acknowledge
      have hsame := hlength rfl
      constructor
      · rintro ⟨honce, -, hcomplete⟩
        refine ⟨honce, ?_⟩
        have hperm : (reflectIds messages).Perm ids :=
          (List.subperm_of_subset (reflectIds_nodup hdistinct) hcomplete).perm_of_length_le
            (Nat.le_of_eq hsame)
        intro id hid
        exact hperm.mem_iff.mpr hid
      · rintro ⟨honce, hown⟩
        have hperm : ids.Perm (reflectIds messages) :=
          (List.subperm_of_subset honce hown).perm_of_length_le (Nat.le_of_eq hsame.symm)
        refine ⟨honce, ?_, fun id hid => hperm.mem_iff.mpr hid⟩
        intro id hid
        obtain ⟨message, hmem, -, rfl⟩ := mem_reflectIds.mp (hown id hid)
        exact List.mem_map_of_mem hmem

/-! ### Acknowledgements of another round -/

namespace LateAck

/-- A message and a typing indicator are reflected. -/
def messages : List ReflectPayload := [⟨false, 1, []⟩, ⟨true, 2, []⟩]

/-- The driver at the start of a call. -/
def driver (call : ReflectCall) : Driver (Libthreema.sample fun _ => .error "invalid envelope") :=
  { Driver.sample with pendingTask := some ⟨[1]⟩, pc := call.start messages }

/-- Both messages are sent. -/
def sent : List DriverLabel :=
  [.sentD2m (.reflect false 1 []), .sentD2m (.reflect true 2 [])]

/-- A reflected payload comes before the acknowledgement. -/
def acknowledged : List DriverLabel :=
  sent ++ [.recvD2m (some (.reflected 7 [])), .sentD2m (.reflectedAck 7),
    .recvD2m (some (.reflectAck 1))]

end LateAck

open LateAck in
/-- The acknowledgement of the message fits. -/
theorem reflectAcks_match_acknowledged : AcknowledgesAll messages [1] := by
  refine (reflectAcks_match_iff .reflect messages (by decide) (driver .reflect) _ acknowledged [1]
    rfl (by decide) rfl rfl).mpr ?_
  have hacks : reflectAcks (acknowledged.filterMap DriverLabel.arrival) = [1] := rfl
  have hids : reflectIds messages = [1] := rfl
  rw [hacks]
  refine ⟨List.nodup_singleton 1, ?_⟩
  intro id hid
  rw [hids]
  exact hid

open LateAck in
/-- `reflect` returns with the id 9 of an earlier round, and the commit without
any id. -/
theorem reflectAcks_not_match :
    (∃ s, (driverMachine _).exec (driver .reflect)
        (sent ++ [.recvD2m (some (.reflectAck 9))]) = some s ∧
      s.pc = .respond (ReflectCall.reflect.response [9]) ∧ ¬ AcknowledgesAll messages [9]) ∧
    ∃ s, (driverMachine _).exec (driver (.reflectAndCommitTransaction .createContact))
        (sent ++ [.sentD2m .commitTransaction, .recvD2m (some .commitTransactionAck)]) = some s ∧
      s.pc = .respond ((ReflectCall.reflectAndCommitTransaction .createContact).response []) ∧
      ¬ AcknowledgesAll messages [] := by
  refine ⟨⟨_, rfl, rfl, ?_⟩, _, rfl, rfl, ?_⟩
  · intro h
    exact absurd (h.complete ⟨false, 1, []⟩ (by decide) rfl) (by decide)
  · intro h
    exact absurd (h.complete ⟨false, 1, []⟩ (by decide) rfl) (by decide)

end MultideviceClient
