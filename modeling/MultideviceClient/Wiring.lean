import MultideviceClient.Client
import MultideviceClient.Foundations.Composition
import MultideviceClient.Unsolicited

/-!
# The branches of the client

A run of the client interleaves the runs of its three branches: the two
connections and the E2E driver.  `ClientTasks.Wired` takes it apart.  Each branch
makes a run of its own from its start, under its own labels.  The four channels
carry what one branch sends to the branch that receives it, in order, and never
hold more than their capacity.

So whatever holds of every run of a branch holds of the branch in the client, and
accounts of the branches chain over the channels.  `Client.tracks_exec` says this
of every run, also of one that ends before the branches are started, or after one
of them is done.
-/

namespace MultideviceClient

open Foundations

variable {P : CspProtocol} {Q : D2mProtocol} {L : Libthreema}

/-! ## The labels of the branches -/

namespace ClientLabel

/-- The step of the chat server connection in a label. -/
def ofCsp : ClientLabel → Option CspSessionLabel
  | .csp l => some l
  | _ => none

/-- The step of the mediator connection in a label. -/
def ofD2m : ClientLabel → Option D2mSessionLabel
  | .d2m l => some l
  | _ => none

/-- The step of the E2E driver in a label. -/
def ofDriver : ClientLabel → Option DriverLabel
  | .driver l => some l
  | _ => none

/-- What a label sends on `events`, apart from the driver. -/
def greeting : ClientLabel → List Event
  | .connectedD2m (.ok true) => [.connected]
  | _ => []

/-- The embedder has the receiver of the events after the label, if it had it before. -/
def keepsReceiver : ClientLabel → Bool
  | .connectedD2m (.ok receiver) => receiver
  | .receiverDropped => false
  | _ => true

/-- The label is no step of a branch. -/
def isOwn : ClientLabel → Bool
  | .csp _ => false
  | .d2m _ => false
  | .driver _ => false
  | _ => true

end ClientLabel

/-- The part of a run in which the embedder has the receiver of the events. -/
def heard (ls : List ClientLabel) : List ClientLabel := ls.takeWhile ClientLabel.keepsReceiver

theorem prefix_heard (ls : List ClientLabel) : heard ls <+: ls := List.takeWhile_prefix _

theorem heard_eq_self_iff {ls : List ClientLabel} :
    heard ls = ls ↔ ls.all ClientLabel.keepsReceiver = true := by
  rw [heard, List.takeWhile_eq_self_iff, List.all_eq_true]

/-- A step is heard when nothing up to it loses the receiver. -/
theorem heard_concat (ls : List ClientLabel) (l : ClientLabel) :
    heard (ls ++ [l]) =
      if (ls ++ [l]).all ClientLabel.keepsReceiver then ls ++ [l] else heard ls := by
  cases hls : ls.all ClientLabel.keepsReceiver with
  | true =>
      rw [heard, List.takeWhile_append_of_pos (List.all_eq_true.mp hls), heard_eq_self_iff.mpr hls,
        List.all_append, hls, Bool.true_and]
      cases hl : l.keepsReceiver <;> simp [hl]
  | false =>
      rw [List.all_append, hls, Bool.false_and, heard, List.takeWhile_append, if_neg, heard]
      · rfl
      · intro hlength
        have hself : heard ls = ls := (prefix_heard ls).eq_of_length hlength
        rw [heard_eq_self_iff, hls] at hself
        cases hself

/-- The driver does not take part in the other steps. -/
theorem filterMap_heard_concat (ls : List ClientLabel) {l : ClientLabel} (hl : l.ofDriver = none) :
    (heard (ls ++ [l])).filterMap ClientLabel.ofDriver =
      (heard ls).filterMap ClientLabel.ofDriver := by
  rw [heard_concat]
  split
  next hall =>
      rw [List.all_append, Bool.and_eq_true] at hall
      rw [heard_eq_self_iff.mpr hall.1, List.filterMap_append]
      simp [hl]
  next => rfl

/-- What a part of a run sends on a channel. -/
def sentOn {κ α β : Type} (port : κ → Port α β) (ls : List κ) : List α :=
  ls.flatMap fun l => (port l).puts

/-- What a part of a run receives on a channel. -/
def receivedOn {κ α β : Type} (port : κ → Port α β) (ls : List κ) : List β :=
  ls.flatMap fun l => (port l).takes

theorem sentOn_concat {κ α β : Type} (port : κ → Port α β) (ls : List κ) (l : κ) :
    sentOn port (ls ++ [l]) = sentOn port ls ++ (port l).puts := by
  simp [sentOn]

theorem receivedOn_concat {κ α β : Type} (port : κ → Port α β) (ls : List κ) (l : κ) :
    receivedOn port (ls ++ [l]) = receivedOn port ls ++ (port l).takes := by
  simp [receivedOn]

namespace ClientTasks

/-! ## Steps of the branches -/

/-- Everything a step of the chat server connection does. -/
theorem nextCsp_eq_some {self self' : ClientTasks P Q L} {l : CspSessionLabel}
    (h : self.nextCsp l = some self') :
    l ≠ .payload .sendFailed ∧ l ≠ .payload (.recvOutgoing none) ∧
      (self.streamEnded = true → l.readsOn = false) ∧
      ∃ csp chans, self.csp.next l = some csp ∧
        Link.transfer 4 self.cspIncoming self.cspOutgoing l.port = some chans ∧
        self' = { self with
          csp := csp
          streamEnded := self.streamEnded || l.readsEnd
          cspIncoming := chans.1
          cspOutgoing := chans.2 } := by
  simp only [nextCsp] at h
  split at h
  next => cases h
  next hne =>
      obtain ⟨⟨hfailed, hclosed⟩, hended⟩ : (l ≠ .payload .sendFailed ∧
          l ≠ .payload (.recvOutgoing none)) ∧
          (self.streamEnded = true → l.readsOn = false) := by simpa using hne
      obtain ⟨csp, hcsp, h⟩ := Option.bind_eq_some_iff.mp h
      obtain ⟨chans, hchans, rfl⟩ := Option.map_eq_some_iff.mp h
      exact ⟨hfailed, hclosed, hended, csp, chans, hcsp, hchans, rfl⟩

/-- Everything a step of the mediator connection does. -/
theorem nextD2m_eq_some {self self' : ClientTasks P Q L} {l : D2mSessionLabel}
    (h : self.nextD2m l = some self') :
    l ≠ .payload .sendFailed ∧
      ∃ d2m chans, self.d2m.next l = some d2m ∧
        Link.transfer 16 self.d2mIncoming self.d2mOutgoing l.port = some chans ∧
        self' = { self with d2m := d2m, d2mIncoming := chans.1, d2mOutgoing := chans.2 } := by
  simp only [nextD2m] at h
  split at h
  next => cases h
  next hne =>
      obtain ⟨d2m, hd2m, h⟩ := Option.bind_eq_some_iff.mp h
      obtain ⟨chans, hchans, rfl⟩ := Option.map_eq_some_iff.mp h
      exact ⟨hne, d2m, chans, hd2m, hchans, rfl⟩

/-- Everything a step of the driver does. -/
theorem nextDriver_eq_some {self self' : ClientTasks P Q L} {l : DriverLabel}
    (h : self.nextDriver l = some self') :
    self.allows l = true ∧ ∃ driver csp d2m, self.driver.next l = some driver ∧
      Link.transfer 4 self.cspOutgoing self.cspIncoming l.cspPort = some csp ∧
      Link.transfer 16 self.d2mOutgoing self.d2mIncoming l.d2mPort = some d2m ∧
      self' = { self with
        driver := driver
        cspOutgoing := csp.1
        cspIncoming := csp.2
        d2mOutgoing := d2m.1
        d2mIncoming := d2m.2 } := by
  simp only [nextDriver] at h
  split at h
  next hallows =>
      obtain ⟨driver, hdriver, h⟩ := Option.bind_eq_some_iff.mp h
      obtain ⟨csp, hcsp, h⟩ := Option.bind_eq_some_iff.mp h
      obtain ⟨d2m, hd2m, rfl⟩ := Option.map_eq_some_iff.mp h
      exact ⟨hallows, driver, csp, d2m, hdriver, hcsp, hd2m, rfl⟩
  next => cases h

/-- While the `select!` goes on, none of its branches has returned. -/
theorem result_eq_none {self : ClientTasks P Q L} (h : self.result = none) :
    (∀ result, self.csp.pc ≠ .returned result) ∧ (∀ error, self.d2m.pc ≠ .returned error) ∧
      ∀ error, self.driver.pc ≠ .returned error := by
  simp only [result] at h
  split at h
  next => cases h
  next => cases h
  next => cases h
  next => cases h
  next hok herror hd2m hdriver =>
      refine ⟨?_, hd2m, hdriver⟩
      intro result hpc
      cases result with
      | ok done => exact hok hpc
      | error message => exact herror message hpc

/-- The `select!` ends with the branch that has returned. -/
theorem result_eq_some {self : ClientTasks P Q L} {result : Except String Unit}
    (h : self.result = some result) :
    (self.csp.pc = .returned (.ok ()) ∧ result = .ok ()) ∨
      (∃ message, self.csp.pc = .returned (.error message) ∧
        result = .error (errorWithContext "CSP connection ended" message)) ∨
      (∃ message, self.d2m.pc = .returned message ∧
        result = .error (errorWithContext "D2M connection ended" message)) ∨
      ∃ message, self.driver.pc = .returned message ∧
        result = .error (errorWithContext "Message processing ended" message) := by
  simp only [ClientTasks.result] at h
  split at h
  next hpc =>
      cases h
      exact .inl ⟨hpc, rfl⟩
  next message hpc =>
      cases h
      exact .inr (.inl ⟨message, hpc, rfl⟩)
  next =>
      cases h
      exact .inr (.inr (.inl ⟨_, by assumption, rfl⟩))
  next =>
      cases h
      exact .inr (.inr (.inr ⟨_, by assumption, rfl⟩))
  next => cases h

/-! ## A run, taken apart -/

/-- The channels hold no more than their capacity. -/
structure Room (tasks : ClientTasks P Q L) : Prop where
  cspIncoming : tasks.cspIncoming.length ≤ 4
  cspOutgoing : tasks.cspOutgoing.length ≤ 4
  d2mIncoming : tasks.d2mIncoming.length ≤ 16
  d2mOutgoing : tasks.d2mOutgoing.length ≤ 16

/-- The branches have made the steps of a run that are theirs, and the channels
hold what was sent and not received. -/
structure Wired (parts : ClientParts P Q L) (ls : List ClientLabel)
    (tasks : ClientTasks P Q L) : Prop where
  csp : (CspSession.machine P).exec (.start parts.cspProtocol parts.clientHello)
    (ls.filterMap ClientLabel.ofCsp) = some tasks.csp
  d2m : (D2mSession.machine Q).exec (.start parts.d2mProtocol)
    (ls.filterMap ClientLabel.ofD2m) = some tasks.d2m
  driver : (driverMachine L).exec
    (.new parts.deviceGroupKey parts.contactStore parts.contacts)
    (ls.filterMap ClientLabel.ofDriver) = some tasks.driver
  cspIncoming : receivedOn DriverLabel.cspPort (ls.filterMap ClientLabel.ofDriver) ++
    tasks.cspIncoming = sentOn CspSessionLabel.port (ls.filterMap ClientLabel.ofCsp)
  cspOutgoing : receivedOn CspSessionLabel.port (ls.filterMap ClientLabel.ofCsp) ++
    tasks.cspOutgoing = sentOn DriverLabel.cspPort (ls.filterMap ClientLabel.ofDriver)
  d2mIncoming : receivedOn DriverLabel.d2mPort (ls.filterMap ClientLabel.ofDriver) ++
    tasks.d2mIncoming = sentOn D2mSessionLabel.port (ls.filterMap ClientLabel.ofD2m)
  d2mOutgoing : receivedOn D2mSessionLabel.port (ls.filterMap ClientLabel.ofD2m) ++
    tasks.d2mOutgoing = sentOn DriverLabel.d2mPort (ls.filterMap ClientLabel.ofDriver)
  room : tasks.Room

namespace Wired

variable {parts : ClientParts P Q L} {ls : List ClientLabel} {self self' : ClientTasks P Q L}

theorem start (parts : ClientParts P Q L) : Wired parts [] (.start parts) where
  csp := rfl
  d2m := rfl
  driver := rfl
  cspIncoming := rfl
  cspOutgoing := rfl
  d2mIncoming := rfl
  d2mOutgoing := rfl
  room := ⟨Nat.zero_le _, Nat.zero_le _, Nat.zero_le _, Nat.zero_le _⟩

/-- A step that is none of a branch. -/
theorem own (h : Wired parts ls self) {l : ClientLabel} (hl : l.isOwn = true) :
    Wired parts (ls ++ [l]) self := by
  have hcsp : (ls ++ [l]).filterMap ClientLabel.ofCsp = ls.filterMap ClientLabel.ofCsp := by
    rw [Machine.filterMap_concat]
    cases l <;> simp_all [ClientLabel.ofCsp, ClientLabel.isOwn]
  have hd2m : (ls ++ [l]).filterMap ClientLabel.ofD2m = ls.filterMap ClientLabel.ofD2m := by
    rw [Machine.filterMap_concat]
    cases l <;> simp_all [ClientLabel.ofD2m, ClientLabel.isOwn]
  have hdriver : (ls ++ [l]).filterMap ClientLabel.ofDriver =
      ls.filterMap ClientLabel.ofDriver := by
    rw [Machine.filterMap_concat]
    cases l <;> simp_all [ClientLabel.ofDriver, ClientLabel.isOwn]
  exact ⟨hcsp ▸ h.csp, hd2m ▸ h.d2m, hdriver ▸ h.driver, hcsp ▸ hdriver ▸ h.cspIncoming,
    hcsp ▸ hdriver ▸ h.cspOutgoing, hd2m ▸ hdriver ▸ h.d2mIncoming,
    hd2m ▸ hdriver ▸ h.d2mOutgoing, h.room⟩

theorem nextCsp (h : Wired parts ls self) {l : CspSessionLabel}
    (hl : self.nextCsp l = some self') : Wired parts (ls ++ [.csp l]) self' := by
  obtain ⟨-, -, -, csp, ⟨incoming, outgoing⟩, hcsp, hchans, rfl⟩ := nextCsp_eq_some hl
  obtain ⟨rfl, htaken⟩ := Link.transfer_flow hchans
  obtain ⟨-, hshrinks, hroom⟩ := Link.transfer_length hchans
  have hown : (ls ++ [ClientLabel.csp l]).filterMap ClientLabel.ofCsp =
      ls.filterMap ClientLabel.ofCsp ++ [l] := by simp [ClientLabel.ofCsp]
  have hd2m : (ls ++ [ClientLabel.csp l]).filterMap ClientLabel.ofD2m =
      ls.filterMap ClientLabel.ofD2m := by simp [ClientLabel.ofD2m]
  have hdriver : (ls ++ [ClientLabel.csp l]).filterMap ClientLabel.ofDriver =
      ls.filterMap ClientLabel.ofDriver := by simp [ClientLabel.ofDriver]
  refine ⟨?_, hd2m ▸ h.d2m, hdriver ▸ h.driver, ?_, ?_, hd2m ▸ hdriver ▸ h.d2mIncoming,
    hd2m ▸ hdriver ▸ h.d2mOutgoing, ?_⟩
  · rw [hown]
    exact (CspSession.machine P).exec_concat h.csp hcsp
  · rw [hown, hdriver, sentOn_concat]
    exact flow_puts h.cspIncoming _
  · rw [hown, hdriver, receivedOn_concat]
    exact flow_takes h.cspOutgoing htaken
  · have := h.room.cspOutgoing
    exact ⟨hroom h.room.cspIncoming, by simp only; omega, h.room.d2mIncoming, h.room.d2mOutgoing⟩

theorem nextD2m (h : Wired parts ls self) {l : D2mSessionLabel}
    (hl : self.nextD2m l = some self') : Wired parts (ls ++ [.d2m l]) self' := by
  obtain ⟨-, d2m, ⟨incoming, outgoing⟩, hd2m, hchans, rfl⟩ := nextD2m_eq_some hl
  obtain ⟨rfl, htaken⟩ := Link.transfer_flow hchans
  obtain ⟨-, hshrinks, hroom⟩ := Link.transfer_length hchans
  have hcsp : (ls ++ [ClientLabel.d2m l]).filterMap ClientLabel.ofCsp =
      ls.filterMap ClientLabel.ofCsp := by simp [ClientLabel.ofCsp]
  have hown : (ls ++ [ClientLabel.d2m l]).filterMap ClientLabel.ofD2m =
      ls.filterMap ClientLabel.ofD2m ++ [l] := by simp [ClientLabel.ofD2m]
  have hdriver : (ls ++ [ClientLabel.d2m l]).filterMap ClientLabel.ofDriver =
      ls.filterMap ClientLabel.ofDriver := by simp [ClientLabel.ofDriver]
  refine ⟨hcsp ▸ h.csp, ?_, hdriver ▸ h.driver, hcsp ▸ hdriver ▸ h.cspIncoming,
    hcsp ▸ hdriver ▸ h.cspOutgoing, ?_, ?_, ?_⟩
  · rw [hown]
    exact (D2mSession.machine Q).exec_concat h.d2m hd2m
  · rw [hown, hdriver, sentOn_concat]
    exact flow_puts h.d2mIncoming _
  · rw [hown, hdriver, receivedOn_concat]
    exact flow_takes h.d2mOutgoing htaken
  · have := h.room.d2mOutgoing
    exact ⟨h.room.cspIncoming, h.room.cspOutgoing, hroom h.room.d2mIncoming, by simp only; omega⟩

theorem nextDriver (h : Wired parts ls self) {l : DriverLabel}
    (hl : self.nextDriver l = some self') : Wired parts (ls ++ [.driver l]) self' := by
  obtain ⟨-, driver, ⟨cspOut, cspIn⟩, ⟨d2mOut, d2mIn⟩, hdriver, hcsp, hd2m, rfl⟩ :=
    nextDriver_eq_some hl
  obtain ⟨rfl, hcspTaken⟩ := Link.transfer_flow hcsp
  obtain ⟨rfl, hd2mTaken⟩ := Link.transfer_flow hd2m
  obtain ⟨-, hcspShrinks, hcspRoom⟩ := Link.transfer_length hcsp
  obtain ⟨-, hd2mShrinks, hd2mRoom⟩ := Link.transfer_length hd2m
  have hcspLabels : (ls ++ [ClientLabel.driver l]).filterMap ClientLabel.ofCsp =
      ls.filterMap ClientLabel.ofCsp := by simp [ClientLabel.ofCsp]
  have hd2mLabels : (ls ++ [ClientLabel.driver l]).filterMap ClientLabel.ofD2m =
      ls.filterMap ClientLabel.ofD2m := by simp [ClientLabel.ofD2m]
  have hown : (ls ++ [ClientLabel.driver l]).filterMap ClientLabel.ofDriver =
      ls.filterMap ClientLabel.ofDriver ++ [l] := by simp [ClientLabel.ofDriver]
  refine ⟨hcspLabels ▸ h.csp, hd2mLabels ▸ h.d2m, ?_, ?_, ?_, ?_, ?_, ?_⟩
  · rw [hown]
    exact (driverMachine L).exec_concat h.driver hdriver
  · rw [hown, hcspLabels, receivedOn_concat]
    exact flow_takes h.cspIncoming hcspTaken
  · rw [hown, hcspLabels, sentOn_concat]
    exact flow_puts h.cspOutgoing _
  · rw [hown, hd2mLabels, receivedOn_concat]
    exact flow_takes h.d2mIncoming hd2mTaken
  · rw [hown, hd2mLabels, sentOn_concat]
    exact flow_puts h.d2mOutgoing _
  · have := h.room.cspIncoming
    have := h.room.d2mIncoming
    exact ⟨by simp only; omega, hcspRoom h.room.cspOutgoing, by simp only; omega,
      hd2mRoom h.room.d2mOutgoing⟩

end Wired

end ClientTasks

/-! ## The client and its branches -/

/-- The branches are not started yet. -/
def ClientPhase.isBefore : ClientPhase P Q L → Bool
  | .setUp _ => true
  | .connectCsp => true
  | .connectD2m => true
  | _ => false

namespace Client

/-- The client after a run, with its branches.  When the client has returned, they
are the branches as they were dropped.  What has been sent on `events` is what the
driver had emitted while the embedder had the receiver. -/
structure Tracks (parts : ClientParts P Q L) (ls : List ClientLabel) (client : Client P Q L)
    (tasks : ClientTasks P Q L) : Prop where
  parts_eq : client.parts = parts
  wired : tasks.Wired parts ls
  receiver_eq : client.receiver = ls.all ClientLabel.keepsReceiver
  sent : ∃ driver, (driverMachine L).exec
      (.new parts.deviceGroupKey parts.contactStore parts.contacts)
      ((heard ls).filterMap ClientLabel.ofDriver) = some driver ∧
    client.events = ls.flatMap ClientLabel.greeting ++ driver.events
  greeted : ls.flatMap ClientLabel.greeting = [] ∨ ls.flatMap ClientLabel.greeting = [.connected]
  texts : ∀ event ∈ tasks.driver.events, event.isTextMessage = true
  before : client.phase.isBefore = true →
    tasks = .start parts ∧ client.receiver = true ∧ client.events = [] ∧
      ls.flatMap ClientLabel.greeting = []
  running : ∀ tasks', client.phase = .running tasks' → tasks' = tasks

namespace Tracks

variable {parts : ClientParts P Q L} {ls : List ClientLabel} {client client' : Client P Q L}
  {tasks tasks' : ClientTasks P Q L}

theorem greeting_concat {l : ClientLabel} (ls : List ClientLabel) (hl : l.greeting = []) :
    (ls ++ [l]).flatMap ClientLabel.greeting = ls.flatMap ClientLabel.greeting := by
  rw [List.flatMap_append, List.flatMap_singleton, hl, List.append_nil]

theorem keepsReceiver_concat (ls : List ClientLabel) (l : ClientLabel) :
    (ls ++ [l]).all ClientLabel.keepsReceiver =
      (ls.all ClientLabel.keepsReceiver && l.keepsReceiver) := by
  simp

/-- While the embedder has the receiver, the whole run is heard. -/
theorem heard_eq_self (h : Tracks parts ls client tasks) :
    client.receiver = true ↔ heard ls = ls := by
  rw [h.receiver_eq, heard_eq_self_iff]

/-- While the embedder has the receiver, all that the driver has emitted has been sent. -/
theorem events_of_receiver (h : Tracks parts ls client tasks) (hreceiver : client.receiver = true) :
    client.events = ls.flatMap ClientLabel.greeting ++ tasks.driver.events := by
  obtain ⟨driver, hdriver, hevents⟩ := h.sent
  rw [h.heard_eq_self.mp hreceiver, h.wired.driver] at hdriver
  rw [hevents, Option.some.inj hdriver]

theorem start (parts : ClientParts P Q L) : Tracks parts [] (.start parts) (.start parts) := by
  refine ⟨rfl, .start parts, rfl, ⟨_, rfl, rfl⟩, Or.inl rfl, List.forall_mem_nil _,
    fun _ => ⟨rfl, rfl, rfl, rfl⟩, ?_⟩
  intro tasks' hphase
  cases hphase

/-- A step of the client that is none of its branches, and not the last one before
they are started. -/
theorem own (h : Tracks parts ls client tasks) {l : ClientLabel} (hl : l.isOwn = true)
    (hgreeting : l.greeting = []) (hparts : client'.parts = client.parts)
    (hreceiver : client'.receiver = (client.receiver && l.keepsReceiver))
    (hevents : client'.events = client.events)
    (hbefore : client'.phase.isBefore = true →
      client.phase.isBefore = true ∧ l.keepsReceiver = true)
    (hrunning : ∀ tasks', client'.phase = .running tasks' → client.phase = .running tasks') :
    Tracks parts (ls ++ [l]) client' tasks where
  parts_eq := hparts.trans h.parts_eq
  wired := h.wired.own hl
  receiver_eq := by rw [hreceiver, h.receiver_eq, keepsReceiver_concat]
  sent := by
    have hdriver : l.ofDriver = none := by cases l <;> first | rfl | cases hl
    rw [filterMap_heard_concat ls hdriver, hevents, greeting_concat ls hgreeting]
    exact h.sent
  greeted := by
    rw [greeting_concat ls hgreeting]
    exact h.greeted
  texts := h.texts
  before hphase := by
    obtain ⟨hisBefore, hkeeps⟩ := hbefore hphase
    obtain ⟨htasks, hlives, hnone, hgreeted⟩ := h.before hisBefore
    rw [greeting_concat ls hgreeting, hreceiver, hlives, hevents, hkeeps]
    exact ⟨htasks, rfl, hnone, hgreeted⟩
  running tasks' hphase := h.running tasks' (hrunning tasks' hphase)

theorem isBefore_select (client : Client P Q L) (tasks : ClientTasks P Q L) :
    (client.select tasks).phase.isBefore = false := by
  simp only [select]
  cases tasks.result <;> rfl

theorem running_select {client : Client P Q L} {tasks tasks' : ClientTasks P Q L}
    (h : (client.select tasks).phase = .running tasks') : tasks' = tasks := by
  simp only [select] at h
  split at h
  next =>
      cases h
      rfl
  next => cases h

/-- A step of a branch. -/
theorem select (h : Tracks parts ls client tasks) {l : ClientLabel} (hgreeting : l.greeting = [])
    (hkeeps : l.keepsReceiver = true) (hwired : tasks'.Wired parts (ls ++ [l]))
    (hparts : client'.parts = client.parts) (hreceiver : client'.receiver = client.receiver)
    (hheard : ∃ driver, (driverMachine L).exec
        (.new parts.deviceGroupKey parts.contactStore parts.contacts)
        ((heard (ls ++ [l])).filterMap ClientLabel.ofDriver) = some driver ∧
      client'.events = ls.flatMap ClientLabel.greeting ++ driver.events)
    (htexts : ∀ event ∈ tasks'.driver.events, event.isTextMessage = true) :
    Tracks parts (ls ++ [l]) (client'.select tasks') tasks' where
  parts_eq := (parts_select client' tasks').trans (hparts.trans h.parts_eq)
  wired := hwired
  receiver_eq := by
    rw [receiver_select, hreceiver, h.receiver_eq, keepsReceiver_concat, hkeeps, Bool.and_true]
  sent := by
    rw [events_select, greeting_concat ls hgreeting]
    exact hheard
  greeted := by
    rw [greeting_concat ls hgreeting]
    exact h.greeted
  texts := htexts
  before hbefore := by
    rw [isBefore_select] at hbefore
    cases hbefore
  running tasks'' hrunning := running_select hrunning

/-- What the driver emits is sent while the embedder has the receiver. -/
theorem heard_driver (h : Tracks parts ls client tasks) {l : DriverLabel} {sent : List Event}
    (hnext : tasks.driver.next l = some tasks'.driver)
    (hsent : tasks'.driver.events = tasks.driver.events ++ sent) :
    ∃ driver, (driverMachine L).exec
        (.new parts.deviceGroupKey parts.contactStore parts.contacts)
        ((heard (ls ++ [.driver l])).filterMap ClientLabel.ofDriver) =
          some driver ∧
      (client.send sent).events = ls.flatMap ClientLabel.greeting ++ driver.events := by
  have hkeeps : (ls ++ [ClientLabel.driver l]).all ClientLabel.keepsReceiver = client.receiver := by
    rw [keepsReceiver_concat, h.receiver_eq]
    exact Bool.and_true _
  rw [heard_concat, hkeeps, events_send]
  cases hreceiver : client.receiver with
  | true =>
      refine ⟨tasks'.driver, ?_, ?_⟩
      · rw [if_pos rfl, List.filterMap_append]
        exact (driverMachine L).exec_concat h.wired.driver hnext
      · rw [if_pos rfl, h.events_of_receiver hreceiver, hsent, List.append_assoc]
  | false =>
      obtain ⟨driver, hdriver, hevents⟩ := h.sent
      exact ⟨driver, hdriver, (List.append_nil _).trans hevents⟩

/-- The branches are started, and `Connected` is sent if the embedder has the receiver. -/
theorem connected (h : Tracks parts ls client tasks) (hphase : client.phase = .connectD2m)
    (receiver : Bool) :
    Tracks parts (ls ++ [.connectedD2m (.ok receiver)])
      { send { client with receiver := receiver } [.connected] with
        phase := .running (.start client.parts) } tasks := by
  have hisBefore : client.phase.isBefore = true := by rw [hphase]; rfl
  obtain ⟨htasks, hlives, hnone, hgreeted⟩ := h.before hisBefore
  have hgreeting : (ls ++ [ClientLabel.connectedD2m (.ok receiver)]).flatMap
      ClientLabel.greeting = if receiver then [.connected] else [] := by
    rw [List.flatMap_append, hgreeted, List.flatMap_singleton]
    cases receiver <;> rfl
  refine ⟨(parts_send _ _).trans h.parts_eq, h.wired.own rfl, ?_, ?_, ?_, h.texts, ?_, ?_⟩
  · rw [keepsReceiver_concat, ← h.receiver_eq, hlives, Bool.true_and]
    exact receiver_send _ _
  · obtain ⟨driver, hdriver, hevents⟩ := h.sent
    rw [hnone, hgreeted] at hevents
    refine ⟨driver, ?_, ?_⟩
    · rw [filterMap_heard_concat ls rfl]
      exact hdriver
    · rw [hgreeting, ← List.nil_append driver.events, ← hevents, List.append_nil]
      show (send { client with receiver := receiver } [Event.connected]).events = _
      rw [events_send, hnone, List.nil_append]
  · rw [hgreeting]
    cases receiver with
    | true => exact Or.inr rfl
    | false => exact Or.inl rfl
  · intro hbefore
    cases hbefore
  · intro tasks' hrunning
    cases hrunning
    rw [h.parts_eq, htasks]

/-- Every step of the client is a step of one of its branches, or none of them. -/
theorem next (h : Tracks parts ls client tasks) {l : ClientLabel}
    (hl : client.next l = some client') : ∃ tasks', Tracks parts (ls ++ [l]) client' tasks' := by
  cases step_of_next hl with
  | connectedD2m receiver hphase => exact ⟨tasks, h.connected hphase receiver⟩
  | @csp running running' l hphase hnext =>
      obtain rfl := h.running running hphase
      refine ⟨running', h.select rfl rfl (h.wired.nextCsp hnext) rfl rfl ?_ ?_⟩
      · rw [filterMap_heard_concat ls rfl]
        exact h.sent
      · rw [ClientTasks.driver_nextCsp hnext]
        exact h.texts
  | @d2m running running' l hphase hnext =>
      obtain rfl := h.running running hphase
      refine ⟨running', h.select rfl rfl (h.wired.nextD2m hnext) rfl rfl ?_ ?_⟩
      · rw [filterMap_heard_concat ls rfl]
        exact h.sent
      · rw [ClientTasks.driver_nextD2m hnext]
        exact h.texts
  | @driver running running' l sent hphase hnext hsent =>
      obtain rfl := h.running running hphase
      refine ⟨running', h.select rfl rfl (h.wired.nextDriver hnext) (parts_send _ _)
        (receiver_send _ _) (h.heard_driver (ClientTasks.driver_nextDriver hnext).2.1 hsent) ?_⟩
      obtain ⟨sent', hsent', htext, -⟩ := ClientTasks.events_nextDriver hnext
      rw [hsent']
      intro event hmem
      rcases List.mem_append.mp hmem with hold | hnew
      · exact h.texts event hold
      · exact htext event hnew
  | receiverDropped hphase =>
      refine ⟨tasks, h.own rfl rfl rfl (Bool.and_false _).symm rfl ?_ fun _ => id⟩
      intro hbefore
      replace hbefore : client.phase.isBefore = true := hbefore
      rw [hphase] at hbefore
      cases hbefore
  | @sendText running recipient text hphase =>
      refine ⟨tasks, h.own rfl rfl rfl (Bool.and_true _).symm rfl ?_ fun _ => id⟩
      exact fun hbefore => ⟨hbefore, rfl⟩
  | @shutdown running command hphase =>
      exact ⟨tasks, h.own rfl rfl rfl (Bool.and_true _).symm rfl (by intro h; cases h)
        (by intro _ h; cases h)⟩
  -- the set-up and the connections
  | _ =>
      have hphase := ‹client.phase = _›
      have hisBefore : client.phase.isBefore = true := by rw [hphase]; rfl
      exact ⟨tasks, h.own rfl rfl rfl (Bool.and_true _).symm rfl (fun _ => ⟨hisBefore, rfl⟩)
        (by intro _ h; cases h)⟩

end Tracks

/-- Every run of the client is taken apart. -/
theorem tracks_exec {parts : ClientParts P Q L} {ls : List ClientLabel} {client : Client P Q L}
    (hrun : (machine P Q L).exec (start parts) ls = some client) :
    ∃ tasks, Tracks parts ls client tasks := by
  refine (machine P Q L).exec_history (I := fun ls client => ∃ tasks, Tracks parts ls client tasks)
    ⟨_, .start parts⟩ ?_ hrun
  rintro ls client l client' ⟨tasks, h⟩ hl
  exact h.next hl

end Client

end MultideviceClient
