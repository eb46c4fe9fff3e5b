import MultideviceClient.Delivery
import MultideviceClient.Inbox
import MultideviceClient.Store.StateDir

/-!
# The driver with its providers

For the driver alone, a task may change the contacts and report what it likes
(`DriverLabel.provided`).  In the program, a task calls the providers: the
conversations, the contact store and the nonce store.  A device is a driver with
these, over a state directory.

*Refinement.*  A run of a device is a run of the driver, a run of the state directory
and a run of the conversations at once (`device_refines`), so what holds of their runs
holds of the device, also when a write fails or kills the process.

*Reports.*  What a client with such a driver sends on `events`, while the embedder has the
receiver, is made of two parts that interleave: the first message of every pair of sender
and id that the conversations accepted, and the reflected texts (`client_reports`).
-/

namespace MultideviceClient

open Foundations

variable {L : Libthreema}

/-- The driver, the conversations and the stores. -/
structure Device (L : Libthreema) where
  driver : Driver L
  provider : EventConversationProvider L
  dir : StateDir

/-- What a device does. -/
inductive DeviceLabel (L : Libthreema) where
  /-- A step of the driver itself. -/
  | driver (l : DriverLabel)
  /-- The task calls `add_or_update_incoming_message`. -/
  | message (message : IncomingMessage L)
  /-- The task calls `add` or `update`. -/
  | contacts (call : ContactCall L) (order : Nat) (verdicts : List Verdict)
  /-- The task calls `add_many`. -/
  | nonces (scope : NonceScope) (batch : List Nonce) (order : Nat) (verdicts : List Verdict)

/-- A call of the providers. -/
def DriverLabel.isProvided : DriverLabel → Bool
  | .provided _ _ => true
  | _ => false

/-- The operation on the state directory that a label makes. -/
def DeviceLabel.dirOp : DeviceLabel L → Option (StateDirOp L)
  | .contacts call order verdicts => some (.contacts call order verdicts)
  | .nonces scope batch order verdicts => some (.nonces scope batch order verdicts)
  | _ => none

namespace Device

/-- The process is alive, and its task runs. -/
def inTask (s : Device L) : Bool :=
  s.dir.alive && (s.driver.pendingTask.isSome && s.driver.pc.inTask)

/-- What the conversations emit for a message. -/
def emitted (s : Device L) (message : IncomingMessage L) : List Event :=
  match s.provider.addOrUpdateIncomingMessage s.driver.contacts message with
  | .ok (_, event) => event.toList
  | .error _ => []

variable (enc : Encodings) (config : StateConfig L)

/-- A driver over a directory that was loaded. -/
def start (deviceGroupKey : L.reflection.DeviceGroupKey) (dir : StateDir) : Device L where
  driver := .new deviceGroupKey config.contactStore dir.contacts
  provider := .new config.contactStore
  dir := dir

/-- The step of a label. -/
def next (s : Device L) : DeviceLabel L → Option (Device L)
  | .driver l =>
      if s.dir.alive && !l.isProvided then
        (s.driver.next l).map fun driver => { s with driver := driver }
      else none
  | .message message =>
      if s.inTask then
        match s.provider.addOrUpdateIncomingMessage s.driver.contacts message with
        | .error _ => some s
        | .ok (provider, event) =>
            some { s with
              provider := provider
              driver := { s.driver with events := s.driver.events ++ event.toList } }
      else none
  | .contacts call order verdicts =>
      if s.inTask then
        (s.dir.next enc config (.contacts call order verdicts)).map fun dir =>
          { s with dir := dir, driver := { s.driver with contacts := dir.contacts } }
      else none
  | .nonces scope batch order verdicts =>
      if s.inTask then
        (s.dir.next enc config (.nonces scope batch order verdicts)).map fun dir =>
          { s with dir := dir }
      else none

/-- A device as a machine. -/
def machine : Machine (Device L) (DeviceLabel L) where
  next := next enc config

/-! ## The parts -/

/-- The steps of the driver in a step of the device. -/
def driverLabels (s : Device L) : DeviceLabel L → List DriverLabel
  | .driver l => [l]
  | .message message => [.provided s.driver.contacts (s.emitted message)]
  | .contacts call order verdicts =>
      match s.dir.next enc config (.contacts call order verdicts) with
      | some dir => [.provided dir.contacts []]
      | none => []
  | .nonces _ _ _ _ => []

/-- The calls in a step of the device that the conversations see.  When the process is
killed, they see nothing more. -/
def inboxCalls (s : Device L) : DeviceLabel L → List (InboxCall L)
  | .message message => [.message message]
  | .contacts call order verdicts =>
      match s.dir.next enc config (.contacts call order verdicts) with
      | some dir => if dir.alive then [.contacts call order verdicts] else []
      | none => []
  | _ => []

/-! ## Steps -/

/-- Everything a step of a device does. -/
inductive Step (s : Device L) : DeviceLabel L → Device L → Prop where
  | driver {l : DriverLabel} {driver : Driver L} (halive : s.dir.alive = true)
      (hl : l.isProvided = false) (hnext : s.driver.next l = some driver) :
      Step s (.driver l) { s with driver := driver }
  | rejected {message : IncomingMessage L} {error : ProviderError} (htask : s.inTask = true)
      (herror : s.provider.addOrUpdateIncomingMessage s.driver.contacts message = .error error) :
      Step s (.message message) s
  | accepted {message : IncomingMessage L} {provider : EventConversationProvider L}
      {event : Option Event} (htask : s.inTask = true)
      (hok : s.provider.addOrUpdateIncomingMessage s.driver.contacts message =
        .ok (provider, event)) :
      Step s (.message message) { s with
        provider := provider
        driver := { s.driver with events := s.driver.events ++ event.toList } }
  | contacts {call : ContactCall L} {order : Nat} {verdicts : List Verdict} {dir : StateDir}
      (htask : s.inTask = true)
      (hnext : s.dir.next enc config (.contacts call order verdicts) = some dir) :
      Step s (.contacts call order verdicts)
        { s with dir := dir, driver := { s.driver with contacts := dir.contacts } }
  | nonces {scope : NonceScope} {batch : List Nonce} {order : Nat} {verdicts : List Verdict}
      {dir : StateDir} (htask : s.inTask = true)
      (hnext : s.dir.next enc config (.nonces scope batch order verdicts) = some dir) :
      Step s (.nonces scope batch order verdicts) { s with dir := dir }

variable {enc config} {s s' : Device L} {l : DeviceLabel L}

theorem step_of_next (h : s.next enc config l = some s') : s.Step enc config l s' := by
  cases l with
  | driver l =>
      simp only [next] at h
      split at h
      next halive =>
          obtain ⟨driver, hnext, rfl⟩ := Option.map_eq_some_iff.mp h
          simp only [Bool.and_eq_true, Bool.not_eq_true'] at halive
          exact .driver halive.1 halive.2 hnext
      next => cases h
  | message message =>
      simp only [next] at h
      split at h
      next htask =>
          split at h
          next error herror =>
              cases h
              exact .rejected htask herror
          next provider event hok =>
              cases h
              exact .accepted htask hok
      next => cases h
  | contacts call order verdicts =>
      simp only [next] at h
      split at h
      next htask =>
          obtain ⟨dir, hnext, rfl⟩ := Option.map_eq_some_iff.mp h
          exact .contacts htask hnext
      next => cases h
  | nonces scope batch order verdicts =>
      simp only [next] at h
      split at h
      next htask =>
          obtain ⟨dir, hnext, rfl⟩ := Option.map_eq_some_iff.mp h
          exact .nonces htask hnext
      next => cases h

end Device

/-! ## The driver -/

/-- The driver leaves the contacts to its tasks. -/
theorem Driver.contacts_next {self self' : Driver L} {l : DriverLabel}
    (h : self.next l = some self') (hl : l.isProvided = false) :
    self'.contacts = self.contacts := by
  cases step_of_next h with
  | @unsolicited resume payload hawaits hreject => cases payload <;> rfl
  | polled loop hpc htask =>
      simp only [runInstruction]
      split <;> rfl
  | provided data emitted htask => cases hl
  | _ => rfl

/-- A call of the providers, at a moment at which the task runs. -/
theorem Driver.next_provided {self : Driver L} (data : ContactMap) (emitted : List Event)
    (h : (self.pendingTask.isSome && self.pc.inTask) = true) :
    self.next (.provided data emitted) =
      some { self with contacts := data, events := self.events ++ emitted } := by
  simp only [next, h, if_true]

/-- What the task emits in a step. -/
def DriverLabel.emitted : DriverLabel → List Event
  | .provided _ emitted => emitted
  | _ => []

theorem DriverLabel.emitted_of_not_provided {l : DriverLabel} (h : l.isProvided = false) :
    l.emitted = [] := by
  cases l with
  | provided data emitted => cases h
  | _ => rfl

namespace Driver

/-- What a step emits: for the task to the left, and for a payload of the mediator to the
right. -/
def tagged (self : Driver L) : DriverLabel → List (Event ⊕ Event)
  | .provided _ emitted => emitted.map .inl
  | l => (self.reports l).map .inr

theorem map_tagged (self : Driver L) (l : DriverLabel) :
    (self.tagged l).map (Sum.elim id id) = self.reports l := by
  cases l with
  | provided data emitted => simp [tagged, reports]
  | _ => simp [tagged]

theorem getLeft_tagged (self : Driver L) (l : DriverLabel) :
    (self.tagged l).filterMap Sum.getLeft? = l.emitted := by
  cases l with
  | provided data emitted =>
      rw [tagged, List.filterMap_map]
      exact List.filterMap_some
  | _ => simp [tagged, DriverLabel.emitted, List.filterMap_map]

theorem getRight_tagged (self : Driver L) (l : DriverLabel) :
    (self.tagged l).filterMap Sum.getRight? = (self.reflectedReports l).filterMap id := by
  cases l with
  | provided data emitted => simp [tagged, reflectedReports, List.filterMap_map]
  | recvD2m payload =>
      cases payload with
      | none => rfl
      | some payload =>
          cases payload with
          | reflected reflectId envelope =>
              simp only [tagged, reports, reflectedReports]
              cases self.reflectedEvent envelope <;> rfl
          | _ => rfl
  | _ => rfl

end Driver

/-! ## The conversations -/

namespace Inbox

/-- What a call emits. -/
def emits (s : Inbox L) : InboxCall L → List Event
  | .message message =>
      match s.provider.addOrUpdateIncomingMessage s.contacts message with
      | .ok (_, event) => event.toList
      | .error _ => []
  | .contacts _ _ _ => []

theorem events_next {serde : Serde ContactMap} {s s' : Inbox L} {call : InboxCall L}
    (h : s.next serde call = some s') : s'.events = s.events ++ s.emits call := by
  cases call with
  | contacts call order verdicts =>
      rw [(next_contacts serde h).2]
      exact (List.append_nil _).symm
  | message message =>
      simp only [next] at h
      simp only [emits]
      split at h
      next error herror =>
          cases h
          rw [herror]
          exact (List.append_nil _).symm
      next provider event hok =>
          cases h
          rw [hok]

/-- The run of one call. -/
theorem exec_call {serde : Serde ContactMap} {s s' : Inbox L} {call : InboxCall L}
    (h : s.next serde call = some s') :
    (machine serde).exec s [call] = some s' ∧
      (machine serde).collect emits s [call] = s.emits call := by
  have hnext : (machine serde).next s call = some s' := h
  refine ⟨(machine serde).exec_cons_eq_some.mpr ⟨s', hnext, rfl⟩, ?_⟩
  rw [(machine serde).collect_cons hnext]
  exact List.append_nil _

/-- A call on a contact store does the same to the memory in the conversations and in
the state directory, unless it kills the process. -/
theorem next_contacts_of_dir {enc : Encodings} {config : StateConfig L} {s : Inbox L}
    {dir dir' : StateDir} {call : ContactCall L} {order : Nat} {verdicts : List Verdict}
    (hstore : s.provider.contacts = config.contactStore) (hcontacts : s.contacts = dir.contacts)
    (hnext : dir.next enc config (.contacts call order verdicts) = some dir')
    (halive : dir'.alive = true) :
    ∃ s', s.next enc.contactMap (.contacts call order verdicts) = some s' ∧
      s'.provider = s.provider ∧ s'.contacts = dir'.contacts := by
  obtain ⟨data', fate, outcome, rest, hrun, -, -⟩ :=
    config.contactStore.call_saves enc.contactMap order call dir.contacts verdicts
  simp only [StateDir.next, StateDir.runContacts, hrun, Option.ite_none_right_eq_some] at hnext
  obtain ⟨-, hdir⟩ := hnext
  cases hdir
  simp only [next, hstore, hcontacts, hrun]
  cases outcome with
  | killed => cases halive
  | ok done => exact ⟨_, rfl, hstore.symm ▸ rfl, rfl⟩
  | error e => exact ⟨_, rfl, rfl, rfl⟩

end Inbox

/-! ## The parts of a step -/

namespace Device

variable {enc : Encodings} {config : StateConfig L} {s s' : Device L} {l : DeviceLabel L}

theorem inTask_iff : s.inTask = true ↔
    s.dir.alive = true ∧ (s.driver.pendingTask.isSome && s.driver.pc.inTask) = true := by
  rw [inTask, Bool.and_eq_true]

/-- The driver and the state directory share the contacts. -/
def Shared (s : Device L) : Prop := s.driver.contacts = s.dir.contacts

theorem driver_next (hshared : s.Shared) (h : s.next enc config l = some s') :
    (driverMachine L).exec s.driver (s.driverLabels enc config l) = some s'.driver ∧
      s'.Shared := by
  cases step_of_next h with
  | driver halive hl hnext =>
      refine ⟨?_, (Driver.contacts_next hnext hl).trans hshared⟩
      exact (driverMachine L).exec_cons_eq_some.mpr ⟨_, hnext, rfl⟩
  | @rejected message error htask herror =>
      have hprovided := Driver.next_provided s.driver.contacts [] (inTask_iff.mp htask).2
      refine ⟨?_, hshared⟩
      rw [driverLabels, emitted, herror]
      refine (driverMachine L).exec_cons_eq_some.mpr ⟨_, hprovided, ?_⟩
      rw [List.append_nil]
      rfl
  | @accepted message provider event htask hok =>
      have hprovided := Driver.next_provided s.driver.contacts event.toList (inTask_iff.mp htask).2
      refine ⟨?_, hshared⟩
      rw [driverLabels, emitted, hok]
      exact (driverMachine L).exec_cons_eq_some.mpr ⟨_, hprovided, rfl⟩
  | @contacts call order verdicts dir htask hnext =>
      have hprovided := Driver.next_provided dir.contacts [] (inTask_iff.mp htask).2
      refine ⟨?_, rfl⟩
      rw [driverLabels, hnext]
      refine (driverMachine L).exec_cons_eq_some.mpr ⟨_, hprovided, ?_⟩
      rw [List.append_nil]
      rfl
  | nonces htask hnext =>
      obtain ⟨-, fate, alive, rfl, -⟩ := StateDir.wroteNonces_of_next hnext
      exact ⟨rfl, hshared⟩

theorem dir_next (h : s.next enc config l = some s') :
    (StateDir.machine enc config).exec s.dir l.dirOp.toList = some s'.dir := by
  cases step_of_next h with
  | contacts htask hnext =>
      exact (StateDir.machine enc config).exec_cons_eq_some.mpr ⟨_, hnext, rfl⟩
  | nonces htask hnext =>
      exact (StateDir.machine enc config).exec_cons_eq_some.mpr ⟨_, hnext, rfl⟩
  | _ => rfl

/-- The conversations are those of a device.  A process that was killed in a call left
them behind. -/
structure Follows (config : StateConfig L) (s : Device L) (inbox : Inbox L) : Prop where
  provider : inbox.provider = s.provider
  store : s.provider.contacts = config.contactStore
  shared : s.Shared
  contacts : s.dir.alive = true → inbox.contacts = s.dir.contacts

theorem inbox_next {inbox : Inbox L} (hfollows : Follows config s inbox)
    (h : s.next enc config l = some s') :
    ∃ inbox', (Inbox.machine enc.contactMap).exec inbox (s.inboxCalls enc config l) = some inbox' ∧
      Follows config s' inbox' ∧
      (Inbox.machine enc.contactMap).collect Inbox.emits inbox (s.inboxCalls enc config l) =
        (s.driverLabels enc config l).flatMap DriverLabel.emitted := by
  obtain ⟨hprovider, hstore, hshared, hcontacts⟩ := hfollows
  obtain ⟨-, hshared'⟩ := driver_next hshared h
  cases step_of_next h with
  | driver halive hl hnext =>
      refine ⟨inbox, rfl, ⟨hprovider, hstore, hshared', hcontacts⟩, ?_⟩
      rw [driverLabels, List.flatMap_singleton, DriverLabel.emitted_of_not_provided hl]
      rfl
  | @rejected message error htask herror =>
      have hsame : inbox.contacts = s.driver.contacts :=
        (hcontacts (inTask_iff.mp htask).1).trans hshared.symm
      have hinbox : inbox.next enc.contactMap (.message message) = some inbox := by
        simp only [Inbox.next, hprovider, hsame, herror]
      obtain ⟨hexec, hemits⟩ := Inbox.exec_call hinbox
      refine ⟨inbox, hexec, ⟨hprovider, hstore, hshared, hcontacts⟩, hemits.trans ?_⟩
      simp only [Inbox.emits, driverLabels, emitted, hprovider, hsame, herror]
      rfl
  | @accepted message provider event htask hok =>
      have hsame : inbox.contacts = s.driver.contacts :=
        (hcontacts (inTask_iff.mp htask).1).trans hshared.symm
      have hinbox : inbox.next enc.contactMap (.message message) =
          some { inbox with provider := provider, events := inbox.events ++ event.toList } := by
        simp only [Inbox.next, hprovider, hsame, hok]
      obtain ⟨hexec, hemits⟩ := Inbox.exec_call hinbox
      have hkept : provider.contacts = inbox.provider.contacts :=
        (Inbox.exec_extends enc.contactMap hexec).store
      refine ⟨_, hexec, ⟨rfl, ?_, hshared, hcontacts⟩, hemits.trans ?_⟩
      · exact (hkept.trans (congrArg _ hprovider)).trans hstore
      · simp only [Inbox.emits, driverLabels, emitted, hprovider, hsame, hok]
        exact (List.append_nil _).symm
  | @contacts call order verdicts dir htask hnext =>
      obtain ⟨halive, -⟩ := inTask_iff.mp htask
      cases hkilled : dir.alive with
      | false =>
          refine ⟨inbox, ?_, ⟨hprovider, hstore, hshared', ?_⟩, ?_⟩
          · simp only [inboxCalls, hnext, hkilled]
            rfl
          · intro halive'
            rw [hkilled] at halive'
            cases halive'
          · simp only [inboxCalls, driverLabels, hnext, hkilled]
            rfl
      | true =>
          obtain ⟨inbox', hinbox, hprovider', hcontacts'⟩ := Inbox.next_contacts_of_dir
            ((congrArg _ hprovider).trans hstore) (hcontacts halive) hnext hkilled
          obtain ⟨hexec, hemits⟩ := Inbox.exec_call hinbox
          have hcalls : s.inboxCalls enc config (.contacts call order verdicts) =
              [.contacts call order verdicts] := by
            simp only [inboxCalls, hnext, hkilled, if_true]
          rw [hcalls, hemits]
          refine ⟨inbox', hexec, ⟨hprovider'.trans hprovider, hstore, hshared',
            fun _ => hcontacts'⟩, ?_⟩
          simp only [Inbox.emits, driverLabels, hnext]
          rfl
  | nonces htask hnext =>
      obtain ⟨halive, -⟩ := inTask_iff.mp htask
      obtain ⟨-, fate, alive, rfl, -⟩ := StateDir.wroteNonces_of_next hnext
      exact ⟨inbox, rfl, ⟨hprovider, hstore, hshared', fun _ => hcontacts halive⟩, rfl⟩

/-! ## Runs -/

variable {deviceGroupKey : L.reflection.DeviceGroupKey} {dir : StateDir}
  {ls : List (DeviceLabel L)}

/-- A run of a device is a run of its driver, as a task could have made it. -/
theorem driver_exec
    (hrun : (machine enc config).exec (start config deviceGroupKey dir) ls = some s) :
    (driverMachine L).exec (.new deviceGroupKey config.contactStore dir.contacts)
        ((machine enc config).collect (driverLabels enc config)
          (start config deviceGroupKey dir) ls) = some s.driver ∧ s.Shared := by
  have hstep : ∀ s t l s', t = s.driver ∧ s.Shared → (machine enc config).next s l = some s' →
      ∃ t', (driverMachine L).exec t (driverLabels enc config s l) = some t' ∧
        t' = s'.driver ∧ s'.Shared := by
    rintro s _ l s' ⟨rfl, hshared⟩ hl
    obtain ⟨hdriver, hshared'⟩ := driver_next hshared hl
    exact ⟨_, hdriver, rfl, hshared'⟩
  have hstart : (start config deviceGroupKey dir).Shared := rfl
  obtain ⟨driver, hdriver, rfl, hshared⟩ :=
    (machine enc config).exec_projects hstep ⟨rfl, hstart⟩ hrun
  exact ⟨hdriver, hshared⟩

/-- A run of a device is a run of its state directory. -/
theorem dir_exec
    (hrun : (machine enc config).exec (start config deviceGroupKey dir) ls = some s) :
    (StateDir.machine enc config).exec dir (ls.filterMap DeviceLabel.dirOp) = some s.dir := by
  have hstep : ∀ (s : Device L) (t : StateDir) l s', t = s.dir →
      (machine enc config).next s l = some s' →
      ∃ t', (StateDir.machine enc config).exec t (DeviceLabel.dirOp l).toList = some t' ∧
        t' = s'.dir := by
    rintro s _ l s' rfl hl
    exact ⟨_, dir_next hl, rfl⟩
  obtain ⟨dir', hdir, rfl⟩ := (machine enc config).exec_simulates hstep rfl hrun
  exact hdir

/-- A run of a device is a run of its conversations, which send what its tasks send. -/
theorem inbox_exec
    (hrun : (machine enc config).exec (start config deviceGroupKey dir) ls = some s) :
    ∃ inbox, (Inbox.machine enc.contactMap).exec
        (.start config.contactStore dir.contacts dir.disk)
        ((machine enc config).collect (inboxCalls enc config)
          (start config deviceGroupKey dir) ls) = some inbox ∧ Follows config s inbox ∧
      inbox.events = ((machine enc config).collect (driverLabels enc config)
        (start config deviceGroupKey dir) ls).flatMap DriverLabel.emitted := by
  have hfollows : Follows config (start config deviceGroupKey dir)
      (.start config.contactStore dir.contacts dir.disk) := ⟨rfl, rfl, rfl, fun _ => rfl⟩
  obtain ⟨inbox, hinbox, hfollows', hemits⟩ := (machine enc config).exec_yields
    (fun s inbox l s' hfollows hl => inbox_next hfollows hl) hfollows hrun
  refine ⟨inbox, hinbox, hfollows', ?_⟩
  have hevents := (Inbox.machine enc.contactMap).exec_part
    (fun _ _ _ h => Inbox.events_next h) hinbox
  rw [hemits] at hevents
  rw [(machine enc config).flatMap_collect]
  exact hevents

/-- A run of a device is a run of its driver, of its state directory and of its
conversations at once.  They share the contacts, and the events that the tasks send are
those of the conversations, whatever the writes meet. -/
theorem device_refines
    (hrun : (machine enc config).exec (start config deviceGroupKey dir) ls = some s) :
    (driverMachine L).exec (.new deviceGroupKey config.contactStore dir.contacts)
        ((machine enc config).collect (driverLabels enc config)
          (start config deviceGroupKey dir) ls) = some s.driver ∧
      (StateDir.machine enc config).exec dir (ls.filterMap DeviceLabel.dirOp) = some s.dir ∧
      s.driver.contacts = s.dir.contacts ∧
      ∃ inbox, (Inbox.machine enc.contactMap).exec
          (.start config.contactStore dir.contacts dir.disk)
          ((machine enc config).collect (inboxCalls enc config)
            (start config deviceGroupKey dir) ls) = some inbox ∧
        inbox.provider = s.provider ∧
        (s.dir.alive = true → inbox.contacts = s.dir.contacts) ∧
        inbox.events = ((machine enc config).collect (driverLabels enc config)
          (start config deviceGroupKey dir) ls).flatMap DriverLabel.emitted := by
  obtain ⟨hdriver, hshared⟩ := driver_exec hrun
  obtain ⟨inbox, hinbox, hfollows, hevents⟩ := inbox_exec hrun
  exact ⟨hdriver, dir_exec hrun, hshared, inbox, hinbox, hfollows.provider, hfollows.contacts,
    hevents⟩

/-- The configuration of `USERUSER` over the sample parameters. -/
def sampleConfig (decodeEnvelope : Bytes → Except String Envelope) :
    StateConfig (Libthreema.sample decodeEnvelope) where
  stateDir := "state"
  userIdentity := Identities.user

/-- The directory of a first start. -/
def firstStart (decodeEnvelope : Bytes → Except String Envelope) : StateDir :=
  (StateDir.initial fun _ => none).start .sample (sampleConfig decodeEnvelope) []

/-- A text of `ECHOECHO`. -/
def hello (decodeEnvelope : Bytes → Except String Envelope) :
    IncomingMessage (Libthreema.sample decodeEnvelope) where
  senderIdentity := Identities.echo
  id := 8
  createdAt := 1700000000000
  body := .contact (.text "hello")

/-- A task whose message comes before its sender is a contact, and twice afterwards. -/
def processes (decodeEnvelope : Bytes → Except String Envelope) :
    List (DeviceLabel (Libthreema.sample decodeEnvelope)) :=
  [.driver (.recvCsp (some (.message ⟨[5]⟩))), .message (hello _),
    .contacts (.add [.sample Identities.echo]) 0 [], .nonces .cspE2e [.zero] 0 [],
    .message (hello _), .message (hello _), .driver (.polled (.ok (.done (some ⟨[5]⟩)))),
    .driver (.sentCsp (.messageAck ⟨[5]⟩))]

/-- The sender and the zero nonce are in the directory, and the driver knows the sender. -/
theorem device_refines_processes :
    ∃ s : Device (Libthreema.sample fun _ => .error "no envelope"),
      (StateDir.machine Encodings.sample (sampleConfig fun _ => .error "no envelope")).exec
        (firstStart fun _ => .error "no envelope")
        [.contacts (.add [.sample Identities.echo]) 0 [], .nonces .cspE2e [.zero] 0 []] =
        some s.dir ∧
      s.driver.contacts = s.dir.contacts := by
  obtain ⟨-, hdir, hshared, -⟩ := @device_refines _ .sample (sampleConfig _) _ ()
    (firstStart fun _ => .error "no envelope") (processes fun _ => .error "no envelope") rfl
  exact ⟨_, hdir, hshared⟩

end Device

/-! ## The client -/

variable {P : CspProtocol} {Q : D2mProtocol} {enc : Encodings} {config : StateConfig L}
  {parts : ClientParts P Q L} {dir : StateDir} {calls : List (DeviceLabel L)} {device : Device L}
  {ls : List ClientLabel} {client : Client P Q L}

namespace Client

/-- What a client whose driver is that of a device has emitted, apart from `Connected`,
interleaves the reports of two sources.  The conversations report the first message of
every pair of sender and id that they accepted, and the driver reports the reflected
payloads that it handled.  What was emitted while the embedder had the receiver has
been sent, and nothing else. -/
theorem client_reports (hstore : parts.contactStore = config.contactStore)
    (hcontacts : parts.contacts = dir.contacts)
    (hdevice : (Device.machine enc config).exec
      (.start config parts.deviceGroupKey dir) calls = some device)
    (hdriver : ls.filterMap ClientLabel.ofDriver =
      (Device.machine enc config).collect (Device.driverLabels enc config)
        (.start config parts.deviceGroupKey dir) calls)
    (hrun : (machine P Q L).exec (start parts) ls = some client) :
    ∃ (tasks : ClientTasks P Q L) (greeting : List Event) (sent tagged : List (Event ⊕ Event)),
      Tracks parts ls client tasks ∧ tasks.driver = device.driver ∧
      (greeting = [] ∨ greeting = [.connected]) ∧
      client.events = greeting ++ sent.map (Sum.elim id id) ∧
      sent = (driverMachine L).collect Driver.tagged
        (.new parts.deviceGroupKey parts.contactStore parts.contacts)
        ((heard ls).filterMap ClientLabel.ofDriver) ∧
      sent <+: tagged ∧ (client.receiver = true → sent = tagged) ∧
      tagged.filterMap Sum.getLeft? = Acceptance.reports config.contactStore
        ((Inbox.start config.contactStore dir.contacts dir.disk).history enc.contactMap
          ((Device.machine enc config).collect (Device.inboxCalls enc config)
            (.start config parts.deviceGroupKey dir) calls)) ∧
      tagged.filterMap Sum.getRight? = ((driverMachine L).collect Driver.reflectedReports
        (.new parts.deviceGroupKey parts.contactStore parts.contacts)
        (ls.filterMap ClientLabel.ofDriver)).filterMap id := by
  obtain ⟨tasks, htracks⟩ := tracks_exec hrun
  have hwired := htracks.wired.driver
  obtain ⟨hdriverRun, -⟩ := Device.driver_exec hdevice
  obtain ⟨inbox, hinbox, -, hevents⟩ := Device.inbox_exec hdevice
  have hsame : tasks.driver = device.driver := by
    rw [hstore, hcontacts, hdriver, hdriverRun] at hwired
    exact (Option.some.inj hwired).symm
  refine ⟨tasks, _, _, (driverMachine L).collect Driver.tagged
    (.new parts.deviceGroupKey parts.contactStore parts.contacts)
    (ls.filterMap ClientLabel.ofDriver), htracks, hsame, htracks.greeted, ?_, rfl, ?_, ?_, ?_, ?_⟩
  · rw [htracks.events_heard, ← List.filterMap_eq_map, (driverMachine L).filterMap_collect_eq]
    simp only [List.filterMap_eq_map, Driver.map_tagged]
  · exact (driverMachine L).prefix_collect _ _ ((prefix_heard ls).filterMap _)
  · intro hreceiver
    rw [htracks.heard_eq_self.mp hreceiver]
  · rw [(driverMachine L).filterMap_collect_eq]
    simp only [Driver.getLeft_tagged]
    rw [(driverMachine L).collect_flatMap hwired, hdriver, ← hevents,
      (Inbox.exec_extends enc.contactMap hinbox).events]
    exact congrArg (Acceptance.reports config.contactStore)
      (List.filter_eq_self.mpr fun _ _ => rfl)
  · rw [(driverMachine L).filterMap_collect_eq, (driverMachine L).filterMap_collect_eq]
    simp only [Driver.getRight_tagged]

/-- The report of `Device.hello`. -/
def helloReport : Event :=
  .textMessage {
    timestampMs := 1700000000000
    outgoing := false
    conversation := .contact "ECHOECHO" (some "adalovelace")
    senderIdentity := some "ECHOECHO"
    senderName := some "adalovelace"
    text := "hello" }

/-- The contacts with `ECHOECHO`. -/
def known : ContactMap :=
  ContactCall.apply (L := .sample fun _ => .error "no envelope") ∅ (.add [.sample Identities.echo])

/-- The chat server sends a message, and the driver does what `Device.processes` does. -/
def reporting : List ClientLabel :=
  setsUp ++ .connectedD2m (.ok true) :: handshakes ++
    [.csp (.payload .turn), .csp (.payload (.readable (.bytes [1, 5]))), .csp (.payload .turn),
      .csp (.payload (.sentIncoming (.message ⟨[5]⟩))), .driver (.recvCsp (some (.message ⟨[5]⟩))),
      .driver (.provided ∅ []), .driver (.provided known []),
      .driver (.provided known [helloReport]), .driver (.provided known []),
      .driver (.polled (.ok (.done (some ⟨[5]⟩)))), .driver (.sentCsp (.messageAck ⟨[5]⟩))]

/-- The text of the message is reported once. -/
theorem client_reports_reporting : ∃ client greeting sent tagged,
    (machine _ _ _).exec (start deliveries) reporting = some client ∧
    client.events = greeting ++ List.map (Sum.elim id id) sent ∧ sent <+: tagged ∧
    tagged.filterMap Sum.getLeft? = [helloReport] := by
  obtain ⟨tasks, greeting, sent, tagged, -, -, -, hevents, -, hprefix, -, hleft, -⟩ :=
    @client_reports _ _ _ .sample (Device.sampleConfig _) deliveries
      (Device.firstStart fun _ => .error "no envelope") (Device.processes _) _ reporting _
      rfl rfl rfl rfl rfl
  exact ⟨_, greeting, sent, tagged, rfl, hevents, hprefix, hleft.trans (by decide)⟩

end Client

end MultideviceClient
