import MultideviceClient.CspLink
import MultideviceClient.CspRelay
import MultideviceClient.D2mLink
import MultideviceClient.D2mRelay

/-!
# The client

`run` in `lib.rs` reads the configuration and the stored state, connects to both
servers and reports `Event::Connected`.  Then it runs both connections, the E2E
driver and the commands of the embedder in one `select!`, until one of them is
done.

*Connected.*  The event is sent when the WebSocket is up.  The handshakes are
performed in `run` of the two connections, which the `select!` polls for the first
time afterwards.  So no `Connected` event is ever truthful, and a run keeps the
promise only when it sends none (`connected_truthful_iff`).

*Receivers.*  Sending an event fails when the embedder has dropped the receiver.  The
event is dropped then, and the client goes on as before.
-/

namespace MultideviceClient

open Foundations

/-! ## Commands -/

/-- Where to deliver an outgoing message. -/
inductive Recipient where
  | contact (identity : String)
  | group (creatorIdentity : String) (groupId : UInt64)
deriving DecidableEq, Repr

/-- Everything the embedder can ask the client to do. -/
inductive Command where
  /-- Only logged so far. -/
  | sendText (recipient : Recipient) (text : String)
  | shutdown
deriving DecidableEq, Repr

/-! ## Phases -/

/-- What `run` does before it connects, in this order. -/
inductive SetUp where
  | httpsClient
  | identity
  | d2xConfig
  | d2mContext
  | createStateDir
  | loadNonces
  | loadContacts
  | cspConfig
deriving DecidableEq, Repr

/-- What comes after a part of the set-up.  After the last one, `run` connects. -/
def SetUp.following : SetUp → Option SetUp
  | .httpsClient => some .identity
  | .identity => some .d2xConfig
  | .d2xConfig => some .d2mContext
  | .d2mContext => some .createStateDir
  | .createStateDir => some .loadNonces
  | .loadNonces => some .loadContacts
  | .loadContacts => some .cspConfig
  | .cspConfig => none

/-- The context of an error, as the `:#` format prints it. -/
def errorWithContext (context message : String) : String := context ++ ": " ++ message

/-- The error of the two parts that find no multi-device configuration. -/
def multiDeviceMustBeConfigured : String :=
  "Multi-device must be configured: pass --d2x-device-id, --csp-device-id, " ++
    "--device-group-key and --expected-device-slot-state"

/-- The error of a part of the set-up. -/
def SetUp.error (stateDir message : String) : SetUp → String
  | .httpsClient => message
  | .identity => message
  | .d2xConfig => multiDeviceMustBeConfigured
  | .d2mContext => multiDeviceMustBeConfigured
  | .createStateDir => errorWithContext ("Failed to create " ++ stateDir) message
  | .loadNonces => errorWithContext "Failed to load nonces.json" message
  | .loadContacts => errorWithContext "Failed to load contacts.json" message
  | .cspConfig => errorWithContext "CSP configuration should be valid" message

/-- What the set-up makes of the configuration and the stored state. -/
structure ClientParts (P : CspProtocol) (Q : D2mProtocol) (L : Libthreema) where
  stateDir : String
  deviceGroupKey : L.reflection.DeviceGroupKey
  contactStore : ContactStore L
  contacts : ContactMap
  cspProtocol : P.State
  clientHello : Bytes
  d2mProtocol : Q.State

/-- The branches of the `select!`, with the channels between them. -/
structure ClientTasks (P : CspProtocol) (Q : D2mProtocol) (L : Libthreema) where
  csp : CspSession P
  /-- A `try_read` of the payload flow has found the end of the chat server's stream. -/
  streamEnded : Bool
  d2m : D2mSession Q
  driver : Driver L
  cspIncoming : List IncomingPayloadForCspE2e
  cspOutgoing : List OutgoingPayloadForCspE2e
  d2mIncoming : List D2mIncomingPayload
  d2mOutgoing : List D2mOutgoingPayload

/-- Where `run` is. -/
inductive ClientPhase (P : CspProtocol) (Q : D2mProtocol) (L : Libthreema) where
  | setUp (part : SetUp)
  /-- Suspended in `CspProtocolRunner::new`. -/
  | connectCsp
  /-- Suspended in `D2mProtocolRunner::new`. -/
  | connectD2m
  /-- Suspended in `select!`. -/
  | running (tasks : ClientTasks P Q L)
  | returned (result : Except String Unit)

/-- `run` of the library. -/
structure Client (P : CspProtocol) (Q : D2mProtocol) (L : Libthreema) where
  parts : ClientParts P Q L
  /-- The embedder has not dropped the receiver of the events. -/
  receiver : Bool
  /-- What has been sent on `events`, oldest first. -/
  events : List Event
  phase : ClientPhase P Q L

/-- What ends a suspension of `run`. -/
inductive ClientLabel where
  /-- A part of the set-up succeeds or fails. -/
  | setUp (error : Option String)
  /-- The TCP stream is connected, or not. -/
  | connectedCsp (error : Option String)
  /-- The WebSocket is connected, or not.  If so, the receiver of the events is still
  there or not. -/
  | connectedD2m (receiver : Except String Bool)
  /-- The embedder drops the receiver of the events. -/
  | receiverDropped
  | csp (l : CspSessionLabel)
  | d2m (l : D2mSessionLabel)
  | driver (l : DriverLabel)
  /-- `commands.recv` completes, with `none` when the channel is closed. -/
  | command (command : Option Command)

/-- What a label does to the channels between the session and the driver. -/
def CspSessionLabel.port :
    CspSessionLabel → Port IncomingPayloadForCspE2e OutgoingPayloadForCspE2e
  | .payload l => l.port
  | _ => .idle

/-- What a label does to the channels between the session and the driver. -/
def D2mSessionLabel.port : D2mSessionLabel → Port D2mIncomingPayload D2mOutgoingPayload
  | .payload l => l.port
  | _ => .idle

/-- The step reads the end of the chat server's stream. -/
def CspSessionLabel.readsEnd : CspSessionLabel → Bool
  | .payload (.readable .closed) => true
  | _ => false

/-- The step reads something else than the end, or finds nothing to read. -/
def CspSessionLabel.readsOn : CspSessionLabel → Bool
  | .payload (.readable (.bytes _)) => true
  | .payload (.readable .wouldBlock) => true
  | _ => false

/-- Everything but `Connected`. -/
def Event.isTextMessage : Event → Bool
  | .textMessage _ => true
  | .connected => false

variable {P : CspProtocol} {Q : D2mProtocol} {L : Libthreema}

namespace ClientTasks

/-- The branches of the `select!` before their first poll. -/
def start (parts : ClientParts P Q L) : ClientTasks P Q L where
  csp := .start parts.cspProtocol parts.clientHello
  streamEnded := false
  d2m := .start parts.d2mProtocol
  driver := .new parts.deviceGroupKey parts.contactStore parts.contacts
  cspIncoming := []
  cspOutgoing := []
  d2mIncoming := []
  d2mOutgoing := []

/-- The chat server connection goes on.  The driver holds the other ends of its
channels, and there is nothing after the end of the stream. -/
def nextCsp (self : ClientTasks P Q L) (l : CspSessionLabel) : Option (ClientTasks P Q L) :=
  if l = .payload .sendFailed || l = .payload (.recvOutgoing none) ||
      self.streamEnded && l.readsOn then none
  else
    (self.csp.next l).bind fun csp =>
      (Link.transfer 4 self.cspIncoming self.cspOutgoing l.port).map fun chans =>
        { self with
          csp := csp
          streamEnded := self.streamEnded || l.readsEnd
          cspIncoming := chans.1
          cspOutgoing := chans.2 }

/-- The mediator connection goes on. -/
def nextD2m (self : ClientTasks P Q L) (l : D2mSessionLabel) : Option (ClientTasks P Q L) :=
  if l = .payload .sendFailed then none
  else
    (self.d2m.next l).bind fun d2m =>
      (Link.transfer 16 self.d2mIncoming self.d2mOutgoing l.port).map fun chans =>
        { self with d2m := d2m, d2mIncoming := chans.1, d2mOutgoing := chans.2 }

/-- A connection drops its ends of the channels when its payload flow returns, and
the providers of the driver emit text messages only. -/
def allows (self : ClientTasks P Q L) : DriverLabel → Bool
  | .recvCsp none => self.csp.pc.hasEnded && self.cspIncoming.isEmpty
  | .recvD2m none => self.d2m.pc.hasEnded && self.d2mIncoming.isEmpty
  | .sentCsp _ => !self.csp.pc.hasEnded
  | .sentD2m _ => !self.d2m.pc.hasEnded
  | .sendFailed =>
      self.driver.pc.outgoingCsp.isSome && self.csp.pc.hasEnded ||
        self.driver.pc.outgoingD2m.isSome && self.d2m.pc.hasEnded
  | .provided _ emitted => emitted.all Event.isTextMessage
  | _ => true

/-- The E2E driver goes on. -/
def nextDriver (self : ClientTasks P Q L) (l : DriverLabel) : Option (ClientTasks P Q L) :=
  if self.allows l then
    (self.driver.next l).bind fun driver =>
      (Link.transfer 4 self.cspOutgoing self.cspIncoming l.cspPort).bind fun csp =>
        (Link.transfer 16 self.d2mOutgoing self.d2mIncoming l.d2mPort).map fun d2m =>
          { self with
            driver := driver
            cspOutgoing := csp.1
            cspIncoming := csp.2
            d2mOutgoing := d2m.1
            d2mIncoming := d2m.2 }
  else none

/-- The result of the `select!`, when one of its branches is done. -/
def result (self : ClientTasks P Q L) : Option (Except String Unit) :=
  match self.csp.pc, self.d2m.pc, self.driver.pc with
  | .returned (.ok ()), _, _ => some (.ok ())
  | .returned (.error message), _, _ =>
      some (.error (errorWithContext "CSP connection ended" message))
  | _, .returned message, _ => some (.error (errorWithContext "D2M connection ended" message))
  | _, _, .returned message => some (.error (errorWithContext "Message processing ended" message))
  | _, _, _ => none

end ClientTasks

namespace Client

/-- `run`, from its start. -/
def start (parts : ClientParts P Q L) : Client P Q L where
  parts := parts
  receiver := true
  events := []
  phase := .setUp .httpsClient

/-- `events.send` for one event after the other.  Without a receiver they are dropped. -/
def send (self : Client P Q L) (events : List Event) : Client P Q L :=
  if self.receiver then { self with events := self.events ++ events } else self

/-- `run` returns with an error. -/
def fail (self : Client P Q L) (message : String) : Client P Q L :=
  { self with phase := .returned (.error message) }

/-- The `select!` after a step of one of its branches. -/
def select (self : Client P Q L) (tasks : ClientTasks P Q L) : Client P Q L :=
  match tasks.result with
  | none => { self with phase := .running tasks }
  | some result => { self with phase := .returned result }

/-- The step of a label. -/
def next (self : Client P Q L) : ClientLabel → Option (Client P Q L)
  | .setUp error =>
      match self.phase, error with
      | .setUp part, some message => some (self.fail (part.error self.parts.stateDir message))
      | .setUp part, none =>
          match part.following with
          | some part => some { self with phase := .setUp part }
          | none => some { self with phase := .connectCsp }
      | _, _ => none
  | .connectedCsp error =>
      match self.phase, error with
      | .connectCsp, some message => some (self.fail message)
      | .connectCsp, none => some { self with phase := .connectD2m }
      | _, _ => none
  | .connectedD2m receiver =>
      match self.phase, receiver with
      | .connectD2m, .error message => some (self.fail message)
      | .connectD2m, .ok receiver =>
          some { send { self with receiver := receiver } [.connected] with
            phase := .running (.start self.parts) }
      | _, _ => none
  | .receiverDropped =>
      match self.phase with
      | .running _ => some { self with receiver := false }
      | _ => none
  | .csp l =>
      match self.phase with
      | .running tasks => (tasks.nextCsp l).map self.select
      | _ => none
  | .d2m l =>
      match self.phase with
      | .running tasks => (tasks.nextD2m l).map self.select
      | _ => none
  | .driver l =>
      match self.phase with
      | .running tasks =>
          (tasks.nextDriver l).map fun tasks' =>
            (self.send (tasks'.driver.events.drop tasks.driver.events.length)).select tasks'
      | _ => none
  | .command command =>
      match self.phase, command with
      | .running _, some (.sendText _ _) => some self
      | .running _, _ => some { self with phase := .returned (.ok ()) }
      | _, _ => none

/-- `run` as a machine. -/
def machine (P : CspProtocol) (Q : D2mProtocol) (L : Libthreema) :
    Machine (Client P Q L) ClientLabel where
  next := next

/-- `run` is done. -/
def hasReturned (self : Client P Q L) : Bool :=
  match self.phase with
  | .returned _ => true
  | _ => false

end Client

/-! ## What a step sends -/

/-- What the providers of the driver emit. -/
def DriverLabel.emits : DriverLabel → List Event
  | .provided _ emitted => emitted
  | _ => []

/-- A reflected envelope never makes a `Connected`. -/
theorem handleReflectedEnvelope_isTextMessage {deviceGroupKey : L.reflection.DeviceGroupKey}
    {envelope : Bytes} {contacts : ContactStore L} {data : ContactMap} {event : Event}
    (h : handleReflectedEnvelope deviceGroupKey envelope contacts data = .ok (some event)) :
    event.isTextMessage = true := by
  simp only [handleReflectedEnvelope, bind, Except.bind, pure, Except.pure] at h
  split at h
  next => cases h
  next envelope _ =>
      split at h
      next message _ =>
          split at h
          next => cases h
          next =>
              split at h
              next => cases h
              next text _ =>
                  cases h
                  rfl
      next message _ =>
          split at h
          next => cases h
          next =>
              split at h
              next => cases h
              next text _ =>
                  cases h
                  rfl
      next => cases h

namespace Driver

theorem reflectedEvent_isTextMessage {self : Driver L} {envelope : Bytes} {event : Event}
    (h : self.reflectedEvent envelope = some event) : event.isTextMessage = true := by
  simp only [reflectedEvent] at h
  split at h
  next event' hevent =>
      cases h
      exact handleReflectedEnvelope_isTextMessage hevent
  next => cases h

/-- Everything an unsolicited payload emits. -/
theorem events_handleUnsolicitedD2m (self : Driver L) (resume : Option Wait)
    (payload : D2mIncomingPayload) :
    ∃ sent, (self.handleUnsolicitedD2m resume payload).events = self.events ++ sent ∧
      ∀ event ∈ sent, event.isTextMessage = true := by
  cases payload with
  | reflected reflectId envelope =>
      refine ⟨(self.reflectedEvent envelope).toList, rfl, ?_⟩
      intro event hmem
      exact reflectedEvent_isTextMessage (Option.mem_toList.mp hmem)
  | _ => exact ⟨[], (List.append_nil _).symm, List.forall_mem_nil _⟩

theorem pc_handleUnsolicitedD2m (self : Driver L) (resume : Option Wait)
    (payload : D2mIncomingPayload) (error : String) :
    (self.handleUnsolicitedD2m resume payload).pc ≠ .returned error := by
  intro h
  cases payload <;> first | cases h | (cases resume <;> cases h)

/-- A step of the driver sends text messages, if its providers do, and none when it
returns. -/
theorem events_next {self self' : Driver L} {l : DriverLabel} (h : self.next l = some self')
    (hemits : ∀ event ∈ l.emits, event.isTextMessage = true) :
    ∃ sent, self'.events = self.events ++ sent ∧ (∀ event ∈ sent, event.isTextMessage = true) ∧
      ∀ error, self'.pc = .returned error → sent = [] := by
  cases step_of_next h with
  | @unsolicited resume payload =>
      obtain ⟨sent, hsent, htext⟩ := self.events_handleUnsolicitedD2m resume payload
      refine ⟨sent, hsent, htext, ?_⟩
      intro error hpc
      exact absurd hpc (self.pc_handleUnsolicitedD2m resume payload error)
  | polled loop =>
      refine ⟨[], ?_, List.forall_mem_nil _, fun _ _ => rfl⟩
      rw [events_runInstruction, List.append_nil]
  | provided data emitted htask =>
      refine ⟨emitted, rfl, hemits, ?_⟩
      intro error hpc
      rw [show self.pc = .returned error from hpc] at htask
      simp [DriverPc.inTask] at htask
  | _ => exact ⟨[], (List.append_nil _).symm, List.forall_mem_nil _, fun _ _ => rfl⟩

end Driver

namespace ClientTasks

theorem driver_nextCsp {self self' : ClientTasks P Q L} {l : CspSessionLabel}
    (h : self.nextCsp l = some self') : self'.driver = self.driver := by
  simp only [nextCsp] at h
  split at h
  next => cases h
  next =>
      obtain ⟨csp, -, h⟩ := Option.bind_eq_some_iff.mp h
      obtain ⟨chans, -, rfl⟩ := Option.map_eq_some_iff.mp h
      rfl

theorem driver_nextD2m {self self' : ClientTasks P Q L} {l : D2mSessionLabel}
    (h : self.nextD2m l = some self') : self'.driver = self.driver := by
  simp only [nextD2m] at h
  split at h
  next => cases h
  next =>
      obtain ⟨d2m, -, h⟩ := Option.bind_eq_some_iff.mp h
      obtain ⟨chans, -, rfl⟩ := Option.map_eq_some_iff.mp h
      rfl

/-- A step of the driver leaves the connections as they are. -/
theorem driver_nextDriver {self self' : ClientTasks P Q L} {l : DriverLabel}
    (h : self.nextDriver l = some self') : self.allows l = true ∧
      self.driver.next l = some self'.driver ∧ self'.csp = self.csp ∧ self'.d2m = self.d2m := by
  simp only [nextDriver] at h
  split at h
  next hallows =>
      obtain ⟨driver, hdriver, h⟩ := Option.bind_eq_some_iff.mp h
      obtain ⟨csp, -, h⟩ := Option.bind_eq_some_iff.mp h
      obtain ⟨d2m, -, rfl⟩ := Option.map_eq_some_iff.mp h
      exact ⟨hallows, hdriver, rfl, rfl⟩
  next => cases h

/-- What becomes done while the connections stay as they are is the driver. -/
theorem returned_of_result {self self' : ClientTasks P Q L} (hcsp : self'.csp = self.csp)
    (hd2m : self'.d2m = self.d2m) (h : self.result = none) (h' : self'.result ≠ none) :
    ∃ error, self'.driver.pc = .returned error := by
  simp only [result, hcsp, hd2m] at h h'
  split at h' <;> simp_all

/-- A step of the driver sends text messages, and none when it ends the `select!`. -/
theorem events_nextDriver {self self' : ClientTasks P Q L} {l : DriverLabel}
    (h : self.nextDriver l = some self') :
    ∃ sent, self'.driver.events = self.driver.events ++ sent ∧
      (∀ event ∈ sent, event.isTextMessage = true) ∧
      (self.result = none → self'.result ≠ none → sent = []) := by
  obtain ⟨hallows, hdriver, hcsp, hd2m⟩ := driver_nextDriver h
  have hemits : ∀ event ∈ l.emits, event.isTextMessage = true := by
    cases l with
    | provided data emitted => exact List.all_eq_true.mp hallows
    | _ => exact List.forall_mem_nil _
  obtain ⟨sent, hsent, htext, hreturned⟩ := Driver.events_next hdriver hemits
  refine ⟨sent, hsent, htext, ?_⟩
  intro hlive hdone
  obtain ⟨error, hpc⟩ := returned_of_result hcsp hd2m hlive hdone
  exact hreturned error hpc

end ClientTasks

namespace Client

/-- The `select!` goes on only while none of its branches is done. -/
def Live (self : Client P Q L) : Prop :=
  ∀ tasks, self.phase = .running tasks → tasks.result = none

theorem live_select (self : Client P Q L) (tasks : ClientTasks P Q L) :
    (self.select tasks).Live := by
  intro tasks' h
  simp only [select] at h
  split at h
  next hresult =>
      cases h
      exact hresult
  next => cases h

@[simp] theorem parts_select (self : Client P Q L) (tasks : ClientTasks P Q L) :
    (self.select tasks).parts = self.parts := by
  simp only [select]
  cases tasks.result <;> rfl

@[simp] theorem receiver_select (self : Client P Q L) (tasks : ClientTasks P Q L) :
    (self.select tasks).receiver = self.receiver := by
  simp only [select]
  cases tasks.result <;> rfl

@[simp] theorem events_select (self : Client P Q L) (tasks : ClientTasks P Q L) :
    (self.select tasks).events = self.events := by
  simp only [select]
  cases tasks.result <;> rfl

@[simp] theorem parts_send (self : Client P Q L) (events : List Event) :
    (self.send events).parts = self.parts := by
  simp only [send]
  cases self.receiver <;> rfl

@[simp] theorem receiver_send (self : Client P Q L) (events : List Event) :
    (self.send events).receiver = self.receiver := by
  cases h : self.receiver <;> simp [send, h]

@[simp] theorem phase_send (self : Client P Q L) (events : List Event) :
    (self.send events).phase = self.phase := by
  simp only [send]
  cases self.receiver <;> rfl

theorem events_send (self : Client P Q L) (events : List Event) :
    (self.send events).events = self.events ++ if self.receiver then events else [] := by
  cases h : self.receiver <;> simp [send, h]

theorem result_of_hasReturned_select {self : Client P Q L} {tasks : ClientTasks P Q L}
    (h : (self.select tasks).hasReturned = true) : tasks.result ≠ none := by
  intro hresult
  simp only [select, hresult] at h
  cases h

/-- Everything a step of `run` can do. -/
inductive Step (self : Client P Q L) : ClientLabel → Client P Q L → Prop where
  | setUpFailed {part : SetUp} (message : String) (h : self.phase = .setUp part) :
      Step self (.setUp (some message)) (self.fail (part.error self.parts.stateDir message))
  | setUp {part : SetUp} {part' : SetUp} (h : self.phase = .setUp part)
      (hfollowing : part.following = some part') :
      Step self (.setUp none) { self with phase := .setUp part' }
  | setUpDone {part : SetUp} (h : self.phase = .setUp part) (hfollowing : part.following = none) :
      Step self (.setUp none) { self with phase := .connectCsp }
  | cspFailed (message : String) (h : self.phase = .connectCsp) :
      Step self (.connectedCsp (some message)) (self.fail message)
  | connectedCsp (h : self.phase = .connectCsp) :
      Step self (.connectedCsp none) { self with phase := .connectD2m }
  | d2mFailed (message : String) (h : self.phase = .connectD2m) :
      Step self (.connectedD2m (.error message)) (self.fail message)
  | connectedD2m (receiver : Bool) (h : self.phase = .connectD2m) :
      Step self (.connectedD2m (.ok receiver))
        { send { self with receiver := receiver } [.connected] with
          phase := .running (.start self.parts) }
  | receiverDropped {tasks : ClientTasks P Q L} (h : self.phase = .running tasks) :
      Step self .receiverDropped { self with receiver := false }
  | csp {tasks tasks' : ClientTasks P Q L} {l : CspSessionLabel} (h : self.phase = .running tasks)
      (hnext : tasks.nextCsp l = some tasks') : Step self (.csp l) (self.select tasks')
  | d2m {tasks tasks' : ClientTasks P Q L} {l : D2mSessionLabel} (h : self.phase = .running tasks)
      (hnext : tasks.nextD2m l = some tasks') : Step self (.d2m l) (self.select tasks')
  | driver {tasks tasks' : ClientTasks P Q L} {l : DriverLabel} {sent : List Event}
      (h : self.phase = .running tasks) (hnext : tasks.nextDriver l = some tasks')
      (hsent : tasks'.driver.events = tasks.driver.events ++ sent) :
      Step self (.driver l) ((self.send sent).select tasks')
  | sendText {tasks : ClientTasks P Q L} (recipient : Recipient) (text : String)
      (h : self.phase = .running tasks) :
      Step self (.command (some (.sendText recipient text))) self
  | shutdown {tasks : ClientTasks P Q L} (command : Option Command)
      (h : self.phase = .running tasks) :
      Step self (.command command) { self with phase := .returned (.ok ()) }

/-- Everything a label can do. -/
theorem step_of_next {self self' : Client P Q L} {l : ClientLabel} (h : self.next l = some self') :
    self.Step l self' := by
  cases l with
  | setUp error =>
      simp only [next] at h
      split at h
      next part message hphase =>
          cases h
          exact .setUpFailed message hphase
      next part hphase =>
          split at h <;> cases h
          next part' hfollowing => exact .setUp hphase hfollowing
          next hfollowing => exact .setUpDone hphase hfollowing
      next => cases h
  | connectedCsp error =>
      simp only [next] at h
      split at h <;> cases h
      next message hphase => exact .cspFailed message hphase
      next hphase => exact .connectedCsp hphase
  | connectedD2m receiver =>
      simp only [next] at h
      split at h <;> cases h
      next message hphase => exact .d2mFailed message hphase
      next receiver hphase => exact .connectedD2m receiver hphase
  | receiverDropped =>
      simp only [next] at h
      split at h <;> cases h
      next tasks hphase => exact .receiverDropped hphase
  | csp l =>
      simp only [next] at h
      split at h
      next tasks hphase =>
          obtain ⟨tasks', htasks, rfl⟩ := Option.map_eq_some_iff.mp h
          exact .csp hphase htasks
      next => cases h
  | d2m l =>
      simp only [next] at h
      split at h
      next tasks hphase =>
          obtain ⟨tasks', htasks, rfl⟩ := Option.map_eq_some_iff.mp h
          exact .d2m hphase htasks
      next => cases h
  | driver l =>
      simp only [next] at h
      split at h
      next tasks hphase =>
          obtain ⟨tasks', htasks, rfl⟩ := Option.map_eq_some_iff.mp h
          obtain ⟨sent, hsent, -⟩ := ClientTasks.events_nextDriver htasks
          rw [hsent, List.drop_left]
          exact .driver hphase htasks hsent
      next => cases h
  | command command =>
      simp only [next] at h
      split at h <;> cases h
      next recipient text hphase => exact .sendText recipient text hphase
      next hphase _ => exact .shutdown _ hphase

theorem live_next {self self' : Client P Q L} {l : ClientLabel} (hlive : self.Live)
    (h : self.next l = some self') : self'.Live := by
  cases step_of_next h with
  | csp => exact self.live_select _
  | d2m => exact self.live_select _
  | driver => exact live_select _ _
  | receiverDropped => exact hlive
  | sendText => exact hlive
  | connectedD2m receiver =>
      intro tasks hphase
      cases hphase
      rfl
  | _ =>
      intro tasks hphase
      cases hphase

/-- What a step sends.  `Connected` is sent when the WebSocket is up, everything else is
a text message, and the step that ends `run` sends nothing. -/
theorem events_next {self self' : Client P Q L} {l : ClientLabel} (h : self.next l = some self') :
    ∃ sent, self'.events = self.events ++ sent ∧
      (l = .connectedD2m (.ok true) ∧ sent = [.connected] ∨
        l ≠ .connectedD2m (.ok true) ∧ ∀ event ∈ sent, event.isTextMessage = true) ∧
      (self.Live → self'.hasReturned = true → sent = []) := by
  cases step_of_next h with
  | connectedD2m receiver hphase =>
      refine ⟨if receiver then [.connected] else [], events_send _ _, ?_, nofun⟩
      cases receiver <;> simp
  | @csp tasks tasks' _ hphase hnext =>
      refine ⟨[], ?_, by simp, fun _ _ => rfl⟩
      rw [events_select, List.append_nil]
  | @d2m tasks tasks' _ hphase hnext =>
      refine ⟨[], ?_, by simp, fun _ _ => rfl⟩
      rw [events_select, List.append_nil]
  | @driver tasks tasks' _ sent hphase hnext hsent =>
      obtain ⟨sent', hsent', htext, hdone⟩ := ClientTasks.events_nextDriver hnext
      obtain rfl : sent' = sent := List.append_cancel_left (hsent'.symm.trans hsent)
      refine ⟨if self.receiver then sent' else [], ?_, .inr ⟨nofun, ?_⟩, ?_⟩
      · rw [events_select, events_send]
      · intro event hmem
        cases hreceiver : self.receiver with
        | true =>
            rw [hreceiver] at hmem
            exact htext event hmem
        | false =>
            rw [hreceiver] at hmem
            cases hmem
      · intro hlive hreturned
        rw [hdone (hlive tasks hphase) (result_of_hasReturned_select hreturned), ite_self]
  -- nothing else sends an event
  | _ => exact ⟨[], (List.append_nil _).symm, by simp, fun _ _ => rfl⟩

/-! ## Connected -/

/-- Both handshake flows have completed. -/
def HandshakesComplete (self : Client P Q L) : Prop :=
  ∃ tasks, self.phase = .running tasks ∧ (∃ pc, tasks.csp.pc = .payload pc) ∧
    ∃ pc, tasks.d2m.pc = .payload pc

/-- The step sends `Connected`. -/
def SendsConnected (self : Client P Q L) (l : ClientLabel) : Prop :=
  ∃ self', self.next l = some self' ∧
    self.events.count .connected < self'.events.count .connected

/-- A step sends `Connected` only when both handshake flows have completed. -/
def Truthful (self : Client P Q L) (l : ClientLabel) : Prop :=
  self.SendsConnected l → self.HandshakesComplete

theorem sendsConnected_iff {self self' : Client P Q L} {l : ClientLabel}
    (h : self.next l = some self') : self.SendsConnected l ↔ l = .connectedD2m (.ok true) := by
  obtain ⟨sent, hevents, hsent, -⟩ := events_next h
  have hcount : self.events.count .connected < self'.events.count .connected ↔
      .connected ∈ sent := by
    rw [hevents, List.count_append, Nat.lt_add_right_iff_pos, List.count_pos_iff]
  have hconnected : .connected ∈ sent ↔ l = .connectedD2m (.ok true) := by
    rcases hsent with ⟨hl, rfl⟩ | ⟨hl, htexts⟩
    · exact iff_of_true (List.mem_singleton_self _) hl
    · exact iff_of_false (fun hmem => Bool.noConfusion (htexts _ hmem)) hl
  rw [← hconnected, ← hcount, SendsConnected]
  constructor
  · rintro ⟨self'', h', hlt⟩
    rw [h] at h'
    cases h'
    exact hlt
  · intro hlt
    exact ⟨self', h, hlt⟩

/-- The handshakes have not begun when the WebSocket gets connected. -/
theorem not_handshakesComplete {self self' : Client P Q L} {receiver : Except String Bool}
    (h : self.next (.connectedD2m receiver) = some self') : ¬ self.HandshakesComplete := by
  rintro ⟨tasks, hphase, -⟩
  simp only [next, hphase] at h
  cases h

/-- A run keeps the promise of `Connected` exactly when it does not send it. -/
theorem connected_truthful_iff (parts : ClientParts P Q L) (ls : List ClientLabel) :
    (machine P Q L).Meets Truthful (start parts) ls ↔
      (machine P Q L).Meets (fun _ l => l ≠ .connectedD2m (.ok true)) (start parts) ls := by
  refine (machine P Q L).meets_congr ?_ (start parts) ls
  intro self l self' hl
  rw [Truthful, sendsConnected_iff hl]
  constructor
  · rintro htruthful rfl
    exact not_handshakesComplete hl (htruthful rfl)
  · intro hne heq
    exact absurd heq hne

end Client

/-! ### A handshake that fails -/

/-- The set-up of a client without contacts. -/
def ClientParts.sample (decodeEnvelope : Bytes → Except String Envelope) :
    ClientParts .sampleLogin .sampleLogin (.sample decodeEnvelope) where
  stateDir := "."
  deviceGroupKey := ()
  contactStore := .sample decodeEnvelope
  contacts := ∅
  cspProtocol := (false, [])
  clientHello := [42]
  d2mProtocol := (false, [])

namespace Client

/-- The set-up succeeds, and the chat server is reached. -/
def setsUp : List ClientLabel := List.replicate 8 (.setUp none) ++ [.connectedCsp none]

/-- The WebSocket gets connected.  Then the client hello cannot be sent. -/
def resets : List ClientLabel :=
  setsUp ++ [.connectedD2m (.ok true), .csp (.handshake (.written (some "connection reset")))]

/-- The client reports its connection, and no handshake gets past its first frame. -/
theorem connected_notTruthful :
    (∃ self, (machine _ _ _).exec
        (start (ClientParts.sample fun _ => .error "invalid envelope")) resets = some self ∧
      self.events = [.connected] ∧
      self.phase = .returned (.error "CSP connection ended: connection reset")) ∧
    ¬ (machine _ _ _).Meets Truthful
      (start (ClientParts.sample fun _ => .error "invalid envelope")) resets := by
  constructor
  · exact ⟨_, rfl, rfl, rfl⟩
  · intro h
    have hsends : SendsConnected
        { start (ClientParts.sample fun _ => .error "invalid envelope") with phase := .connectD2m }
        (.connectedD2m (.ok true)) := ⟨_, rfl, by decide⟩
    obtain ⟨tasks, hphase, -⟩ := Machine.Meets.step _ (h :) rfl rfl hsends
    cases hphase

/-- Both handshakes. -/
def handshakes : List ClientLabel :=
  [.csp (.handshake (.written none)), .csp (.handshake .turn), .csp (.handshake (.read (.ok [1]))),
    .csp (.handshake (.tryReadBuf (.bytes [7]))), .csp (.handshake (.written none)),
    .d2m (.handshake (.received (.binary [0]))), .d2m (.handshake (.written none))]

example : ∃ self, (machine _ _ _).exec
    (start (ClientParts.sample fun _ => .error "invalid envelope"))
      (setsUp ++ [.connectedD2m (.ok true)] ++ handshakes) = some self ∧
    self.HandshakesComplete :=
  ⟨_, rfl, _, rfl, ⟨_, rfl⟩, ⟨_, rfl⟩⟩

end Client

end MultideviceClient
