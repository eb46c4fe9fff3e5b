import MultideviceClient.Client

/-!
# The command-line front-end

`main` polls two futures in one `select!`: the client and the printer.  The
client sends its events on an unbounded channel, and the printer receives them
and prints the text messages.  The channel is open while the client runs, so the
printer never returns first, and `main` returns when the client does.

*Printed.*  What is on stdout is always the lines of the events that the printer
has received, in order.  The printer does not get another turn once the client
has returned.  So a run prints everything exactly when the printer gets enough turns
between each report and the end of the client (`prints_iff`).
-/

namespace MultideviceClient

open Foundations

/-! ## Lines -/

/-- `label`: the name and the identity, or the identity alone. -/
def label (identity : String) : Option String → String
  | some name => name ++ " (" ++ identity ++ ")"
  | none => identity

/-- Whom an outgoing message is to, as `print_text_message` puts it. -/
def Conversation.recipientText : Conversation → String
  | .contact identity name => label identity name ++ " [" ++ identity ++ "]"
  | .group creatorIdentity groupId => "group " ++ creatorIdentity ++ "/" ++ toString groupId
  | .distributionList id => "distribution list " ++ toString id
  | .unknown => "<unknown conversation>"

/-- The line that `print_text_message` prints. -/
def printTextMessage (message : TextMessage) : String :=
  if message.outgoing then
    "[" ++ toString message.timestampMs ++ "] me (to " ++ message.conversation.recipientText ++
      "): " ++ message.text
  else
    let senderIdentity := message.senderIdentity.getD "<unknown>"
    let author := label senderIdentity message.senderName
    match message.conversation with
    | .group creatorIdentity groupId =>
        "[" ++ toString message.timestampMs ++ "] " ++ author ++ " [" ++ senderIdentity ++
          "] (group " ++ creatorIdentity ++ "/" ++ toString groupId ++ "): " ++ message.text
    | _ =>
        "[" ++ toString message.timestampMs ++ "] " ++ author ++ " [" ++ senderIdentity ++ "]: " ++
          message.text

/-- What the printer prints of an event.  `Connected` goes to the log. -/
def Event.line : Event → Option String
  | .connected => none
  | .textMessage message => some (printTextMessage message)

/-! ## Main -/

/-- `main`, in its `select!`. -/
structure Cli (P : CspProtocol) (Q : D2mProtocol) (L : Libthreema) where
  client : Client P Q L
  /-- How many events the printer has received. -/
  received : Nat
  /-- What is on stdout, line by line. -/
  stdout : List String

/-- What `main` goes on with. -/
inductive CliLabel where
  /-- The client goes on. -/
  | client (l : ClientLabel)
  /-- `event_rx.recv` of the printer completes. -/
  | print

/-- The printer gets a turn. -/
def CliLabel.isPrint : CliLabel → Bool
  | .print => true
  | .client _ => false

variable {P : CspProtocol} {Q : D2mProtocol} {L : Libthreema}

namespace Cli

/-- `main`, from its `select!`. -/
def start (parts : ClientParts P Q L) : Cli P Q L where
  client := .start parts
  received := 0
  stdout := []

/-- The printer holds the receiver of the events, and Ctrl-C is the only source of
commands. -/
def allows : ClientLabel → Bool
  | .connectedD2m (.ok receiver) => receiver
  | .receiverDropped => false
  | .command (some (.sendText _ _)) => false
  | _ => true

/-- The step of a label.  There is none when the client has returned. -/
def next (self : Cli P Q L) : CliLabel → Option (Cli P Q L)
  | .client l =>
      if allows l then (self.client.next l).map fun client => { self with client := client }
      else none
  | .print =>
      if self.client.hasReturned then none
      else
        self.client.events[self.received]?.map fun event =>
          { self with
            received := self.received + 1
            stdout := self.stdout ++ event.line.toList }

/-- `main` as a machine. -/
def machine (P : CspProtocol) (Q : D2mProtocol) (L : Libthreema) :
    Machine (Cli P Q L) CliLabel where
  next := next

/-! ## What is printed -/

/-- The events in the channel. -/
def waiting (self : Cli P Q L) : List Event := self.client.events.drop self.received

/-- When `main` returns, the text messages of all events have been printed, in
order. -/
def PrintsAll (self : Cli P Q L) : Prop :=
  self.client.hasReturned = true → self.stdout = self.client.events.filterMap Event.line

/-- The step ends the client, and `main` with it. -/
def Ends (self : Cli P Q L) (l : CliLabel) : Prop :=
  ∃ self', self.next l = some self' ∧ self'.client.hasReturned = true

/-- The step sends a text message. -/
def Reports (self : Cli P Q L) (l : CliLabel) : Prop :=
  ∃ self', self.next l = some self' ∧
    ∃ event ∈ self'.client.events.drop self.client.events.length, event.isTextMessage = true

/-- After each report, and before the client ends, the printer gets as many turns as
there are events in the channel. -/
def KeepsUp (self : Cli P Q L) (ls : List CliLabel) : Prop :=
  ∀ before report turns ending after s₁ s₂ s₃,
    ls = before ++ report :: (turns ++ ending :: after) →
    (machine P Q L).exec self before = some s₁ → s₁.next report = some s₂ → s₁.Reports report →
    (machine P Q L).exec s₂ turns = some s₃ → s₃.Ends ending →
      s₂.waiting.length ≤ turns.countP CliLabel.isPrint

/-- What is on stdout are the lines of the events that the printer has received. -/
structure Printed (s : Cli P Q L) : Prop where
  live : s.client.Live
  received_le : s.received ≤ s.client.events.length
  stdout_eq : s.stdout = (s.client.events.take s.received).filterMap Event.line

theorem printed_start (parts : ClientParts P Q L) : (start parts).Printed := by
  refine ⟨?_, Nat.zero_le _, rfl⟩
  intro tasks h
  cases h

/-- A step of the client leaves the channel as it is, or puts something in. -/
theorem next_client {self self' : Cli P Q L} {l : ClientLabel}
    (h : self.next (.client l) = some self') :
    ∃ client, self.client.next l = some client ∧ self' = { self with client := client } := by
  simp only [next] at h
  split at h
  next =>
      obtain ⟨client, hclient, rfl⟩ := Option.map_eq_some_iff.mp h
      exact ⟨client, hclient, rfl⟩
  next => cases h

/-- A step of the printer takes the first event in the channel. -/
theorem next_print {self self' : Cli P Q L} (h : self.next .print = some self') :
    self.client.hasReturned = false ∧ ∃ event, self.client.events[self.received]? = some event ∧
      self' = { self with
        received := self.received + 1
        stdout := self.stdout ++ event.line.toList } := by
  simp only [next] at h
  split at h
  next => cases h
  next hreturned =>
      obtain ⟨event, hevent, rfl⟩ := Option.map_eq_some_iff.mp h
      exact ⟨Bool.eq_false_iff.mpr hreturned, event, hevent, rfl⟩

theorem printed_next {self self' : Cli P Q L} {l : CliLabel} (hprinted : self.Printed)
    (h : self.next l = some self') : self'.Printed := by
  obtain ⟨hlive, hle, hstdout⟩ := hprinted
  cases l with
  | client l =>
      obtain ⟨client, hclient, rfl⟩ := next_client h
      obtain ⟨sent, hevents, -, -⟩ := Client.events_next hclient
      refine ⟨Client.live_next hlive hclient, ?_, ?_⟩
      · show self.received ≤ client.events.length
        rw [hevents, List.length_append]
        omega
      · show self.stdout = (client.events.take self.received).filterMap Event.line
        rw [hevents, List.take_append_of_le_length hle, hstdout]
  | print =>
      obtain ⟨-, event, hevent, rfl⟩ := next_print h
      refine ⟨hlive, ?_, ?_⟩
      · show self.received + 1 ≤ self.client.events.length
        exact (List.getElem?_eq_some_iff.mp hevent).1
      · show self.stdout ++ event.line.toList =
          (self.client.events.take (self.received + 1)).filterMap Event.line
        rw [List.take_add_one, hevent, List.filterMap_append, hstdout]
        cases hline : event.line <;> simp [hline]

theorem line_eq_none_iff (event : Event) : event.line = none ↔ event.isTextMessage = false := by
  cases event with
  | connected => exact ⟨fun _ => rfl, fun _ => rfl⟩
  | textMessage message => exact ⟨nofun, nofun⟩

/-- What is printed is everything exactly when no text message waits. -/
theorem stdout_iff {self : Cli P Q L} (hprinted : self.Printed) :
    self.stdout = self.client.events.filterMap Event.line ↔
      ∀ event ∈ self.waiting, event.isTextMessage = false := by
  have hsplit : self.client.events.filterMap Event.line =
      self.stdout ++ self.waiting.filterMap Event.line := by
    rw [hprinted.stdout_eq, waiting, ← List.filterMap_append, List.take_append_drop]
  rw [hsplit, List.self_eq_append_right, List.filterMap_eq_nil_iff]
  exact forall₂_congr fun event _ => line_eq_none_iff event

/-- A step to the end of the client leaves the channel as it is. -/
theorem waiting_of_ends {self self' : Cli P Q L} {l : CliLabel} (hprinted : self.Printed)
    (h : self.next l = some self') (hends : self'.client.hasReturned = true) :
    self'.waiting = self.waiting := by
  cases l with
  | client l =>
      obtain ⟨client, hclient, rfl⟩ := next_client h
      obtain ⟨sent, hevents, -, hsent⟩ := Client.events_next hclient
      rw [hsent hprinted.live hends, List.append_nil] at hevents
      show client.events.drop self.received = self.client.events.drop self.received
      rw [hevents]
  | print =>
      obtain ⟨hreturned, event, -, rfl⟩ := next_print h
      rw [show self.client.hasReturned = true from hends] at hreturned
      cases hreturned

theorem printed_exec {parts : ClientParts P Q L} {ls : List CliLabel} {self : Cli P Q L}
    (hrun : (machine P Q L).exec (start parts) ls = some self) : self.Printed :=
  (machine P Q L).exec_invariant (fun _ _ _ h hl => printed_next h hl) (printed_start parts) hrun

/-- The printer receives one event a turn, and no event is taken back. -/
theorem received_exec {self self' : Cli P Q L} {ls : List CliLabel}
    (hrun : (machine P Q L).exec self ls = some self') :
    self'.received = self.received + ls.countP CliLabel.isPrint ∧
      self.client.events <+: self'.client.events := by
  induction ls generalizing self with
  | nil =>
      cases hrun
      exact ⟨rfl, List.prefix_refl _⟩
  | cons l ls ih =>
      obtain ⟨self₁, hl, hrest⟩ := (machine P Q L).exec_cons_eq_some.mp hrun
      obtain ⟨hreceived, hevents⟩ := ih hrest
      cases l with
      | client l =>
          obtain ⟨client, hclient, rfl⟩ := next_client hl
          obtain ⟨sent, hsent, -⟩ := Client.events_next hclient
          refine ⟨?_, List.IsPrefix.trans ⟨sent, hsent.symm⟩ hevents⟩
          rw [hreceived, List.countP_cons_of_neg (by simp [CliLabel.isPrint])]
      | print =>
          obtain ⟨-, event, -, rfl⟩ := next_print hl
          refine ⟨?_, hevents⟩
          rw [hreceived, List.countP_cons_of_pos rfl]
          simp only
          omega

/-- The last event is a text message right after a report. -/
theorem last_of_reports {self self' : Cli P Q L} {l : CliLabel} (h : self.next l = some self')
    (hreports : self.Reports l) :
    ∃ events event, self'.client.events = events ++ [event] ∧ event.isTextMessage = true := by
  obtain ⟨self'', h'', event, hmem, htext⟩ := hreports
  obtain rfl : self' = self'' := Option.some.inj (h.symm.trans h'')
  cases l with
  | client l =>
      obtain ⟨client, hclient, rfl⟩ := next_client h
      obtain ⟨sent, hevents, hsent, -⟩ := Client.events_next hclient
      have hdrop : client.events.drop self.client.events.length = sent := by
        rw [hevents, List.drop_left]
      replace hmem : event ∈ sent := hdrop ▸ hmem
      rcases hsent with ⟨-, rfl⟩ | ⟨-, htexts⟩
      · rw [List.mem_singleton.mp hmem] at htext
        cases htext
      · rcases List.eq_nil_or_concat sent with rfl | ⟨init, last, rfl⟩
        · cases hmem
        · rw [List.concat_eq_append] at hevents htexts
          refine ⟨self.client.events ++ init, last, ?_, htexts last (by simp)⟩
          show client.events = _
          rw [hevents, List.append_assoc]
  | print =>
      obtain ⟨-, event', -, rfl⟩ := next_print h
      simp only [List.drop_length] at hmem
      cases hmem

/-- What is printed when `main` returns has been received in the turns before. -/
theorem keepsUp_of_visits {parts : ClientParts P Q L} {ls : List CliLabel}
    (h : (machine P Q L).Visits PrintsAll (start parts) ls) : (start parts).KeepsUp ls := by
  rw [Machine.visits_iff_exec] at h
  rintro before report turns ending after s₁ s₂ s₃ hsplit hbefore hreport hreports hturns
    ⟨s₄, hending, hreturned⟩
  have hrun₃ : (machine P Q L).exec (start parts) (before ++ report :: turns) = some s₃ :=
    (machine P Q L).exec_append_eq_some.mpr
      ⟨s₁, hbefore, (machine P Q L).exec_cons_eq_some.mpr ⟨s₂, hreport, hturns⟩⟩
  have hrun₄ : (machine P Q L).exec (start parts) (before ++ report :: turns ++ [ending]) =
      some s₄ :=
    (machine P Q L).exec_append_eq_some.mpr
      ⟨s₃, hrun₃, (machine P Q L).exec_cons_eq_some.mpr ⟨s₄, hending, rfl⟩⟩
  have hprints : s₄.PrintsAll := h _ after s₄ (by simp [hsplit]) hrun₄
  have hnone := (stdout_iff (printed_exec hrun₄)).mp (hprints hreturned)
  rw [waiting_of_ends (printed_exec hrun₃) hending hreturned] at hnone
  -- The last event of the report is in the channel until the printer has had all turns.
  obtain ⟨hreceived, added, hadded⟩ := received_exec hturns
  obtain ⟨events, event, hevents, htext⟩ := last_of_reports hreport hreports
  rw [waiting, List.length_drop]
  by_contra hle
  have hlt : s₃.received ≤ events.length := by
    rw [hevents, List.length_append, List.length_singleton] at hle
    omega
  have hmem : event ∈ s₃.waiting := by
    rw [waiting, ← hadded, hevents, List.append_assoc, List.drop_append_of_le_length hlt]
    simp
  rw [hnone event hmem] at htext
  cases htext

/-- An event in the channel has been sent by some step. -/
theorem exists_sends {parts : ClientParts P Q L} {ls : List CliLabel} {self : Cli P Q L}
    {i : Nat} {event : Event} (hrun : (machine P Q L).exec (start parts) ls = some self)
    (hevent : self.client.events[i]? = some event) :
    ∃ before l after s₁ s₂, ls = before ++ l :: after ∧
      (machine P Q L).exec (start parts) before = some s₁ ∧ s₁.next l = some s₂ ∧
      (machine P Q L).exec s₂ after = some self ∧ i < s₂.client.events.length ∧
      event ∈ s₂.client.events.drop s₁.client.events.length := by
  obtain ⟨before, l, after, s₁, s₂, hsplit, hbefore, hl, hafter, hnot, hsent⟩ :=
    (machine P Q L).exists_step (P := fun s => i < s.client.events.length) hrun
      (Nat.not_lt_zero _) (List.getElem?_eq_some_iff.mp hevent).1
  refine ⟨before, l, after, s₁, s₂, hsplit, hbefore, hl, hafter, hsent, ?_⟩
  obtain ⟨-, added, hadded⟩ := received_exec hafter
  have hget : (s₂.client.events.drop s₁.client.events.length)[i - s₁.client.events.length]? =
      some event := by
    rw [List.getElem?_drop, Nat.add_sub_cancel' (Nat.le_of_not_lt hnot), ← hevent, ← hadded,
      List.getElem?_append_left hsent]
  exact List.mem_of_getElem? hget

/-- With enough turns after the report nothing is left in the channel. -/
theorem visits_of_keepsUp {parts : ClientParts P Q L} {ls : List CliLabel}
    (h : (start parts).KeepsUp ls) : (machine P Q L).Visits PrintsAll (start parts) ls := by
  rw [Machine.visits_iff_exec]
  intro upto after s hsplit hrun hreturned
  rcases List.eq_nil_or_concat upto with rfl | ⟨upto, ending, rfl⟩
  · cases hrun
    cases hreturned
  rw [List.concat_eq_append] at hsplit hrun
  obtain ⟨s₃, hupto, hlast⟩ := (machine P Q L).exec_append_eq_some.mp hrun
  obtain ⟨s₄, hending, hnil⟩ := (machine P Q L).exec_cons_eq_some.mp hlast
  obtain rfl : s₄ = s := Option.some.inj hnil
  rw [stdout_iff (printed_exec hrun), waiting_of_ends (printed_exec hupto) hending hreturned]
  intro event hmem
  by_contra htext
  rw [Bool.not_eq_false] at htext
  obtain ⟨i, hevent⟩ := List.mem_iff_getElem?.mp hmem
  rw [waiting, List.getElem?_drop] at hevent
  obtain ⟨before, report, turns, s₁, s₂, hsplit', hbefore, hreport, hturns, hsent, hmem'⟩ :=
    exists_sends hupto hevent
  have hturn := h before report turns ending after s₁ s₂ s₃ (by simp [hsplit, hsplit']) hbefore
    hreport ⟨s₂, hreport, event, hmem', htext⟩ hturns ⟨s₄, hending, hreturned⟩
  have hreceived := (received_exec hturns).1
  rw [waiting, List.length_drop] at hturn
  omega

/-- A run prints every text message before `main` returns exactly when the printer gets
enough turns between each report and the end of the client. -/
theorem prints_iff (parts : ClientParts P Q L) (ls : List CliLabel) :
    (machine P Q L).Visits PrintsAll (start parts) ls ↔ (start parts).KeepsUp ls :=
  ⟨keepsUp_of_visits, visits_of_keepsUp⟩

/-! ### A message that is lost -/

/-- Every envelope reflects the same text. -/
def greeting (_ : Bytes) : Except String Envelope :=
  .ok ⟨some (.incomingMessage
    { senderIdentity := "ECHOECHO", messageId := 7, createdAt := 1700000000000, type := 1,
      body := utf8 "hi" })⟩

/-- The driver reports a reflected text, which is acknowledged.  Then the mediator
closes the WebSocket. -/
def acknowledges : List ClientLabel :=
  [.d2m (.payload .turn), .d2m (.payload (.received (.binary [7]))), .d2m (.payload .turn),
    .d2m (.payload (.sentIncoming (.reflected 7 []))), .d2m (.payload .turn),
    .driver (.recvD2m (some (.reflected 7 []))), .driver (.sentD2m (.reflectedAck 7)),
    .d2m (.payload (.recvOutgoing (.reflectedAck 7))), .d2m (.payload (.written none)),
    .d2m (.payload .turn), .d2m (.payload (.received .ended)),
    .d2m (.shutdown (some "Trying to work with closed connection"))]

/-- The printer does not get a turn between the report and the end. -/
def closes : List CliLabel :=
  (Client.setsUp ++ .connectedD2m (.ok true) :: Client.handshakes).map .client ++ [.print] ++
    acknowledges.map .client

/-- The text that was acknowledged is never printed. -/
theorem prints_notAll :
    (∃ self, (machine _ _ _).exec (start (.sample greeting)) closes = some self ∧
      self.client.phase =
        .returned (.error "D2M connection ended: Trying to work with closed connection") ∧
      self.client.events.filterMap Event.line =
        ["[1700000000000] ECHOECHO [ECHOECHO]: hi"] ∧ self.stdout = []) ∧
    ¬ (machine _ _ _).Visits PrintsAll (start (.sample greeting)) closes := by
  constructor
  · exact ⟨_, rfl, rfl, rfl, rfl⟩
  · intro h
    have hlast := h.last _ rfl rfl
    cases hlast

end Cli

end MultideviceClient
