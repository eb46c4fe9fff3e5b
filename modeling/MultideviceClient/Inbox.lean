import MultideviceClient.Conversation
import MultideviceClient.Foundations.Machine
import MultideviceClient.Store.Encodings

/-!
# Deduplication of chat-server messages

A run of `add_or_update_incoming_message` calls on one provider, with calls of
`add` and `update` on the shared contact store between them.  The latter may be
rejected, and their writes may fail.

The history of a run lists the accepted messages, each with the contacts of that
moment.  `inbox_exact` says that the history decides everything: the events are
the reports of the first message of every pair of sender and id, in order, and
the marked pairs are the pairs of the history.  A rejected message is in no
history, so it is reported once it is accepted.
-/

namespace MultideviceClient

open Foundations

variable {L : Libthreema}

/-- The provider, the contact store and the events so far. -/
structure Inbox (L : Libthreema) where
  provider : EventConversationProvider L
  /-- The memory that the clones of the contact store share. -/
  contacts : ContactMap
  disk : Disk Path
  /-- Oldest first. -/
  events : List Event

/-- A call on the provider, or on the contact store. -/
inductive InboxCall (L : Libthreema) where
  | message (message : IncomingMessage L)
  | contacts (call : ContactCall L) (order : Nat) (verdicts : List Verdict)

/-- An accepted message, with the contacts of that moment. -/
structure Acceptance (L : Libthreema) where
  contacts : ContactMap
  message : IncomingMessage L

namespace Acceptance

/-- What names a message. -/
def pair (a : Acceptance L) : L.ThreemaId × UInt64 := (a.message.senderIdentity, a.message.id)

/-- The first message of every pair. -/
def firsts (history : List (Acceptance L)) : List (Acceptance L) :=
  history.eraseDupsBy fun a b => a.pair = b.pair

/-- The reports of the first messages. -/
def reports (store : ContactStore L) (history : List (Acceptance L)) : List Event :=
  (firsts history).filterMap fun a => EventConversationProvider.report store a.contacts a.message

/-- The messages whose pair is not among those that were seen before. -/
def unseen (seen : Finset (L.ThreemaId × UInt64)) (history : List (Acceptance L)) :
    List (Acceptance L) :=
  history.filter fun a => a.pair ∉ seen

theorem unseen_empty (history : List (Acceptance L)) : unseen ∅ history = history :=
  List.filter_eq_self.mpr fun _ _ => by simp

theorem unseen_cons_of_mem {seen : Finset (L.ThreemaId × UInt64)} {a : Acceptance L}
    (h : a.pair ∈ seen) (history : List (Acceptance L)) :
    unseen seen (a :: history) = unseen seen history :=
  List.filter_cons_of_neg (by simpa using h)

/-- A message that was not seen is the first of its pair. -/
theorem firsts_unseen_cons {seen : Finset (L.ThreemaId × UInt64)} {a : Acceptance L}
    (h : a.pair ∉ seen) (history : List (Acceptance L)) :
    firsts (unseen seen (a :: history)) =
      a :: firsts (unseen (insert a.pair seen) history) := by
  have hfilter : ((unseen seen history).filter fun b => decide (b.pair = a.pair) = false) =
      unseen (insert a.pair seen) history := by
    rw [unseen, unseen, List.filter_filter]
    apply List.filter_congr
    intro b _
    simp
  rw [unseen, List.filter_cons_of_pos (by simpa using h), firsts, List.eraseDupsBy_cons]
  exact congrArg (fun rest => a :: firsts rest) hfilter

/-- The first messages are those of different pairs, none of which was seen before. -/
theorem firsts_unseen_pairwise (seen : Finset (L.ThreemaId × UInt64))
    (history : List (Acceptance L)) :
    (firsts (unseen seen history)).Pairwise (fun a b => a.pair ≠ b.pair) ∧
      ∀ a ∈ firsts (unseen seen history), a.pair ∉ seen := by
  induction history generalizing seen with
  | nil => exact ⟨.nil, List.forall_mem_nil _⟩
  | cons a history ih =>
      by_cases hseen : a.pair ∈ seen
      · rw [unseen_cons_of_mem hseen]
        exact ih seen
      · obtain ⟨hpairwise, hrest⟩ := ih (insert a.pair seen)
        rw [firsts_unseen_cons hseen]
        refine ⟨.cons ?_ hpairwise, List.forall_mem_cons.mpr ⟨hseen, ?_⟩⟩
        · intro b hb heq
          exact hrest b hb (heq ▸ Finset.mem_insert_self _ _)
        · intro b hb hmem
          exact hrest b hb (Finset.mem_insert_of_mem hmem)

end Acceptance

namespace Inbox

variable (serde : Serde ContactMap)

/-- The step of a call.  A killed process makes no further call. -/
def next (s : Inbox L) : InboxCall L → Option (Inbox L)
  | .message message =>
      match s.provider.addOrUpdateIncomingMessage s.contacts message with
      | .error _ => some s
      | .ok (provider, event) =>
          some { s with provider := provider, events := s.events ++ event.toList }
  | .contacts call order verdicts =>
      match (s.provider.contacts.call serde order call).run ⟨s.contacts, s.disk, verdicts⟩ with
      | (.killed, _) => none
      | (_, w) => some { s with contacts := w.memory, disk := w.disk }

/-- Calls in any order. -/
def machine : Machine (Inbox L) (InboxCall L) where
  next := next serde

/-- A new provider over a contact store. -/
def start (store : ContactStore L) (contacts : ContactMap) (disk : Disk Path) : Inbox L where
  provider := .new store
  contacts := contacts
  disk := disk
  events := []

/-- The history of a call. -/
def accepted (s : Inbox L) : InboxCall L → List (Acceptance L)
  | .message message =>
      match s.provider.addOrUpdateIncomingMessage s.contacts message with
      | .ok _ => [⟨s.contacts, message⟩]
      | .error _ => []
  | .contacts _ _ _ => []

/-- The history of a run. -/
def history (s : Inbox L) (calls : List (InboxCall L)) : List (Acceptance L) :=
  (machine serde).collect accepted s calls

/-! ## Steps -/

/-- A rejected message changes nothing. -/
theorem next_message_rejected {s : Inbox L} {message : IncomingMessage L}
    (h : s.provider.accepts s.contacts message = false) :
    s.next serde (.message message) = some s ∧ s.accepted (.message message) = [] := by
  obtain ⟨e, he⟩ := s.provider.addOrUpdateIncomingMessage_rejected s.contacts message h
  simp only [next, accepted, he, and_self]

/-- A message with a marked pair changes nothing. -/
theorem next_message_seen {s : Inbox L} {message : IncomingMessage L}
    (h : s.provider.accepts s.contacts message = true)
    (hseen : (message.senderIdentity, message.id) ∈ s.provider.seen) :
    s.next serde (.message message) = some s ∧
      s.accepted (.message message) = [⟨s.contacts, message⟩] := by
  simp [next, accepted,
    s.provider.addOrUpdateIncomingMessage_seen s.contacts message h hseen]

/-- A first message is marked and reported. -/
theorem next_message_first {s : Inbox L} {message : IncomingMessage L}
    (h : s.provider.accepts s.contacts message = true)
    (hfirst : (message.senderIdentity, message.id) ∉ s.provider.seen) :
    s.next serde (.message message) = some { s with
        provider := { s.provider with
          seen := insert (message.senderIdentity, message.id) s.provider.seen }
        events := s.events ++ (EventConversationProvider.report s.provider.contacts s.contacts
          message).toList } ∧
      s.accepted (.message message) = [⟨s.contacts, message⟩] := by
  simp [next, accepted,
    s.provider.addOrUpdateIncomingMessage_first s.contacts message h hfirst]

/-- A call on the contact store is none of the provider. -/
theorem next_contacts {s s' : Inbox L} {call : ContactCall L} {order : Nat}
    {verdicts : List Verdict} (h : s.next serde (.contacts call order verdicts) = some s') :
    s'.provider = s.provider ∧ s'.events = s.events := by
  simp only [next] at h
  split at h
  next => cases h
  next =>
      cases h
      exact ⟨rfl, rfl⟩

/-! ## Runs -/

/-- What the history of a run adds to the events and to the marked pairs. -/
structure Extends (s s' : Inbox L) (history : List (Acceptance L)) : Prop where
  store : s'.provider.contacts = s.provider.contacts
  events : s'.events = s.events ++
    Acceptance.reports s.provider.contacts (Acceptance.unseen s.provider.seen history)
  seen : ∀ pair, pair ∈ s'.provider.seen ↔
    pair ∈ s.provider.seen ∨ ∃ a ∈ history, a.pair = pair

/-- The induction over a run: the first call is rejected, seen, a first message,
or a call on the contact store. -/
theorem exec_extends {s s' : Inbox L} {calls : List (InboxCall L)}
    (hrun : (machine serde).exec s calls = some s') : s.Extends s' (s.history serde calls) := by
  induction calls generalizing s with
  | nil =>
      cases hrun
      exact ⟨rfl, (List.append_nil _).symm, by simp [history, Machine.collect]⟩
  | cons call calls ih =>
      obtain ⟨s₁, hcall, hrest⟩ := (machine serde).exec_cons_eq_some.mp hrun
      obtain ⟨hstore, hevents, hseen⟩ := ih hrest
      have hhistory : s.history serde (call :: calls) =
          s.accepted call ++ s₁.history serde calls :=
        (machine serde).collect_cons hcall calls
      rw [hhistory]
      cases call with
      | contacts call order verdicts =>
          obtain ⟨hprovider, hsame⟩ := next_contacts serde hcall
          rw [hprovider] at hstore hevents hseen
          rw [hsame] at hevents
          exact ⟨hstore, hevents, hseen⟩
      | message message =>
          cases haccepts : s.provider.accepts s.contacts message with
          | false =>
              obtain ⟨hsame, hnone⟩ := next_message_rejected serde haccepts
              obtain rfl : s = s₁ := Option.some.inj (hsame.symm.trans hcall)
              rw [hnone]
              exact ⟨hstore, hevents, hseen⟩
          | true =>
              by_cases hmarked : (message.senderIdentity, message.id) ∈ s.provider.seen
              · obtain ⟨hsame, hone⟩ := next_message_seen serde haccepts hmarked
                obtain rfl : s = s₁ := Option.some.inj (hsame.symm.trans hcall)
                rw [hone, List.singleton_append]
                refine ⟨hstore, ?_, ?_⟩
                · rw [Acceptance.unseen_cons_of_mem hmarked]
                  exact hevents
                · intro pair
                  rw [hseen, List.exists_mem_cons_iff]
                  constructor
                  · rintro (hold | hnew)
                    · exact .inl hold
                    · exact .inr (.inr hnew)
                  · rintro (hold | rfl | hnew)
                    · exact .inl hold
                    · exact .inl hmarked
                    · exact .inr hnew
              · obtain ⟨hfirst, hone⟩ := next_message_first serde haccepts hmarked
                obtain rfl : _ = s₁ := Option.some.inj (hfirst.symm.trans hcall)
                rw [hone, List.singleton_append]
                refine ⟨hstore, ?_, ?_⟩
                · rw [hevents, Acceptance.reports, Acceptance.reports,
                    Acceptance.firsts_unseen_cons hmarked, List.filterMap_cons, List.append_assoc]
                  cases EventConversationProvider.report s.provider.contacts s.contacts message <;>
                    rfl
                · intro pair
                  rw [hseen, Finset.mem_insert, List.exists_mem_cons_iff, or_comm (a := pair = _),
                    or_assoc, eq_comm (a := pair)]
                  rfl

/-- The history of a run of a new provider decides what is reported and what is
marked, and a message is rejected exactly when it is of one-to-one kind and its
sender is the user or no contact at that moment. -/
theorem inbox_exact (store : ContactStore L) (contacts : ContactMap) (disk : Disk Path)
    (calls : List (InboxCall L)) (s : Inbox L)
    (hrun : (machine serde).exec (start store contacts disk) calls = some s) :
    s.events = Acceptance.reports store ((start store contacts disk).history serde calls) ∧
      (∀ sender id, s.provider.messageIsMarkedUsed sender id = true ↔
        ∃ a ∈ (start store contacts disk).history serde calls, a.pair = (sender, id)) ∧
      ∀ message,
        ((∃ e, s.provider.addOrUpdateIncomingMessage s.contacts message = .error e) ↔
          (∃ body, message.body = .contact body) ∧
            (message.senderIdentity = store.userIdentity ∨
              s.contacts.containsKey (L.toText message.senderIdentity) = false)) ∧
        ((∃ e, s.provider.addOrUpdateIncomingMessage s.contacts message = .error e) →
          s.next serde (.message message) = some s ∧ s.accepted (.message message) = []) := by
  obtain ⟨hstore, hevents, hseen⟩ := exec_extends serde hrun
  refine ⟨?_, ?_, ?_⟩
  · rw [hevents]
    exact congrArg (Acceptance.reports store) (List.filter_eq_self.mpr fun _ _ => rfl)
  · intro sender id
    rw [EventConversationProvider.messageIsMarkedUsed, decide_eq_true_iff, hseen]
    exact or_iff_right (Finset.notMem_empty _)
  · intro message
    have hrejected := s.provider.addOrUpdateIncomingMessage_error_iff s.contacts message
    refine ⟨?_, fun herror => next_message_rejected serde (hrejected.mp herror)⟩
    rw [hrejected, EventConversationProvider.accepts, hstore]
    cases message.body with
    | group groupIdentity body => simp
    | contact body =>
        by_cases huser : message.senderIdentity = store.userIdentity
        · simp [start, EventConversationProvider.new, huser]
        · simp [start, EventConversationProvider.new, huser]

/-! ### A message that is delivered three times -/

/-- The store of `USERUSER`. -/
def sampleStore : ContactStore (Libthreema.sample fun _ => .error "no envelope") := .sample _

/-- A text of `ECHOECHO`. -/
def hello : IncomingMessage (Libthreema.sample fun _ => .error "no envelope") where
  senderIdentity := Identities.echo
  id := 7
  createdAt := 1700000000000
  body := .contact (.text "hi")

/-- The message comes before its sender is a contact, and twice afterwards. -/
def redelivery : List (InboxCall (Libthreema.sample fun _ => .error "no envelope")) :=
  [.message hello, .contacts (.add [.sample Identities.echo]) 0 [], .message hello,
    .message hello]

/-- It is reported once. -/
theorem inbox_exact_redelivery :
    ∃ s, (machine Encodings.sample.contactMap).exec (start sampleStore ∅ fun _ => none)
        redelivery = some s ∧
      s.events = [.textMessage {
        timestampMs := 1700000000000
        outgoing := false
        conversation := .contact "ECHOECHO" (some "adalovelace")
        senderIdentity := some "ECHOECHO"
        senderName := some "adalovelace"
        text := "hi" }] := by
  refine ⟨_, rfl, ?_⟩
  exact (inbox_exact Encodings.sample.contactMap sampleStore ∅ (fun _ => none) redelivery _
    rfl).1.trans (by decide)

end Inbox

end MultideviceClient
