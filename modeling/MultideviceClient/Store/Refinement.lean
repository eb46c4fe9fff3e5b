import MultideviceClient.Foundations.Machine
import MultideviceClient.Store.Encodings

/-!
# The contact store as a map

What the contact store is for: a map from identities to contacts.
`ContactBook` is that map, with the operations as one would write them on
contacts.  The store keeps other data, `StoredContact` under the text of an
identity, and keeps them in a file.

`contactStore_refines` says that the store and the book accept the same calls
and give the same answers, over any run of calls and reloads without failures.
It is about contacts and updates that leave the fields alone that the store
does not persist (`Plain`).
-/

namespace MultideviceClient

open Foundations

variable {L : Libthreema}

/-! ## The book -/

/-- An optional field after an update. -/
def Delta.apply {α : Type} (field : Option α) : Delta α → Option α
  | .unchanged => field
  | .update value => some value
  | .remove => none

/-- A contact after an update: the fields that the update sets are replaced. -/
def Contact.applyUpdate (contact : Contact L) (update : ContactUpdate L) : Contact L where
  identity := contact.identity
  publicKey := contact.publicKey
  createdAt := contact.createdAt
  firstName := update.firstName.apply contact.firstName
  lastName := update.lastName.apply contact.lastName
  nickname := update.nickname.apply contact.nickname
  verificationLevel := update.verificationLevel.getD contact.verificationLevel
  workVerificationLevel := update.workVerificationLevel.getD contact.workVerificationLevel
  identityType := update.identityType.getD contact.identityType
  acquaintanceLevel := update.acquaintanceLevel.getD contact.acquaintanceLevel
  activityState := update.activityState.getD contact.activityState
  featureMask := update.featureMask.getD contact.featureMask
  syncState := update.syncState.getD contact.syncState
  workLastFullSyncAt := update.workLastFullSyncAt.or contact.workLastFullSyncAt
  workAvailabilityStatus := update.workAvailabilityStatus.or contact.workAvailabilityStatus
  readReceiptPolicyOverride :=
    update.readReceiptPolicyOverride.apply contact.readReceiptPolicyOverride
  typingIndicatorPolicyOverride :=
    update.typingIndicatorPolicyOverride.apply contact.typingIndicatorPolicyOverride
  notificationTriggerPolicyOverride :=
    update.notificationTriggerPolicyOverride.apply contact.notificationTriggerPolicyOverride
  conversationCategory := update.conversationCategory.getD contact.conversationCategory
  conversationVisibility := update.conversationVisibility.getD contact.conversationVisibility

/-- The fields that are not persisted are unset. -/
structure Contact.Plain (contact : Contact L) : Prop where
  workLastFullSyncAt : contact.workLastFullSyncAt = none
  workAvailabilityStatus : contact.workAvailabilityStatus = none
  readReceiptPolicyOverride : contact.readReceiptPolicyOverride = none
  typingIndicatorPolicyOverride : contact.typingIndicatorPolicyOverride = none
  notificationTriggerPolicyOverride : contact.notificationTriggerPolicyOverride = none

/-- The update leaves the fields alone that are not persisted. -/
structure ContactUpdate.Plain (update : ContactUpdate L) : Prop where
  workLastFullSyncAt : update.workLastFullSyncAt = none
  workAvailabilityStatus : update.workAvailabilityStatus = none
  readReceiptPolicyOverride : update.readReceiptPolicyOverride = .unchanged
  typingIndicatorPolicyOverride : update.typingIndicatorPolicyOverride = .unchanged
  notificationTriggerPolicyOverride : update.notificationTriggerPolicyOverride = .unchanged

/-- A map from identities to contacts. -/
abbrev ContactBook (L : Libthreema) := L.ThreemaId → Option (Contact L)

/-- A step of a run: a call with a plain batch, saved in some iteration order,
or a reload. -/
inductive BookOp (L : Libthreema) where
  | add (order : Nat) (contacts : List (Contact L)) (plain : ∀ contact ∈ contacts, contact.Plain)
  | update (order : Nat) (updates : List (ContactUpdate L))
      (plain : ∀ update ∈ updates, update.Plain)
  | reload

namespace ContactBook

/-- Insert a contact. -/
def insert (book : ContactBook L) (contact : Contact L) : ContactBook L :=
  Function.update book contact.identity (some contact)

/-- Update a contact. -/
def modify (book : ContactBook L) (update : ContactUpdate L) : ContactBook L :=
  Function.update book update.identity
    ((book update.identity).map fun contact => contact.applyUpdate update)

/-- A call is rejected for the user's own identity, an `add` for an identity that
is there, and an `update` for one that is not. -/
def rejects (book : ContactBook L) (user : L.ThreemaId) : ContactCall L → Bool
  | .add contacts => contacts.any fun contact =>
      decide (contact.identity = user) || (book contact.identity).isSome
  | .update updates => updates.any fun update =>
      decide (update.identity = user) || (book update.identity).isNone

/-- The change of a call, in the order of its batch. -/
def apply (book : ContactBook L) : ContactCall L → ContactBook L
  | .add contacts => contacts.foldl insert book
  | .update updates => updates.foldl modify book

/-- Accepted calls, and reloads, which change nothing. -/
def machine (user : L.ThreemaId) : Machine (ContactBook L) (BookOp L) where
  next book
    | .add _ contacts _ =>
        if book.rejects user (.add contacts) then none else some (book.apply (.add contacts))
    | .update _ updates _ =>
        if book.rejects user (.update updates) then none
        else some (book.apply (.update updates))
    | .reload => some book

end ContactBook

/-! ## The store -/

/-- The file system, and the memory that the clones share. -/
structure OpenStore where
  disk : Disk Path
  memory : ContactMap

namespace OpenStore

variable (serde : Serde ContactMap) (store : ContactStore L)

/-- An accepted call without failures. -/
def call (s : OpenStore) (order : Nat) (c : ContactCall L) : Option OpenStore :=
  match (store.call serde order c).run ⟨s.memory, s.disk, []⟩ with
  | (.ok (), w) => some { disk := w.disk, memory := w.memory }
  | _ => none

/-- A load of the file into a new store. -/
def reload (s : OpenStore) : Option OpenStore :=
  match (ContactStore.load serde store.path store.userIdentity).run ⟨∅, s.disk, []⟩ with
  | (.ok _, w) => some { disk := w.disk, memory := w.memory }
  | _ => none

/-- Accepted calls and reloads without failures. -/
def machine : Machine OpenStore (BookOp L) where
  next s
    | .add order contacts _ => s.call serde store order (.add contacts)
    | .update order updates _ => s.call serde store order (.update updates)
    | .reload => s.reload serde store

/-- A store without a file. -/
def empty : OpenStore where
  disk := fun _ => none
  memory := ∅

/-- The store gives the answers of the book. -/
structure Answers (s : OpenStore) (book : ContactBook L) : Prop where
  has : ∀ identity, identity ≠ store.userIdentity →
    store.has s.memory identity = .ok (book identity).isSome
  hasMany : ∀ identities, (∀ identity ∈ identities, identity ≠ store.userIdentity) →
    store.hasMany s.memory identities =
      .ok (identities.countP fun identity => (book identity).isSome)
  get : ∀ identity, identity ≠ store.userIdentity →
    store.get s.memory identity = .ok (book identity)
  rejects : ∀ c order, (∃ e, ((store.call serde order c).run ⟨s.memory, s.disk, []⟩).1 = .error e) ↔
    book.rejects store.userIdentity c = true

end OpenStore

/-! ## The refinement -/

/-- Reading a stored contact gives the contact back. -/
theorem StoredContact.toContact_fromContact {contact : Contact L} (h : contact.Plain) :
    (StoredContact.fromContact contact).toContact contact.identity = .ok contact := by
  obtain ⟨h₁, h₂, h₃, h₄, h₅⟩ := h
  have henum : ∀ (field : EnumField) (value : L.Enum field),
      StoredContact.enumOrDefault field (L.toI32 value) = value := by
    intro field value
    rw [enumOrDefault, L.tryFrom_toI32]
    rfl
  cases contact
  simp only at h₁ h₂ h₃ h₄ h₅
  subst h₁ h₂ h₃ h₄ h₅
  simp only [toContact, fromContact, L.fromHex_keyToText, bind, Except.bind, henum, pure,
    Except.pure]

/-- The fields of a stored contact follow the fields of the contact. -/
theorem StoredContact.fromContact_applyUpdate (contact : Contact L) (update : ContactUpdate L) :
    (StoredContact.fromContact contact).applyUpdate update =
      .fromContact (contact.applyUpdate update) := by
  have hdelta : ∀ (field : Option String) (delta : Delta String),
      applyDeltaString field delta = delta.apply field := by
    intro field delta
    cases delta <;> rfl
  have henum : ∀ (field : EnumField) (value : L.Enum field) (update : Option (L.Enum field)),
      applyEnum (L.toI32 value) update = L.toI32 (update.getD value) := by
    intro field value update
    cases update <;> rfl
  simp only [applyUpdate, fromContact, Contact.applyUpdate, hdelta, henum]

theorem Contact.Plain.applyUpdate {contact : Contact L} {update : ContactUpdate L}
    (h : contact.Plain) (hupdate : update.Plain) : (contact.applyUpdate update).Plain := by
  constructor <;>
    simp [Contact.applyUpdate, h.workLastFullSyncAt, hupdate.workLastFullSyncAt,
      h.workAvailabilityStatus, hupdate.workAvailabilityStatus, h.readReceiptPolicyOverride,
      hupdate.readReceiptPolicyOverride, h.typingIndicatorPolicyOverride,
      hupdate.typingIndicatorPolicyOverride, h.notificationTriggerPolicyOverride,
      hupdate.notificationTriggerPolicyOverride, Delta.apply]

/-- The map holds the contacts of the book, under the texts of their identities. -/
structure Represents (data : ContactMap) (book : ContactBook L) : Prop where
  lookup : ∀ identity, data.lookup (L.toText identity) =
    (book identity).map StoredContact.fromContact
  contact : ∀ identity contact, book identity = some contact →
    contact.identity = identity ∧ contact.Plain

namespace Represents

variable {data : ContactMap} {book : ContactBook L}

theorem containsKey (h : Represents data book) (identity : L.ThreemaId) :
    data.containsKey (L.toText identity) = (book identity).isSome := by
  rw [ContactMap.containsKey, h.lookup, Option.isSome_map]

theorem insert (h : Represents data book) {contact : Contact L} (hplain : contact.Plain) :
    Represents (data.insertContact contact) (book.insert contact) := by
  constructor
  · intro identity
    by_cases hid : identity = contact.identity
    · subst hid
      simp [ContactMap.insertContact, ContactBook.insert]
    · have hkey : L.toText identity ≠ L.toText contact.identity := fun h => hid (L.toText_inj.mp h)
      simp [ContactMap.insertContact, ContactBook.insert, Finmap.lookup_insert_of_ne _ hkey, hid,
        h.lookup]
  · intro identity found hfound
    by_cases hid : identity = contact.identity
    · subst hid
      rw [ContactBook.insert, Function.update_self] at hfound
      cases hfound
      exact ⟨rfl, hplain⟩
    · rw [ContactBook.insert, Function.update_of_ne hid] at hfound
      exact h.contact identity found hfound

theorem modify (h : Represents data book) {update : ContactUpdate L} (hplain : update.Plain) :
    Represents (data.updateContact update) (book.modify update) := by
  constructor
  · intro identity
    cases hbook : book update.identity with
    | none =>
        have hnone : data.lookup (L.toText update.identity) = none := by rw [h.lookup, hbook]; rfl
        have hsame : book.modify update = book := by
          rw [ContactBook.modify, hbook]
          exact (congrArg (Function.update book _) hbook.symm).trans (Function.update_eq_self _ _)
        simp only [ContactMap.updateContact, hnone, hsame, h.lookup]
    | some contact =>
        have hsome : data.lookup (L.toText update.identity) = some (.fromContact contact) := by
          rw [h.lookup, hbook]
          rfl
        simp only [ContactMap.updateContact, hsome]
        by_cases hid : identity = update.identity
        · subst hid
          simp [ContactBook.modify, hbook, StoredContact.fromContact_applyUpdate]
        · have hkey : L.toText identity ≠ L.toText update.identity :=
            fun h => hid (L.toText_inj.mp h)
          simp [ContactBook.modify, Finmap.lookup_insert_of_ne _ hkey, hid, h.lookup]
  · intro identity found hfound
    by_cases hid : identity = update.identity
    · subst hid
      rw [ContactBook.modify, Function.update_self, Option.map_eq_some_iff] at hfound
      obtain ⟨contact, hcontact, rfl⟩ := hfound
      obtain ⟨hidentity, hc⟩ := h.contact _ contact hcontact
      exact ⟨hidentity, hc.applyUpdate hplain⟩
    · rw [ContactBook.modify, Function.update_of_ne hid] at hfound
      exact h.contact identity found hfound

/-- The store checks what the book checks. -/
theorem valid_iff (h : Represents data book) (user : L.ThreemaId) (c : ContactCall L) :
    c.valid user data = !book.rejects user c := by
  cases c with
  | add contacts =>
      simp only [ContactCall.valid, ContactBook.rejects, List.not_any_eq_all_not]
      congr 1
      funext contact
      simp [Contact.addable, h.containsKey]
  | update updates =>
      simp only [ContactCall.valid, ContactBook.rejects, List.not_any_eq_all_not]
      congr 1
      funext update
      simp [ContactUpdate.applicable, h.containsKey]

theorem foldl_insert {contacts : List (Contact L)} (hplain : ∀ contact ∈ contacts, contact.Plain)
    (h : Represents data book) :
    Represents ((ContactCall.add contacts).apply data) (book.apply (.add contacts)) := by
  induction contacts generalizing data book with
  | nil => exact h
  | cons contact contacts ih =>
      exact ih (fun c hc => hplain c (List.mem_cons_of_mem _ hc))
        (h.insert (hplain contact (List.mem_cons_self ..)))

theorem foldl_modify {updates : List (ContactUpdate L)} (hplain : ∀ update ∈ updates, update.Plain)
    (h : Represents data book) :
    Represents ((ContactCall.update updates).apply data) (book.apply (.update updates)) := by
  induction updates generalizing data book with
  | nil => exact h
  | cons update updates ih =>
      exact ih (fun u hu => hplain u (List.mem_cons_of_mem _ hu))
        (h.modify (hplain update (List.mem_cons_self ..)))

end Represents

namespace OpenStore

/-- The memory represents the book, and the file is the memory. -/
structure Refines (serde : Serde ContactMap) (store : ContactStore L) (s : OpenStore)
    (book : ContactBook L) : Prop where
  represents : Represents s.memory book
  file : parseFile serde ∅ store.path (s.disk store.path) = .ok s.memory

variable {serde : Serde ContactMap} {store : ContactStore L} {s : OpenStore} {book : ContactBook L}

/-- An accepted call makes its change and writes it. -/
theorem call_accepted (h : s.Refines serde store book) (order : Nat) {c : ContactCall L}
    (haccepts : book.rejects store.userIdentity c = false) :
    ∃ s', s.call serde store order c = some s' ∧ s'.memory = c.apply s.memory ∧
      parseFile serde ∅ store.path (s'.disk store.path) = .ok s'.memory := by
  have hvalid : c.valid store.userIdentity s.memory = true := by
    rw [h.represents.valid_iff, haccepts]
    rfl
  obtain ⟨fate, outcome, rest, hrun, hallows, hfate, hends⟩ :=
    store.call_fate serde order c s.memory [] hvalid
  obtain rfl : fate = .replaced := hfate.mpr rfl
  cases outcome with
  | ok _ =>
      refine ⟨⟨_, _⟩, by rw [call, hrun]; rfl, rfl, ?_⟩
      simp only [Fate.apply_path]
      exact parseFile_toWriterPretty serde ∅ store.path order _
  | error e => exact absurd rfl hallows
  | killed => exact absurd rfl (hends rfl)

/-- A rejected call is an error. -/
theorem call_rejected (h : s.Refines serde store book) (order : Nat) {c : ContactCall L}
    (hrejects : book.rejects store.userIdentity c = true) :
    ∃ e, ((store.call serde order c).run ⟨s.memory, s.disk, []⟩).1 = .error e := by
  have hvalid : c.valid store.userIdentity s.memory = false := by
    rw [h.represents.valid_iff, hrejects]
    rfl
  obtain ⟨e, -, hrun⟩ := store.call_rejected serde order c s.memory [] hvalid
  exact ⟨e, congrArg Prod.fst (hrun s.disk)⟩

/-- A reload changes nothing. -/
theorem reload_eq (h : s.Refines serde store book) : s.reload serde store = some s := by
  obtain ⟨loaded, rest, hload, -, hparse⟩ := loadStore_spec serde ∅ store.path
    (ContactStore.mk store.path store.userIdentity) (s.disk store.path) []
  obtain rfl : loaded = some s.memory := (hparse rfl _).mpr h.file
  obtain ⟨hok, hw⟩ := hload ⟨∅, s.disk, []⟩ rfl rfl
  unfold reload ContactStore.load
  generalize (loadStore serde ∅ store.path (ContactStore.mk store.path store.userIdentity)).run
    ⟨∅, s.disk, []⟩ = result at hok hw ⊢
  obtain ⟨outcome, w⟩ := result
  obtain rfl : w = _ := hw
  cases outcome with
  | ok _ => rfl
  | error e => cases hok
  | killed => cases hok

/-- `has_many` counts. -/
theorem foldlM_has (h : Represents s.memory book) (identities : List L.ThreemaId)
    (hids : ∀ identity ∈ identities, identity ≠ store.userIdentity) (count : Nat) :
    identities.foldlM (fun count identity => (do
      store.ensureNotUser identity
      return if s.memory.containsKey (L.toText identity) then count + 1 else count :
        Except ProviderError Nat)) count =
      .ok (count + identities.countP fun identity => (book identity).isSome) := by
  induction identities generalizing count with
  | nil => rfl
  | cons identity identities ih =>
      have hrest := ih fun other hother => hids other (List.mem_cons_of_mem _ hother)
      rw [List.foldlM_cons, store.ensureNotUser_of_ne (hids identity (List.mem_cons_self ..)),
        h.containsKey]
      cases hbook : (book identity).isSome with
      | true =>
          rw [List.countP_cons_of_pos (by simpa using hbook)]
          refine (hrest (count + 1)).trans ?_
          rw [Nat.add_assoc, Nat.add_comm 1]
      | false =>
          rw [List.countP_cons_of_neg (by simpa using hbook)]
          exact hrest count

/-- A store that refines the book gives its answers. -/
theorem Refines.answers (h : s.Refines serde store book) : s.Answers serde store book := by
  constructor
  · intro identity hid
    rw [ContactStore.has, store.ensureNotUser_of_ne hid, h.represents.containsKey]
    rfl
  · intro identities hids
    rw [ContactStore.hasMany, foldlM_has h.represents identities hids, Nat.zero_add]
  · intro identity hid
    rw [ContactStore.get, store.ensureNotUser_of_ne hid, h.represents.lookup]
    cases hbook : book identity with
    | none => rfl
    | some contact =>
        obtain ⟨hidentity, hplain⟩ := h.represents.contact identity contact hbook
        have hcontact := StoredContact.toContact_fromContact hplain
        rw [hidentity] at hcontact
        simp only [Option.map_some, bind, Except.bind, hcontact]
        rfl
  · intro c order
    refine ⟨fun ⟨e, he⟩ => ?_, call_rejected h order⟩
    by_contra haccepts
    obtain ⟨s', hcall, -⟩ := call_accepted h order (Bool.eq_false_iff.mpr haccepts)
    unfold call at hcall
    generalize (store.call serde order c).run ⟨s.memory, s.disk, []⟩ = result at he hcall
    obtain ⟨outcome, w⟩ := result
    obtain rfl : outcome = .error e := he
    cases hcall

/-- One call of the store simulates one call of the book. -/
theorem Refines.call (h : s.Refines serde store book) (order : Nat) (c : ContactCall L)
    (happly : Represents (c.apply s.memory) (book.apply c)) :
    Option.Rel (Refines serde store) (s.call serde store order c)
      (if book.rejects store.userIdentity c then none else some (book.apply c)) := by
  cases hrejects : book.rejects store.userIdentity c with
  | true =>
      obtain ⟨e, he⟩ := call_rejected h order hrejects
      have hnone : s.call serde store order c = none := by
        unfold OpenStore.call
        generalize (store.call serde order c).run ⟨s.memory, s.disk, []⟩ = result at he
        obtain ⟨outcome, w⟩ := result
        obtain rfl : outcome = .error e := he
        rfl
      rw [hnone]
      exact .none
  | false =>
      obtain ⟨s', hcall, hmemory, hfile⟩ := call_accepted h order hrejects
      rw [hcall]
      exact .some ⟨hmemory ▸ happly, hfile⟩

/-- One step of the store simulates one step of the book. -/
theorem Refines.next (h : s.Refines serde store book) (op : BookOp L) :
    Option.Rel (Refines serde store) ((machine serde store).next s op)
      ((ContactBook.machine store.userIdentity).next book op) := by
  cases op with
  | add order contacts plain => exact h.call order _ (h.represents.foldl_insert plain)
  | update order updates plain => exact h.call order _ (h.represents.foldl_modify plain)
  | reload =>
      show Option.Rel _ (s.reload serde store) (some book)
      rw [reload_eq h]
      exact .some h

end OpenStore

/-- Over any run, the store and the book accept the same calls, and the store
gives the answers of the book. -/
theorem contactStore_refines (serde : Serde ContactMap) (store : ContactStore L)
    (ops : List (BookOp L)) :
    Option.Rel (OpenStore.Answers serde store)
      ((OpenStore.machine serde store).exec .empty ops)
      ((ContactBook.machine store.userIdentity).exec (fun _ => none) ops) := by
  have hempty : OpenStore.empty.Refines serde store fun _ => none :=
    ⟨⟨fun _ => rfl, fun _ _ h => nomatch h⟩, rfl⟩
  have hrun := Machine.exec_rel _ (fun _ _ op h => OpenStore.Refines.next h op) hempty ops
  generalize (OpenStore.machine serde store).exec .empty ops = s at hrun
  generalize (ContactBook.machine store.userIdentity).exec (fun _ => none) ops = book at hrun
  cases hrun with
  | none => exact .none
  | some h => exact .some h.answers

end MultideviceClient
