import Mathlib.Data.Finset.Card
import MultideviceClient.Store.Refinement

/-!
# Batches of the contact store

What one call of `add` or `update` does with a whole batch, for every state of
the store and every outcome of its system calls.

*Rejected batches.*  `add` checks its whole batch before it changes anything, and
`update` checks an element only when it has changed the ones before it.  So a
rejected batch has no effect exactly when it is a batch of `add`, or the updates
before the first bad one give every contact back (`rejected_noEffect_iff`).

*Accepted batches.*  The checks of `add` are made against the contacts before the
call, so two contacts of one batch that name the same identity both pass, and the
later one overwrites the earlier one.  An accepted batch is stored whole exactly
when its identities are pairwise distinct (`add_storesAll_iff`).
-/

namespace MultideviceClient

open Foundations

variable {L : Libthreema}

/-! ## Lookups after a batch -/

namespace ContactMap

theorem mem_keys_iff {data : ContactMap} {key : String} :
    key ∈ data.keys ↔ data.containsKey key = true := by
  rw [Finmap.mem_keys, containsKey, Finmap.lookup_isSome]

/-- The updates of a batch reach each contact in their order. -/
theorem lookup_foldl_updateContact (updates : List (ContactUpdate L)) (data : ContactMap)
    (key : String) :
    (updates.foldl updateContact data).lookup key =
      (data.lookup key).map fun stored =>
        (updates.filter fun update => L.toText update.identity = key).foldl
          StoredContact.applyUpdate stored := by
  induction updates generalizing data with
  | nil => simp
  | cons update updates ih =>
      rw [List.foldl_cons, ih]
      by_cases hkey : L.toText update.identity = key
      · rw [List.filter_cons_of_pos (by simpa using hkey)]
        subst hkey
        cases hstored : data.lookup (L.toText update.identity) with
        | none => simp [updateContact, hstored]
        | some stored => simp [updateContact, hstored]
      · rw [List.filter_cons_of_neg (by simpa using hkey)]
        cases hstored : data.lookup (L.toText update.identity) with
        | none => simp only [updateContact, hstored]
        | some stored =>
            have hne : key ≠ L.toText update.identity := fun heq => hkey heq.symm
            simp only [updateContact, hstored, Finmap.lookup_insert_of_ne _ hne]

/-- A batch of contacts leaves the other keys alone. -/
theorem lookup_foldl_insertContact_of_ne {contacts : List (Contact L)} {data : ContactMap}
    {key : String} (h : ∀ contact ∈ contacts, L.toText contact.identity ≠ key) :
    (contacts.foldl insertContact data).lookup key = data.lookup key := by
  induction contacts generalizing data with
  | nil => rfl
  | cons contact contacts ih =>
      have hne : key ≠ L.toText contact.identity := (h contact (List.mem_cons_self ..)).symm
      rw [List.foldl_cons, ih fun other hother => h other (List.mem_cons_of_mem _ hother)]
      exact Finmap.lookup_insert_of_ne _ hne

/-- Without a repeated identity, every contact of the batch is there afterwards. -/
theorem lookup_foldl_insertContact {contacts : List (Contact L)} {data : ContactMap}
    {contact : Contact L} (hnodup : (contacts.map Contact.identity).Nodup)
    (hmem : contact ∈ contacts) :
    (contacts.foldl insertContact data).lookup (L.toText contact.identity) =
      some (.fromContact contact) := by
  induction contacts generalizing data with
  | nil => cases hmem
  | cons first contacts ih =>
      rw [List.map_cons, List.nodup_cons] at hnodup
      rw [List.foldl_cons]
      rcases List.mem_cons.mp hmem with rfl | hmem
      · rw [lookup_foldl_insertContact_of_ne]
        · exact Finmap.lookup_insert _
        · intro other hother hkey
          have hsame : other.identity = contact.identity := L.toText_inj.mp hkey
          exact hnodup.1 (hsame ▸ List.mem_map_of_mem hother)
      · exact ih hnodup.2 hmem

/-- A batch of contacts adds the texts of its identities to the keys. -/
theorem keys_foldl_insertContact (contacts : List (Contact L)) (data : ContactMap) :
    (contacts.foldl insertContact data).keys =
      data.keys ∪ (contacts.map fun contact => L.toText contact.identity).toFinset := by
  ext key
  rw [Finset.mem_union, List.mem_toFinset, mem_keys_iff, mem_keys_iff, List.mem_map]
  exact ContactCall.containsKey_add contacts data key

end ContactMap

/-! ## Rejected batches -/

/-- The updates leave every contact that they name as it was. -/
def ContactMap.GivenBack (data : ContactMap) (updates : List (ContactUpdate L)) : Prop :=
  ∀ update ∈ updates, ∀ stored, data.lookup (L.toText update.identity) = some stored →
    (updates.filter fun other => other.identity = update.identity).foldl
      StoredContact.applyUpdate stored = stored

/-- The updates before the first bad element of the batch leave every contact as
it was.  An `add` changes nothing before it has checked its whole batch. -/
def ContactCall.GivesBack (user : L.ThreemaId) (data : ContactMap) : ContactCall L → Prop
  | .add _ => True
  | .update updates => data.GivenBack (updates.takeWhile (ContactUpdate.applicable user data))

/-- A list of updates gives the map back exactly when it gives every contact back
that it names. -/
theorem ContactMap.foldl_updateContact_eq_iff (updates : List (ContactUpdate L))
    (data : ContactMap) :
    updates.foldl updateContact data = data ↔ data.GivenBack updates := by
  have hfilter : ∀ identity : L.ThreemaId,
      (updates.filter fun other => L.toText other.identity = L.toText identity) =
        updates.filter fun other => other.identity = identity := by
    intro identity
    apply List.filter_congr
    intro other _
    exact decide_eq_decide.mpr Libthreema.toText_inj
  constructor
  · intro hsame update hmem stored hstored
    have hlookup := lookup_foldl_updateContact updates data (L.toText update.identity)
    rw [hsame, hstored, hfilter, Option.map_some] at hlookup
    exact (Option.some.inj hlookup).symm
  · intro hback
    apply Finmap.ext_lookup
    intro key
    rw [lookup_foldl_updateContact]
    cases hstored : data.lookup key with
    | none => rfl
    | some stored =>
        rw [Option.map_some]
        by_cases hnamed : ∃ update ∈ updates, L.toText update.identity = key
        · obtain ⟨update, hmem, rfl⟩ := hnamed
          rw [hfilter, hback update hmem stored hstored]
        · have hnone : (updates.filter fun other => L.toText other.identity = key) = [] := by
            rw [List.filter_eq_nil_iff]
            intro other hother hkey
            exact hnamed ⟨other, hother, of_decide_eq_true hkey⟩
          rw [hnone]
          rfl

/-- What is carried out of a batch changes nothing exactly when it gives every
contact back. -/
theorem ContactCall.carriedOut_apply_eq_iff (user : L.ThreemaId) (data : ContactMap)
    (c : ContactCall L) : (c.carriedOut user data).apply data = data ↔ c.GivesBack user data := by
  cases c with
  | add contacts => exact iff_of_true rfl trivial
  | update updates => exact ContactMap.foldl_updateContact_eq_iff _ data

/-! ### Updates that change nothing -/

/-- A field that is set has the stored value already. -/
def Delta.Repeats (field : Option String) : Delta String → Prop
  | .unchanged => True
  | .update value => field = some value
  | .remove => field = none

/-- Every field that the update sets has the stored value already. -/
structure StoredContact.Repeats (stored : StoredContact) (update : ContactUpdate L) : Prop where
  firstName : update.firstName.Repeats stored.firstName
  lastName : update.lastName.Repeats stored.lastName
  nickname : update.nickname.Repeats stored.nickname
  verificationLevel : ∀ value ∈ update.verificationLevel, L.toI32 value = stored.verificationLevel
  workVerificationLevel :
    ∀ value ∈ update.workVerificationLevel, L.toI32 value = stored.workVerificationLevel
  identityType : ∀ value ∈ update.identityType, L.toI32 value = stored.identityType
  acquaintanceLevel : ∀ value ∈ update.acquaintanceLevel, L.toI32 value = stored.acquaintanceLevel
  activityState : ∀ value ∈ update.activityState, L.toI32 value = stored.activityState
  featureMask : ∀ value ∈ update.featureMask, value = stored.featureMask
  syncState : ∀ value ∈ update.syncState, L.toI32 value = stored.syncState
  conversationCategory :
    ∀ value ∈ update.conversationCategory, L.toI32 value = stored.conversationCategory
  conversationVisibility :
    ∀ value ∈ update.conversationVisibility, L.toI32 value = stored.conversationVisibility

theorem Delta.repeats_iff (field : Option String) (delta : Delta String) :
    delta.Repeats field ↔ applyDeltaString field delta = field := by
  cases delta with
  | unchanged => exact iff_of_true trivial rfl
  | update value => exact eq_comm
  | remove => exact eq_comm

theorem StoredContact.applyEnum_eq_iff {field : EnumField} (raw : Int32)
    (update : Option (L.Enum field)) :
    applyEnum raw update = raw ↔ ∀ value ∈ update, L.toI32 value = raw := by
  cases update <;> simp [applyEnum]

/-- An update changes nothing exactly when it repeats what is stored. -/
theorem StoredContact.applyUpdate_eq_iff (stored : StoredContact) (update : ContactUpdate L) :
    stored.applyUpdate update = stored ↔ stored.Repeats update := by
  have hmask : update.featureMask.getD stored.featureMask = stored.featureMask ↔
      ∀ value ∈ update.featureMask, value = stored.featureMask := by
    cases update.featureMask <;> simp
  constructor
  · intro hsame
    refine ⟨(Delta.repeats_iff ..).mpr ?_, (Delta.repeats_iff ..).mpr ?_,
      (Delta.repeats_iff ..).mpr ?_, (applyEnum_eq_iff ..).mp ?_, (applyEnum_eq_iff ..).mp ?_,
      (applyEnum_eq_iff ..).mp ?_, (applyEnum_eq_iff ..).mp ?_, (applyEnum_eq_iff ..).mp ?_,
      hmask.mp ?_, (applyEnum_eq_iff ..).mp ?_, (applyEnum_eq_iff ..).mp ?_,
      (applyEnum_eq_iff ..).mp ?_⟩
    · exact congrArg StoredContact.firstName hsame
    · exact congrArg StoredContact.lastName hsame
    · exact congrArg StoredContact.nickname hsame
    · exact congrArg StoredContact.verificationLevel hsame
    · exact congrArg StoredContact.workVerificationLevel hsame
    · exact congrArg StoredContact.identityType hsame
    · exact congrArg StoredContact.acquaintanceLevel hsame
    · exact congrArg StoredContact.activityState hsame
    · exact congrArg StoredContact.featureMask hsame
    · exact congrArg StoredContact.syncState hsame
    · exact congrArg StoredContact.conversationCategory hsame
    · exact congrArg StoredContact.conversationVisibility hsame
  · intro h
    simp only [applyUpdate, (Delta.repeats_iff ..).mp h.firstName,
      (Delta.repeats_iff ..).mp h.lastName, (Delta.repeats_iff ..).mp h.nickname,
      (applyEnum_eq_iff ..).mpr h.verificationLevel,
      (applyEnum_eq_iff ..).mpr h.workVerificationLevel, (applyEnum_eq_iff ..).mpr h.identityType,
      (applyEnum_eq_iff ..).mpr h.acquaintanceLevel, (applyEnum_eq_iff ..).mpr h.activityState,
      hmask.mpr h.featureMask, (applyEnum_eq_iff ..).mpr h.syncState,
      (applyEnum_eq_iff ..).mpr h.conversationCategory,
      (applyEnum_eq_iff ..).mpr h.conversationVisibility]

/-- Updates that repeat what is stored give every contact back. -/
theorem ContactMap.givenBack_of_repeats {data : ContactMap} {updates : List (ContactUpdate L)}
    (h : ∀ update ∈ updates, ∀ stored, data.lookup (L.toText update.identity) = some stored →
      stored.Repeats update) : data.GivenBack updates := by
  intro update hmem stored hstored
  have hkeeps : ∀ named : List (ContactUpdate L), (∀ other ∈ named, stored.Repeats other) →
      named.foldl StoredContact.applyUpdate stored = stored := by
    intro named hnamed
    induction named with
    | nil => rfl
    | cons other named ih =>
        obtain ⟨hother, hnamed⟩ := List.forall_mem_cons.mp hnamed
        rw [List.foldl_cons, (StoredContact.applyUpdate_eq_iff stored other).mpr hother]
        exact ih hnamed
  apply hkeeps
  intro other hother
  obtain ⟨hmem', hsame⟩ := List.mem_filter.mp hother
  rw [← of_decide_eq_true hsame] at hstored
  exact h other hmem' stored hstored

namespace ContactCall

/-- A batch whose first element is bad gives every contact back. -/
theorem givesBack_of_first {user : L.ThreemaId} {data : ContactMap} {update : ContactUpdate L}
    (hbad : update.applicable user data = false) (updates : List (ContactUpdate L)) :
    GivesBack user data (.update (update :: updates)) := by
  rw [GivesBack, List.takeWhile_cons_of_neg (by rw [hbad]; exact Bool.false_ne_true)]
  exact List.forall_mem_nil _

/-- So does a batch whose elements before the first bad one repeat what is stored. -/
theorem givesBack_of_repeats {user : L.ThreemaId} {data : ContactMap}
    {updates : List (ContactUpdate L)}
    (h : ∀ update ∈ updates.takeWhile (ContactUpdate.applicable user data), ∀ stored,
      data.lookup (L.toText update.identity) = some stored → stored.Repeats update) :
    GivesBack user data (.update updates) :=
  ContactMap.givenBack_of_repeats h

end ContactCall

namespace ContactStore

variable (serde : Serde ContactMap) (self : ContactStore L) (order : Nat)

/-- The error of a valid call is that of a failed write. -/
theorem call_valid_error {c : ContactCall L} {data : ContactMap} {disk : Disk Path}
    {verdicts : List Verdict} {e : ProviderError} {w : World ContactMap Path}
    (hvalid : c.valid self.userIdentity data = true)
    (hrun : (self.call serde order c).run ⟨data, disk, verdicts⟩ = (.error e, w)) :
    e.isRejection = false := by
  rw [self.call_valid serde order c data disk verdicts hvalid, Action.run_mapError] at hrun
  split at hrun
  next => cases hrun
  next => cases hrun; rfl
  next => cases hrun

/-- If the call is an error because of an element of its batch, then the shared
memory and the files are as they were. -/
def RejectedWithoutEffect (c : ContactCall L) (data : ContactMap) (disk : Disk Path)
    (verdicts : List Verdict) : Prop :=
  ∀ e w, (self.call serde order c).run ⟨data, disk, verdicts⟩ = (.error e, w) →
    e.isRejection = true → w.memory = data ∧ w.disk = disk

/-- A rejected batch has no effect exactly when the updates before its first bad
element give every contact back. -/
theorem rejected_noEffect_iff (c : ContactCall L) (data : ContactMap) (disk : Disk Path)
    (verdicts : List Verdict) :
    self.RejectedWithoutEffect serde order c data disk verdicts ↔
      (c.valid self.userIdentity data = false → c.GivesBack self.userIdentity data) := by
  rw [← c.carriedOut_apply_eq_iff]
  cases hvalid : c.valid self.userIdentity data with
  | true =>
      constructor
      · intro _ hinvalid
        cases hinvalid
      · intro _ e w hrun hrejection
        rw [self.call_valid_error serde order hvalid hrun] at hrejection
        cases hrejection
  | false =>
      obtain ⟨e, hrejection, hrun⟩ := self.call_rejected serde order c data verdicts hvalid
      constructor
      · intro hnone _
        exact (hnone e _ (hrun disk) hrejection).1
      · intro hsame e' w hrun' _
        rw [hrun disk] at hrun'
        cases hrun'
        exact ⟨hsame rfl, rfl⟩

end ContactStore

/-! ### A batch with an unknown contact -/

namespace Rename

/-- The store of `USERUSER`. -/
def store : ContactStore (Libthreema.sample fun _ => .error "no envelope") := .sample _

/-- The store knows `ECHOECHO` only. -/
def known : ContactMap := ContactMap.insertContact ∅
  (Contact.sample Identities.echo : Contact (Libthreema.sample fun _ => .error "no envelope"))

/-- A new nickname. -/
def rename (identity : Identities.sample.ThreemaId) :
    ContactUpdate (Libthreema.sample fun _ => .error "no envelope") where
  identity := identity
  firstName := .unchanged
  lastName := .unchanged
  nickname := .update "newnick"
  verificationLevel := none
  workVerificationLevel := none
  identityType := none
  acquaintanceLevel := none
  activityState := none
  featureMask := none
  syncState := none
  workLastFullSyncAt := none
  workAvailabilityStatus := none
  readReceiptPolicyOverride := .unchanged
  typingIndicatorPolicyOverride := .unchanged
  notificationTriggerPolicyOverride := .unchanged
  conversationCategory := none
  conversationVisibility := none

/-- `ECHOECHO` is renamed, and then an unknown contact. -/
def batch : ContactCall (Libthreema.sample fun _ => .error "no envelope") :=
  .update [rename Identities.echo, rename ⟨"BBBBBBBB", by decide⟩]

end Rename

open Rename in
/-- The batch is rejected for its second element, and the nickname of the first
one has changed in the memory. -/
theorem ContactStore.rejected_halfApplied :
    ((store.call Encodings.sample.contactMap 0 batch).run ⟨known, fun _ => none, []⟩).1 =
        .error (.invalidState "Contact to be updated does not exist") ∧
      (known.lookup "ECHOECHO").bind StoredContact.nickname = some "adalovelace" ∧
      ¬ store.RejectedWithoutEffect Encodings.sample.contactMap 0 batch known (fun _ => none)
        [] := by
  refine ⟨rfl, rfl, ?_⟩
  intro hnone
  obtain ⟨hmemory, -⟩ := hnone _ _ rfl rfl
  have hnickname := congrArg (fun data : ContactMap =>
    (data.lookup "ECHOECHO").bind StoredContact.nickname) hmemory
  exact absurd hnickname (by decide)

/-! ## Accepted batches -/

/-- A contact without the fields that are not persisted. -/
def Contact.persisted (contact : Contact L) : Contact L :=
  { contact with
    workLastFullSyncAt := none
    workAvailabilityStatus := none
    readReceiptPolicyOverride := none
    typingIndicatorPolicyOverride := none
    notificationTriggerPolicyOverride := none }

/-- Reading a stored contact gives it back up to the fields that are not
persisted. -/
theorem StoredContact.toContact_fromContact_persisted (contact : Contact L) :
    (StoredContact.fromContact contact).toContact contact.identity = .ok contact.persisted := by
  have hplain : contact.persisted.Plain := ⟨rfl, rfl, rfl, rfl, rfl⟩
  exact toContact_fromContact hplain

namespace ContactStore

/-- An `add` stores its batch whole: its identities are new and pairwise distinct,
every contact of it counts, and `get` gives it back. -/
structure StoresAll (store : ContactStore L) (contacts : List (Contact L))
    (data data' : ContactMap) : Prop where
  distinct : (contacts.map Contact.identity).Nodup
  fresh : ∀ contact ∈ contacts, data.containsKey (L.toText contact.identity) = false
  count : data'.keys.card = data.keys.card + contacts.length
  get : ∀ contact ∈ contacts, store.get data' contact.identity = .ok (some contact.persisted)

variable (serde : Serde ContactMap) (self : ContactStore L) (order : Nat)

/-- An `add` that succeeds has checked its whole batch and inserted it. -/
theorem add_ok {contacts : List (Contact L)} {data : ContactMap} {disk : Disk Path}
    {verdicts : List Verdict} {w : World ContactMap Path}
    (hok : (self.add serde order contacts).run ⟨data, disk, verdicts⟩ = (.ok (), w)) :
    (∀ contact ∈ contacts, contact.addable self.userIdentity data = true) ∧
      w.memory = contacts.foldl ContactMap.insertContact data := by
  have hcall : (self.call serde order (.add contacts)).run ⟨data, disk, verdicts⟩ = (.ok (), w) :=
    hok
  cases hvalid : (ContactCall.add contacts).valid self.userIdentity data with
  | true =>
      obtain ⟨fate, outcome, rest, hrun, -⟩ :=
        self.call_fate serde order (.add contacts) data verdicts hvalid
      rw [hrun disk] at hcall
      cases hcall
      exact ⟨List.all_eq_true.mp hvalid, rfl⟩
  | false =>
      obtain ⟨e, -, hrun⟩ := self.call_rejected serde order (.add contacts) data verdicts hvalid
      rw [hrun disk] at hcall
      cases hcall

/-- The number of contacts grows by the number of distinct identities. -/
theorem card_foldl_insertContact {contacts : List (Contact L)} {data : ContactMap}
    (hfresh : ∀ contact ∈ contacts, data.containsKey (L.toText contact.identity) = false) :
    (contacts.foldl ContactMap.insertContact data).keys.card =
      data.keys.card + (contacts.map Contact.identity).toFinset.card := by
  have htexts : (contacts.map fun contact => L.toText contact.identity).toFinset =
      (contacts.map Contact.identity).toFinset.image L.toText := by
    ext key
    simp
  rw [ContactMap.keys_foldl_insertContact, Finset.card_union_of_disjoint, htexts,
    Finset.card_image_of_injective _ fun _ _ => Libthreema.toText_inj.mp]
  rw [Finset.disjoint_right]
  intro key hkey hold
  rw [List.mem_toFinset, List.mem_map] at hkey
  obtain ⟨contact, hmem, rfl⟩ := hkey
  rw [ContactMap.mem_keys_iff, hfresh contact hmem] at hold
  cases hold

/-- An accepted batch is stored whole exactly when its identities are pairwise
distinct.  The number of contacts grows by the number of distinct identities in
any case. -/
theorem add_storesAll_iff (contacts : List (Contact L)) (data : ContactMap) (disk : Disk Path)
    (verdicts : List Verdict) (w : World ContactMap Path)
    (hok : (self.add serde order contacts).run ⟨data, disk, verdicts⟩ = (.ok (), w)) :
    (self.StoresAll contacts data w.memory ↔ (contacts.map Contact.identity).Nodup) ∧
      w.memory.keys.card = data.keys.card + (contacts.map Contact.identity).toFinset.card := by
  obtain ⟨haddable, hmemory⟩ := self.add_ok serde order hok
  have hfresh : ∀ contact ∈ contacts, data.containsKey (L.toText contact.identity) = false := by
    intro contact hmem
    have hcontact := haddable contact hmem
    simp only [Contact.addable, Bool.and_eq_true, Bool.not_eq_true'] at hcontact
    exact hcontact.2
  have hcount := card_foldl_insertContact hfresh
  rw [← hmemory] at hcount
  refine ⟨⟨StoresAll.distinct, fun hnodup => ⟨hnodup, hfresh, ?_, ?_⟩⟩, hcount⟩
  · rw [hcount, List.toFinset_card_of_nodup hnodup, List.length_map]
  · intro contact hmem
    have huser : contact.identity ≠ self.userIdentity := by
      have hcontact := haddable contact hmem
      simp only [Contact.addable, Bool.and_eq_true, decide_eq_true_eq] at hcontact
      exact hcontact.1
    rw [get, self.ensureNotUser_of_ne huser, hmemory,
      ContactMap.lookup_foldl_insertContact hnodup hmem]
    simp only [bind, Except.bind, StoredContact.toContact_fromContact_persisted]
    rfl

end ContactStore

/-! ### A batch with one identity twice -/

namespace Twice

/-- `ECHOECHO` as a contact of the batch. -/
def first : Contact (Libthreema.sample fun _ => .error "no envelope") := .sample Identities.echo

/-- Another contact of the batch. -/
def other : Contact (Libthreema.sample fun _ => .error "no envelope") :=
  .sample ⟨"LOVELACE", by decide⟩

/-- `ECHOECHO` again, with another nickname. -/
def second : Contact (Libthreema.sample fun _ => .error "no envelope") :=
  { first with nickname := some "newnick" }

end Twice

open Twice in
/-- A batch of two contacts is stored whole. -/
theorem ContactStore.add_storesAll_two :
    Rename.store.StoresAll [first, other] ∅
      (ContactMap.insertContact (ContactMap.insertContact ∅ first) other) :=
  (Rename.store.add_storesAll_iff Encodings.sample.contactMap 0 [first, other] ∅ (fun _ => none) []
    _ rfl).1.mpr (by decide)

open Twice in
/-- `ECHOECHO` is added twice in one batch: the call succeeds, and the first
contact is lost. -/
theorem ContactStore.add_losesFirst :
    ∃ w, (Rename.store.add Encodings.sample.contactMap 0 [first, second]).run
        ⟨∅, fun _ => none, []⟩ = (.ok (), w) ∧
      (w.memory.lookup "ECHOECHO").bind StoredContact.nickname = some "newnick" ∧
      ¬ Rename.store.StoresAll [first, second] ∅ w.memory := by
  refine ⟨_, rfl, rfl, ?_⟩
  intro hstores
  have hfirst := hstores.get first (List.mem_cons_self ..)
  have hnickname := congrArg (fun result : Except ProviderError (Option (Contact _)) =>
    result.toOption.join.bind Contact.nickname) hfirst
  exact absurd hnickname (by decide)

end MultideviceClient
