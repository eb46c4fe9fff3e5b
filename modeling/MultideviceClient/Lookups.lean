import MultideviceClient.ContactNames
import MultideviceClient.Store.FreshStart

/-!
# Lookups of contacts

libthreema asks the contact store seven questions about identities.  Two of them have
a fixed answer, and the store knows no profile pictures.  `get` fails when a stored
public key cannot be read back, and `contact_name` takes such a failure for a contact
without a name.

*Runs.*  What holds of no contacts, and what calls keep, also holds after failed
writes, kills and restarts, if it held of the file at the start (`Throughout`).

*Agreement.*  So when all keys in the file can be read at the start, no `get` ever
fails but for the user, and all lookups tell the same identities apart
(`lookups_agree`).
-/

namespace MultideviceClient

open Foundations

variable {L : Libthreema}

/-! ## The other lookups -/

namespace ContactStore

section

variable (self : ContactStore L) (Picture : Type) (data : ContactMap) (identity : L.ThreemaId)

/-- `is_explicitly_blocked`. -/
def isExplicitlyBlocked : Except ProviderError Bool := do
  self.ensureNotUser identity
  return false

/-- `is_member_of_active_group`. -/
def isMemberOfActiveGroup : Except ProviderError Bool := do
  self.ensureNotUser identity
  return false

/-- What the two lookups of profile pictures have in common. -/
def profilePicture (missing : String) : Except ProviderError (Option Picture) := do
  self.ensureNotUser identity
  if !data.containsKey (L.toText identity) then
    throw (.invalidState missing)
  return none

/-- `get_contact_defined_profile_picture`. -/
def getContactDefinedProfilePicture : Except ProviderError (Option Picture) :=
  self.profilePicture Picture data identity
    "Contact to retrieve the contact-defined profile picture from does not exist"

/-- `get_user_defined_profile_picture`. -/
def getUserDefinedProfilePicture : Except ProviderError (Option Picture) :=
  self.profilePicture Picture data identity
    "Contact to retrieve the user-defined profile picture from does not exist"

end

/-- Every stored key can be read back. -/
def KeysReadable (L : Libthreema) (data : ContactMap) : Prop :=
  ∀ key stored, data.lookup key = some stored →
    ∃ publicKey, L.fromHex stored.publicKey = .ok publicKey

/-- The error of a lookup of the user. -/
def userEncountered : ProviderError :=
  .invalidParameter "Unexpected encounter of user's identity in contact provider"

/-- All lookups tell the same identities apart: the user, contacts and strangers. -/
structure LookupsAgree (Picture : Type) (store : ContactStore L) (data : ContactMap) : Prop where
  user : store.has data store.userIdentity = .error userEncountered ∧
    store.get data store.userIdentity = .error userEncountered ∧
    store.isExplicitlyBlocked store.userIdentity = .error userEncountered ∧
    store.isMemberOfActiveGroup store.userIdentity = .error userEncountered ∧
    store.getContactDefinedProfilePicture Picture data store.userIdentity =
      .error userEncountered ∧
    store.getUserDefinedProfilePicture Picture data store.userIdentity = .error userEncountered
  other : ∀ identity, identity ≠ store.userIdentity →
    (∃ known, store.has data identity = .ok known) ∧
      store.isExplicitlyBlocked identity = .ok false ∧
      store.isMemberOfActiveGroup identity = .ok false
  contact : ∀ identity, store.has data identity = .ok true →
    (∃ contact, store.get data identity = .ok (some contact) ∧ contact.identity = identity) ∧
      store.getContactDefinedProfilePicture Picture data identity = .ok none ∧
      store.getUserDefinedProfilePicture Picture data identity = .ok none
  stranger : ∀ identity, store.has data identity = .ok false →
    store.get data identity = .ok none ∧
      (∃ message, store.getContactDefinedProfilePicture Picture data identity =
        .error (.invalidState message)) ∧
      ∃ message, store.getUserDefinedProfilePicture Picture data identity =
        .error (.invalidState message)
  many : ∀ identities known,
    (∀ identity ∈ identities, store.has data identity = .ok (known identity)) →
    store.hasMany data identities = .ok (identities.countP known)
  manyUser : ∀ identities, store.userIdentity ∈ identities →
    store.hasMany data identities = .error userEncountered

/-! ## Lookups of one memory -/

variable {store : ContactStore L} {data : ContactMap} {identity : L.ThreemaId}

theorem has_eq_ok {known : Bool} (h : store.has data identity = .ok known) :
    identity ≠ store.userIdentity ∧ data.containsKey (L.toText identity) = known := by
  by_cases huser : identity = store.userIdentity
  · rw [huser, has, ensureNotUser_user] at h
    cases h
  · rw [has, store.ensureNotUser_of_ne huser] at h
    cases h
    exact ⟨huser, rfl⟩

/-- The turn of `has_many` for an identity that `has` answers. -/
theorem hasMany_turn {known : Bool} (h : store.has data identity = .ok known) (count : Nat) :
    (do
      store.ensureNotUser identity
      return if data.containsKey (L.toText identity) then count + 1 else count :
        Except ProviderError Nat) = .ok (count + if known then 1 else 0) := by
  obtain ⟨huser, rfl⟩ := has_eq_ok h
  rw [store.ensureNotUser_of_ne huser]
  cases data.containsKey (L.toText identity) <;> rfl

/-- `has_many` counts the identities that `has` knows. -/
theorem hasMany_eq_countP {identities : List L.ThreemaId} {known : L.ThreemaId → Bool}
    (h : ∀ identity ∈ identities, store.has data identity = .ok (known identity)) :
    store.hasMany data identities = .ok (identities.countP known) := by
  suffices ∀ count, identities.foldlM (fun count identity => (do
      store.ensureNotUser identity
      return if data.containsKey (L.toText identity) then count + 1 else count :
        Except ProviderError Nat)) count = .ok (count + identities.countP known) by
    rw [hasMany, this, Nat.zero_add]
  induction identities with
  | nil =>
      intro count
      rfl
  | cons identity identities ih =>
      intro count
      have hrest := ih fun other hother => h other (List.mem_cons_of_mem _ hother)
      rw [List.foldlM_cons, hasMany_turn (h identity (List.mem_cons_self ..))]
      show List.foldlM _ (count + _) identities = _
      rw [hrest, List.countP_cons, Nat.add_assoc, Nat.add_comm (List.countP _ _)]

/-- `has_many` fails on the user, wherever it stands. -/
theorem hasMany_user {identities : List L.ThreemaId} (h : store.userIdentity ∈ identities) :
    store.hasMany data identities = .error userEncountered := by
  suffices ∀ count, identities.foldlM (fun count identity => (do
      store.ensureNotUser identity
      return if data.containsKey (L.toText identity) then count + 1 else count :
        Except ProviderError Nat)) count = .error userEncountered from this 0
  induction identities with
  | nil => cases h
  | cons identity identities ih =>
      intro count
      rw [List.foldlM_cons]
      by_cases huser : identity = store.userIdentity
      · rw [huser, ensureNotUser_user]
        rfl
      · rw [store.ensureNotUser_of_ne huser]
        exact ih ((List.mem_cons.mp h).resolve_left (Ne.symm huser)) _

/-- Lookups agree when the stored keys can be read back. -/
theorem lookupsAgree_of_readable (Picture : Type) (hkeys : KeysReadable L data) :
    store.LookupsAgree Picture data := by
  constructor
  · simp only [has, get, isExplicitlyBlocked, isMemberOfActiveGroup,
      getContactDefinedProfilePicture, getUserDefinedProfilePicture, profilePicture,
      ensureNotUser_user]
    exact ⟨rfl, rfl, rfl, rfl, rfl, rfl⟩
  · intro identity huser
    simp only [has, isExplicitlyBlocked, isMemberOfActiveGroup, store.ensureNotUser_of_ne huser]
    exact ⟨⟨_, rfl⟩, rfl, rfl⟩
  · intro identity hhas
    obtain ⟨huser, hknown⟩ := has_eq_ok hhas
    obtain ⟨stored, hstored⟩ := Option.isSome_iff_exists.mp hknown
    obtain ⟨publicKey, hkey⟩ := hkeys _ stored hstored
    simp only [get, getContactDefinedProfilePicture, getUserDefinedProfilePicture, profilePicture,
      store.ensureNotUser_of_ne huser, hstored, hknown, StoredContact.toContact, hkey]
    exact ⟨⟨_, rfl, rfl⟩, rfl, rfl⟩
  · intro identity hhas
    obtain ⟨huser, hknown⟩ := has_eq_ok hhas
    have hnone : data.lookup (L.toText identity) = none :=
      Option.isNone_iff_eq_none.mp (Option.isSome_eq_false_iff.mp hknown)
    simp only [get, getContactDefinedProfilePicture, getUserDefinedProfilePicture, profilePicture,
      store.ensureNotUser_of_ne huser, hnone, hknown]
    exact ⟨rfl, ⟨_, rfl⟩, ⟨_, rfl⟩⟩
  · exact fun identities known h => hasMany_eq_countP h
  · exact fun identities h => hasMany_user h

end ContactStore

/-! ## Contacts over restarts -/

namespace StateDir

variable {enc : Encodings} {config : StateConfig L}

/-- A start leaves the contacts as they were, or loads the default or what the file
holds. -/
theorem start_contacts (s : StateDir) (verdicts : List Verdict) :
    (s.start enc config verdicts).contacts = s.contacts ∨
      (s.start enc config verdicts).contacts = ∅ ∨
      parseFile enc.contactMap ∅ config.contactsPath (s.disk config.contactsPath) =
        .ok (s.start enc config verdicts).contacts := by
  obtain ⟨loaded, rest, hload, -, -⟩ := loadStore_spec enc.nonceFile {} config.noncesPath
    (NonceStore.mk config.noncesPath) (s.disk config.noncesPath) verdicts
  obtain ⟨-, hw⟩ := hload ⟨s.nonces, s.disk, verdicts⟩ rfl rfl
  simp only [start, NonceStore.load, ContactStore.load]
  generalize (loadStore enc.nonceFile {} config.noncesPath
    (NonceStore.mk config.noncesPath)).run ⟨s.nonces, s.disk, verdicts⟩ = result at hw ⊢
  obtain ⟨outcome, w⟩ := result
  obtain rfl : w = _ := hw
  cases outcome with
  | error e => exact .inl rfl
  | killed => exact .inl rfl
  | ok store =>
      obtain ⟨loaded', rest', hload', hfrom, -⟩ := loadStore_spec enc.contactMap ∅
        config.contactsPath (ContactStore.mk config.contactsPath config.userIdentity)
        (s.disk config.contactsPath) rest
      obtain ⟨hok', hw'⟩ := hload' ⟨s.contacts, s.disk, rest⟩ rfl rfl
      simp only
      generalize (loadStore enc.contactMap ∅ config.contactsPath
        (ContactStore.mk config.contactsPath config.userIdentity)).run
          ⟨s.contacts, s.disk, rest⟩ = result' at hok' hw' ⊢
      obtain ⟨outcome', w'⟩ := result'
      obtain rfl : w' = _ := hw'
      cases outcome' with
      | error e => exact .inl rfl
      | killed => exact .inl rfl
      | ok store' =>
          cases loaded' with
          | none => cases hok'
          | some contacts => exact .inr (hfrom contacts rfl)

/-- The contacts in the memory and those in the file have a property. -/
structure Throughout (enc : Encodings) (config : StateConfig L) (I : ContactMap → Prop)
    (s : StateDir) : Prop where
  memory : I s.contacts
  file : ∀ data, parseFile enc.contactMap ∅ config.contactsPath (s.disk config.contactsPath) =
    .ok data → I data

/-- Every operation keeps a property that no contacts have and calls keep. -/
theorem Throughout.step {I : ContactMap → Prop} (hempty : I ∅)
    (hcall : ∀ (c : ContactCall L) data, I data → I (c.apply data)) {s s' : StateDir}
    {op : StateDirOp L} (h : s.Throughout enc config I)
    (hnext : s.next enc config op = some s') : s'.Throughout enc config I := by
  cases op with
  | contacts call order verdicts =>
      have hmemory : I s'.contacts := by
        have hsame := hnext
        simp only [next, Option.ite_none_right_eq_some] at hsame
        obtain ⟨-, heq⟩ := hsame
        cases heq
        show I (s.runContacts enc config call order verdicts).2.memory
        rw [runContacts, ContactStore.call_memory]
        exact hcall _ _ h.memory
      obtain ⟨-, data', fate, alive, rfl⟩ := wroteContacts_of_next hnext
      refine ⟨hmemory, ?_⟩
      intro data hdata
      simp only [wroteContacts, Fate.apply_path] at hdata
      by_cases hfate : fate = .replaced
      · rw [if_pos hfate, parseFile_toWriterPretty] at hdata
        cases hdata
        exact hmemory
      · rw [if_neg hfate] at hdata
        exact h.file data hdata
  | nonces scope nonces order verdicts =>
      obtain ⟨hne, hcontacts, -⟩ := config.paths_ne
      obtain ⟨-, fate, alive, rfl, -⟩ := wroteNonces_of_next hnext
      refine ⟨h.memory, ?_⟩
      intro data hdata
      simp only [wroteNonces, Fate.apply_other _ _ _ _ hne.symm fun htmp => hcontacts (.inr htmp)]
        at hdata
      exact h.file data hdata
  | restart verdicts =>
      have hdisk : (s.start enc config verdicts).disk = s.disk := start_disk s verdicts
      cases hnext
      refine ⟨?_, ?_⟩
      · rcases s.start_contacts verdicts with hsame | hdefault | hloaded
        · rw [hsame]
          exact h.memory
        · rw [hdefault]
          exact hempty
        · exact h.file _ hloaded
      · intro data hdata
        rw [hdisk] at hdata
        exact h.file data hdata

end StateDir

namespace ContactStore

theorem keysReadable_empty : KeysReadable L ∅ := by
  intro key stored hstored
  cases hstored

/-- A call stores keys as they are written. -/
theorem keysReadable_apply (c : ContactCall L) {data : ContactMap} (h : KeysReadable L data) :
    KeysReadable L (c.apply data) :=
  ContactCall.forall_apply
    (fun contact => ⟨contact.publicKey, L.fromHex_keyToText contact.publicKey⟩)
    (fun _ _ hkey => hkey) c h

/-- In every state of every run from a file whose keys can be read, over failed writes,
kills and restarts, all lookups of the contact store agree. -/
theorem lookups_agree (enc : Encodings) (config : StateConfig L) (Picture : Type)
    (disk : Disk Path)
    (hdisk : ∀ data, parseFile enc.contactMap ∅ config.contactsPath
      (disk config.contactsPath) = .ok data → KeysReadable L data)
    (ops : List (StateDirOp L)) :
    (StateDir.machine enc config).Visits
      (fun s => config.contactStore.LookupsAgree Picture s.contacts) (.initial disk) ops := by
  have hinitial : (StateDir.initial disk).Throughout enc config (KeysReadable L) :=
    ⟨keysReadable_empty, hdisk⟩
  have hvisits := (StateDir.machine enc config).visits_invariant
    (fun s op s' h hnext =>
      StateDir.Throughout.step keysReadable_empty (fun c _ => keysReadable_apply c) h hnext)
    ops hinitial
  exact hvisits.mono _ fun s h => lookupsAgree_of_readable Picture h.memory

/-- A directory with `ECHOECHO` in its `contacts.json`. -/
def withEcho : Disk Path := fun path =>
  if path = StateConfig.sample.contactsPath then
    some (Encodings.sample.contactMap.toWriterPretty 0 (ContactMap.insertContact ∅
      (Contact.sample Identities.echo : Contact (Libthreema.sample fun _ => .error "no envelope"))))
  else none

/-- `ECHOECHO` is loaded.  A contact is added while the disk is full, the process is
killed in the addition of another one, and it restarts. -/
theorem lookups_agree_restart :
    (StateDir.machine Encodings.sample StateConfig.sample).Visits
      (fun s => StateConfig.sample.contactStore.LookupsAgree Unit s.contacts)
      (.initial withEcho)
      [.restart [],
        .contacts (.add [.sample ⟨"AAAAAAAA", by decide⟩]) 0
          [.ok, .fail 1 "No space left on device (os error 28)"],
        .contacts (.add [.sample ⟨"BBBBBBBB", by decide⟩]) 0 [.ok, .kill 1], .restart []] := by
  refine lookups_agree Encodings.sample StateConfig.sample Unit withEcho ?_ _
  intro data hdata
  rw [withEcho, if_pos rfl, parseFile_toWriterPretty] at hdata
  cases hdata
  exact keysReadable_apply (.add [.sample Identities.echo]) keysReadable_empty

end ContactStore

end MultideviceClient
