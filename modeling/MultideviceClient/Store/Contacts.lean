import Mathlib.Data.Finmap
import Mathlib.Data.List.TakeWhile
import MultideviceClient.Store.Json

/-!
# The contact store

Contacts live in one file, as a map from the text of an identity to the stored
fields.  Clones of a store share one `Rc<RefCell<HashMap<..>>>`, which is the
memory of the process here.  So a clone is a path and the user's identity, and
every clone acts on the same memory.  A method that only reads takes the memory
as an argument, and a mutating one is an action.

`add` validates its whole batch and then inserts it.  `update` validates and
changes one element after the other.  Both save the whole map at the end and
keep the changed memory when the save fails.

*What a call does.*  `ContactCall.valid` is the check of a batch against the
memory before the call, and `ContactCall.apply` the change it makes.
`call_fate` says that a valid call makes that change and writes the map it
gives, and `call_rejected` that an invalid one is an error other than a failed
write, and writes nothing.
-/

namespace MultideviceClient

open Foundations

variable {L : Libthreema}

/-! ## Contacts -/

/-- `Contact`. -/
structure Contact (L : Libthreema) where
  identity : L.ThreemaId
  publicKey : L.PublicKey
  createdAt : UInt64
  firstName : Option String
  lastName : Option String
  nickname : Option String
  verificationLevel : L.Enum .verificationLevel
  workVerificationLevel : L.Enum .workVerificationLevel
  identityType : L.Enum .identityType
  acquaintanceLevel : L.Enum .acquaintanceLevel
  activityState : L.Enum .activityState
  featureMask : UInt64
  syncState : L.Enum .syncState
  workLastFullSyncAt : Option (L.Work .lastFullSyncAt)
  workAvailabilityStatus : Option (L.Work .availabilityStatus)
  readReceiptPolicyOverride : Option (L.Work .readReceiptPolicyOverride)
  typingIndicatorPolicyOverride : Option (L.Work .typingIndicatorPolicyOverride)
  notificationTriggerPolicyOverride : Option (L.Work .notificationTriggerPolicyOverride)
  conversationCategory : L.Enum .conversationCategory
  conversationVisibility : L.Enum .conversationVisibility

/-- `ContactUpdate`. -/
structure ContactUpdate (L : Libthreema) where
  identity : L.ThreemaId
  firstName : Delta String
  lastName : Delta String
  nickname : Delta String
  verificationLevel : Option (L.Enum .verificationLevel)
  workVerificationLevel : Option (L.Enum .workVerificationLevel)
  identityType : Option (L.Enum .identityType)
  acquaintanceLevel : Option (L.Enum .acquaintanceLevel)
  activityState : Option (L.Enum .activityState)
  featureMask : Option UInt64
  syncState : Option (L.Enum .syncState)
  workLastFullSyncAt : Option (L.Work .lastFullSyncAt)
  workAvailabilityStatus : Option (L.Work .availabilityStatus)
  readReceiptPolicyOverride : Delta (L.Work .readReceiptPolicyOverride)
  typingIndicatorPolicyOverride : Delta (L.Work .typingIndicatorPolicyOverride)
  notificationTriggerPolicyOverride : Delta (L.Work .notificationTriggerPolicyOverride)
  conversationCategory : Option (L.Enum .conversationCategory)
  conversationVisibility : Option (L.Enum .conversationVisibility)

/-- `StoredContact`, the on-disk mirror of a contact. -/
structure StoredContact where
  publicKey : String
  createdAt : UInt64
  firstName : Option String
  lastName : Option String
  nickname : Option String
  verificationLevel : Int32
  workVerificationLevel : Int32
  identityType : Int32
  acquaintanceLevel : Int32
  activityState : Int32
  featureMask : UInt64
  syncState : Int32
  conversationCategory : Int32
  conversationVisibility : Int32
deriving DecidableEq, Repr

/-- `apply_delta_string`. -/
def applyDeltaString (field : Option String) : Delta String → Option String
  | .unchanged => field
  | .update value => some value
  | .remove => none

namespace StoredContact

/-- `StoredContact::from_contact`. -/
def fromContact (contact : Contact L) : StoredContact where
  publicKey := L.keyToText contact.publicKey
  createdAt := contact.createdAt
  firstName := contact.firstName
  lastName := contact.lastName
  nickname := contact.nickname
  verificationLevel := L.toI32 contact.verificationLevel
  workVerificationLevel := L.toI32 contact.workVerificationLevel
  identityType := L.toI32 contact.identityType
  acquaintanceLevel := L.toI32 contact.acquaintanceLevel
  activityState := L.toI32 contact.activityState
  featureMask := contact.featureMask
  syncState := L.toI32 contact.syncState
  conversationCategory := L.toI32 contact.conversationCategory
  conversationVisibility := L.toI32 contact.conversationVisibility

/-- `try_from(raw).unwrap_or_default()`. -/
def enumOrDefault (field : EnumField) (raw : Int32) : L.Enum field :=
  (L.tryFrom raw).getD (L.enumDefault field)

/-- `StoredContact::to_contact`. -/
def toContact (stored : StoredContact) (identity : L.ThreemaId) : Except String (Contact L) := do
  let publicKey ← L.fromHex stored.publicKey
  return {
    identity := identity
    publicKey := publicKey
    createdAt := stored.createdAt
    firstName := stored.firstName
    lastName := stored.lastName
    nickname := stored.nickname
    verificationLevel := enumOrDefault .verificationLevel stored.verificationLevel
    workVerificationLevel := enumOrDefault .workVerificationLevel stored.workVerificationLevel
    identityType := enumOrDefault .identityType stored.identityType
    acquaintanceLevel := enumOrDefault .acquaintanceLevel stored.acquaintanceLevel
    activityState := enumOrDefault .activityState stored.activityState
    featureMask := stored.featureMask
    syncState := enumOrDefault .syncState stored.syncState
    workLastFullSyncAt := none
    workAvailabilityStatus := none
    readReceiptPolicyOverride := none
    typingIndicatorPolicyOverride := none
    notificationTriggerPolicyOverride := none
    conversationCategory := enumOrDefault .conversationCategory stored.conversationCategory
    conversationVisibility := enumOrDefault .conversationVisibility stored.conversationVisibility }

/-- `if let Some(value) = update { field = value as i32 }`. -/
def applyEnum {field : EnumField} (raw : Int32) (update : Option (L.Enum field)) : Int32 :=
  match update with
  | some value => L.toI32 value
  | none => raw

/-- The assignments of one turn of the loop in `ContactStore::update`. -/
def applyUpdate (stored : StoredContact) (update : ContactUpdate L) : StoredContact where
  publicKey := stored.publicKey
  createdAt := stored.createdAt
  firstName := applyDeltaString stored.firstName update.firstName
  lastName := applyDeltaString stored.lastName update.lastName
  nickname := applyDeltaString stored.nickname update.nickname
  verificationLevel := applyEnum stored.verificationLevel update.verificationLevel
  workVerificationLevel := applyEnum stored.workVerificationLevel update.workVerificationLevel
  identityType := applyEnum stored.identityType update.identityType
  acquaintanceLevel := applyEnum stored.acquaintanceLevel update.acquaintanceLevel
  activityState := applyEnum stored.activityState update.activityState
  featureMask := update.featureMask.getD stored.featureMask
  syncState := applyEnum stored.syncState update.syncState
  conversationCategory := applyEnum stored.conversationCategory update.conversationCategory
  conversationVisibility := applyEnum stored.conversationVisibility update.conversationVisibility

end StoredContact

/-! ## The store -/

/-- `HashMap<String, StoredContact>`. -/
abbrev ContactMap := Finmap fun _ : String => StoredContact

/-- `contains_key`. -/
def ContactMap.containsKey (data : ContactMap) (key : String) : Bool := (data.lookup key).isSome

/-- `ContactStore`, without the shared memory. -/
structure ContactStore (L : Libthreema) where
  path : Path
  userIdentity : L.ThreemaId

namespace ContactStore

variable (serde : Serde ContactMap)

/-- `ContactStore::load`. -/
def load (path : Path) (userIdentity : L.ThreemaId) :
    Action ContactMap Path String (ContactStore L) :=
  loadStore serde ∅ path { path := path, userIdentity := userIdentity }

/-- `ContactStore::save`. -/
def save (self : ContactStore L) (order : Nat) : Action ContactMap Path String Unit :=
  saveJson serde order self.path

/-- `ContactStore::ensure_not_user`. -/
def ensureNotUser (self : ContactStore L) (identity : L.ThreemaId) : Except ProviderError Unit :=
  if identity = self.userIdentity then
    .error (.invalidParameter "Unexpected encounter of user's identity in contact provider")
  else .ok ()

/-- `has`. -/
def has (self : ContactStore L) (data : ContactMap) (identity : L.ThreemaId) :
    Except ProviderError Bool := do
  self.ensureNotUser identity
  return data.containsKey (L.toText identity)

/-- `has_many`. -/
def hasMany (self : ContactStore L) (data : ContactMap) (identities : List L.ThreemaId) :
    Except ProviderError Nat :=
  identities.foldlM (fun count identity => do
    self.ensureNotUser identity
    return if data.containsKey (L.toText identity) then count + 1 else count) 0

/-- `get`. -/
def get (self : ContactStore L) (data : ContactMap) (identity : L.ThreemaId) :
    Except ProviderError (Option (Contact L)) := do
  self.ensureNotUser identity
  match data.lookup (L.toText identity) with
  | none => return none
  | some stored =>
      match stored.toContact identity with
      | .ok contact => return some contact
      | .error message => throw (.foreign message)

/-- One turn of the checking loop of `add`. -/
def checkAdd (self : ContactStore L) (contact : Contact L) :
    Action ContactMap Path ProviderError Unit := do
  Action.ofExcept (self.ensureNotUser contact.identity)
  let data ← Action.getMemory
  if data.containsKey (L.toText contact.identity) then
    Action.throw (.invalidState "Contact to be added already exists")

/-- One turn of the inserting loop of `add`. -/
def insertOne (contact : Contact L) : Action ContactMap Path ProviderError Unit :=
  Action.modifyMemory fun data =>
    data.insert (L.toText contact.identity) (.fromContact contact)

/-- `add`. -/
def add (self : ContactStore L) (order : Nat) (contacts : List (Contact L)) :
    Action ContactMap Path ProviderError Unit := do
  contacts.forM self.checkAdd
  contacts.forM insertOne
  (self.save serde order).mapError ProviderError.foreign

/-- One turn of the loop of `update`. -/
def updateOne (self : ContactStore L) (update : ContactUpdate L) :
    Action ContactMap Path ProviderError Unit := do
  Action.ofExcept (self.ensureNotUser update.identity)
  let data ← Action.getMemory
  match data.lookup (L.toText update.identity) with
  | none => Action.throw (.invalidState "Contact to be updated does not exist")
  | some stored =>
      Action.modifyMemory fun data =>
        data.insert (L.toText update.identity) (stored.applyUpdate update)

/-- `update`. -/
def update (self : ContactStore L) (order : Nat) (updates : List (ContactUpdate L)) :
    Action ContactMap Path ProviderError Unit := do
  updates.forM self.updateOne
  (self.save serde order).mapError ProviderError.foreign

end ContactStore

/-! ## What a call does -/

/-- What the inserting loop of `add` does to the memory in one turn. -/
def ContactMap.insertContact (data : ContactMap) (contact : Contact L) : ContactMap :=
  data.insert (L.toText contact.identity) (.fromContact contact)

/-- What the loop of `update` does to the memory in one turn. -/
def ContactMap.updateContact (data : ContactMap) (update : ContactUpdate L) : ContactMap :=
  match data.lookup (L.toText update.identity) with
  | none => data
  | some stored => data.insert (L.toText update.identity) (stored.applyUpdate update)

/-- A mutating call. -/
inductive ContactCall (L : Libthreema) where
  | add (contacts : List (Contact L))
  | update (updates : List (ContactUpdate L))

/-- The contact passes the check of `add`. -/
def Contact.addable (user : L.ThreemaId) (data : ContactMap) (contact : Contact L) : Bool :=
  decide (contact.identity ≠ user) && !data.containsKey (L.toText contact.identity)

/-- The update passes the check of `update`. -/
def ContactUpdate.applicable (user : L.ThreemaId) (data : ContactMap)
    (update : ContactUpdate L) : Bool :=
  decide (update.identity ≠ user) && data.containsKey (L.toText update.identity)

/-- The batch passes the checks of the call, made against the memory before it. -/
def ContactCall.valid (user : L.ThreemaId) (data : ContactMap) : ContactCall L → Bool
  | .add contacts => contacts.all (Contact.addable user data)
  | .update updates => updates.all (ContactUpdate.applicable user data)

/-- The change the call makes to the memory. -/
def ContactCall.apply (data : ContactMap) : ContactCall L → ContactMap
  | .add contacts => contacts.foldl ContactMap.insertContact data
  | .update updates => updates.foldl ContactMap.updateContact data

/-- The part of a rejected batch that is carried out: nothing of an `add`, and the
updates before the first bad one. -/
def ContactCall.carriedOut (user : L.ThreemaId) (data : ContactMap) : ContactCall L → ContactCall L
  | .add _ => .add []
  | .update updates => .update (updates.takeWhile (ContactUpdate.applicable user data))

/-- Make a call. -/
def ContactStore.call (serde : Serde ContactMap) (self : ContactStore L) (order : Nat) :
    ContactCall L → Action ContactMap Path ProviderError Unit
  | .add contacts => self.add serde order contacts
  | .update updates => self.update serde order updates

/-- An error of a check, not of a failed write. -/
def ProviderError.isRejection : ProviderError → Bool
  | .foreign _ => false
  | _ => true

/-- An update never adds or removes a key. -/
theorem ContactMap.containsKey_updateContact (data : ContactMap) (update : ContactUpdate L)
    (key : String) : (data.updateContact update).containsKey key = data.containsKey key := by
  unfold ContactMap.updateContact
  cases hstored : data.lookup (L.toText update.identity) with
  | none => rfl
  | some stored =>
      by_cases hkey : key = L.toText update.identity
      · subst hkey
        simp [ContactMap.containsKey, hstored]
      · simp [ContactMap.containsKey, Finmap.lookup_insert_of_ne _ hkey]

/-- An `add` adds the keys of its batch. -/
theorem ContactCall.containsKey_add (contacts : List (Contact L)) (data : ContactMap)
    (key : String) :
    ((ContactCall.add contacts).apply data).containsKey key = true ↔
      data.containsKey key = true ∨ ∃ contact ∈ contacts, L.toText contact.identity = key := by
  induction contacts generalizing data with
  | nil => simp [ContactCall.apply]
  | cons contact contacts ih =>
      have hinsert : (data.insertContact contact).containsKey key = true ↔
          data.containsKey key = true ∨ L.toText contact.identity = key := by
        by_cases hkey : key = L.toText contact.identity
        · subst hkey
          simp [ContactMap.insertContact, ContactMap.containsKey]
        · simp [ContactMap.insertContact, ContactMap.containsKey,
            Finmap.lookup_insert_of_ne _ hkey, Ne.symm hkey]
      show ((ContactCall.add contacts).apply (data.insertContact contact)).containsKey key = true ↔
        _
      rw [ih, hinsert]
      simp [or_assoc]

/-- No call removes a key. -/
theorem ContactCall.containsKey_apply (c : ContactCall L) {data : ContactMap} {key : String}
    (h : data.containsKey key = true) : (c.apply data).containsKey key = true := by
  cases c with
  | add contacts => exact (ContactCall.containsKey_add contacts data key).mpr (.inl h)
  | update updates =>
      induction updates generalizing data with
      | nil => exact h
      | cons update updates ih =>
          exact ih ((ContactMap.containsKey_updateContact data update key).trans h)

/-- A valid `add` changes nothing only when its batch is empty. -/
theorem ContactCall.apply_add_eq_iff {contacts : List (Contact L)} {data : ContactMap}
    {user : L.ThreemaId} (hvalid : (ContactCall.add contacts).valid user data = true) :
    (ContactCall.add contacts).apply data = data ↔ contacts = [] := by
  constructor
  · intro hsame
    cases contacts with
    | nil => rfl
    | cons contact contacts =>
        have hnew := List.all_eq_true.mp hvalid contact (List.mem_cons_self ..)
        simp only [Contact.addable, Bool.and_eq_true, Bool.not_eq_true'] at hnew
        have hadded := (ContactCall.containsKey_add (contact :: contacts) data _).mpr
          (.inr ⟨contact, List.mem_cons_self .., rfl⟩)
        rw [hsame, hnew.2] at hadded
        cases hadded
  · rintro rfl
    rfl

namespace ContactStore

variable (serde : Serde ContactMap) (self : ContactStore L) (order : Nat)

theorem ensureNotUser_of_ne {identity : L.ThreemaId} (h : identity ≠ self.userIdentity) :
    self.ensureNotUser identity = .ok () := if_neg h

theorem ensureNotUser_user :
    self.ensureNotUser self.userIdentity = .error (.invalidParameter
      "Unexpected encounter of user's identity in contact provider") := if_pos rfl

/-- The error of a check that an identity fails. -/
def rejection (identity : L.ThreemaId) (message : String) : ProviderError :=
  if identity = self.userIdentity then
    .invalidParameter "Unexpected encounter of user's identity in contact provider"
  else .invalidState message

theorem rejection_isRejection (identity : L.ThreemaId) (message : String) :
    (self.rejection identity message).isRejection = true := by
  by_cases h : identity = self.userIdentity
  · simp [rejection, h, ProviderError.isRejection]
  · simp [rejection, h, ProviderError.isRejection]

/-- The checking loop of `add` stops at its first bad element and changes
nothing. -/
theorem run_checkAll (contacts : List (Contact L)) (w : World ContactMap Path) :
    (contacts.forM self.checkAdd).run w =
      (.ofError ((contacts.find? fun contact =>
          !contact.addable self.userIdentity w.memory).map fun contact =>
          self.rejection contact.identity "Contact to be added already exists"), w) := by
  have hgood : ∀ contact : Contact L, contact.addable self.userIdentity w.memory = true →
      ∀ w' : World ContactMap Path, w'.memory = w.memory →
        (self.checkAdd contact).run w' = (.ok (), w') ∧ w'.memory = w.memory := by
    intro contact hgood w' hI
    simp only [Contact.addable, Bool.and_eq_true, decide_eq_true_eq, Bool.not_eq_true'] at hgood
    refine ⟨?_, hI⟩
    rw [checkAdd, Action.bind_ok (Action.run_ofExcept_ok (self.ensureNotUser_of_ne hgood.1) w'),
      Action.bind_ok (Action.run_getMemory w'), hI, hgood.2]
    rfl
  have hbad : ∀ contact : Contact L, contact.addable self.userIdentity w.memory = false →
      ∀ w' : World ContactMap Path, w'.memory = w.memory →
        (self.checkAdd contact).run w' =
          (.error (self.rejection contact.identity "Contact to be added already exists"), w') := by
    intro contact hbad w' hI
    rw [checkAdd, rejection]
    by_cases huser : contact.identity = self.userIdentity
    · rw [if_pos huser, huser]
      exact Action.bind_error (Action.run_ofExcept_error self.ensureNotUser_user w')
    · have hkey : w.memory.containsKey (L.toText contact.identity) = true := by
        simpa [Contact.addable, huser] using hbad
      rw [if_neg huser,
        Action.bind_ok (Action.run_ofExcept_ok (self.ensureNotUser_of_ne huser) w'),
        Action.bind_ok (Action.run_getMemory w'), hI, hkey]
      rfl
  have hfold : ∀ pre : List (Contact L), pre.foldl (fun data _ => data) w.memory = w.memory := by
    intro pre
    induction pre with
    | nil => rfl
    | cons _ _ ih => exact ih
  have hrun := Action.run_forM self.checkAdd (fun data => data = w.memory)
    (Contact.addable self.userIdentity w.memory) (fun data _ => data) _ hgood hbad contacts w rfl
  rw [hfold] at hrun
  exact hrun

/-- The inserting loop of `add` makes its change. -/
theorem run_insertAll (contacts : List (Contact L)) (w : World ContactMap Path) :
    (contacts.forM insertOne).run w =
      (.ok (), { w with memory := (ContactCall.add contacts).apply w.memory }) := by
  induction contacts generalizing w with
  | nil => rfl
  | cons contact contacts ih =>
      exact (Action.bind_ok (Action.run_modifyMemory _ w)).trans (ih _)

/-- The loop of `update` makes its change up to its first bad element. -/
theorem run_updateAll (updates : List (ContactUpdate L)) (w : World ContactMap Path) :
    (updates.forM self.updateOne).run w =
      (.ofError ((updates.find? fun update =>
          !update.applicable self.userIdentity w.memory).map fun update =>
          self.rejection update.identity "Contact to be updated does not exist"),
        { w with memory := (ContactCall.update (updates.takeWhile
            (ContactUpdate.applicable self.userIdentity w.memory))).apply w.memory }) := by
  refine Action.run_forM self.updateOne
    (fun data => ∀ key, data.containsKey key = w.memory.containsKey key)
    (ContactUpdate.applicable self.userIdentity w.memory) ContactMap.updateContact _
    ?hgood ?hbad updates w (fun _ => rfl)
  case hgood =>
    intro update hgood w' hI
    simp only [ContactUpdate.applicable, Bool.and_eq_true, decide_eq_true_eq] at hgood
    refine ⟨?_, fun key => (ContactMap.containsKey_updateContact _ _ _).trans (hI key)⟩
    have hkey := (hI (L.toText update.identity)).trans hgood.2
    obtain ⟨stored, hstored⟩ := Option.isSome_iff_exists.mp hkey
    rw [updateOne, Action.bind_ok (Action.run_ofExcept_ok (self.ensureNotUser_of_ne hgood.1) w'),
      Action.bind_ok (Action.run_getMemory w')]
    simp [ContactMap.updateContact, hstored]
  case hbad =>
    intro update hbad w' hI
    rw [updateOne, rejection]
    by_cases huser : update.identity = self.userIdentity
    · rw [if_pos huser, huser]
      exact Action.bind_error (Action.run_ofExcept_error self.ensureNotUser_user w')
    · have hkey : w'.memory.containsKey (L.toText update.identity) = false := by
        rw [hI]
        simpa [ContactUpdate.applicable, huser] using hbad
      have hnone : w'.memory.lookup (L.toText update.identity) = none := by
        simpa [ContactMap.containsKey] using hkey
      rw [if_neg huser,
        Action.bind_ok (Action.run_ofExcept_ok (self.ensureNotUser_of_ne huser) w'),
        Action.bind_ok (Action.run_getMemory w')]
      simp [hnone]

/-- A valid call changes the memory and then saves it. -/
theorem call_valid (c : ContactCall L) (data : ContactMap) (disk : Disk Path)
    (verdicts : List Verdict) (hvalid : c.valid self.userIdentity data = true) :
    (self.call serde order c).run ⟨data, disk, verdicts⟩ =
      ((self.save serde order).mapError ProviderError.foreign).run
        ⟨c.apply data, disk, verdicts⟩ := by
  cases c with
  | add contacts =>
      have hall := List.all_eq_true.mp hvalid
      have hcheck := self.run_checkAll contacts ⟨data, disk, verdicts⟩
      rw [List.find?_eq_none.mpr fun contact hmem => by simp [hall contact hmem]] at hcheck
      show (self.add serde order contacts).run _ = _
      rw [add, Action.bind_ok hcheck, Action.bind_ok (run_insertAll contacts _)]
  | update updates =>
      have hall := List.all_eq_true.mp hvalid
      have hupdate := self.run_updateAll updates ⟨data, disk, verdicts⟩
      rw [List.find?_eq_none.mpr fun update hmem => by simp [hall update hmem],
        List.takeWhile_eq_self_iff.mpr hall] at hupdate
      show (self.update serde order updates).run _ = _
      rw [update, Action.bind_ok hupdate]

/-- Everything a valid call does: it changes the memory and writes the map that
the change gives.  A failed write keeps the changed memory. -/
theorem call_fate (c : ContactCall L) (data : ContactMap) (verdicts : List Verdict)
    (hvalid : c.valid self.userIdentity data = true) :
    ∃ (fate : Fate) (outcome : Outcome ProviderError Unit) (rest : List Verdict),
      (∀ disk, (self.call serde order c).run ⟨data, disk, verdicts⟩ =
        (outcome, ⟨c.apply data,
          fate.apply self.path (serde.toWriterPretty order (c.apply data)) disk, rest⟩)) ∧
      fate.Allows outcome ∧ (fate = .replaced ↔ writeSucceeds verdicts = true) ∧
      (survives verdicts = true → outcome ≠ .killed) := by
  obtain ⟨fate, outcome, rest, hrun, hends⟩ :=
    saveJson_fate serde order self.path (c.apply data) verdicts
  exact ⟨fate, outcome, rest,
    fun disk => (self.call_valid serde order c data disk verdicts hvalid).trans (hrun disk), hends⟩

/-- Everything an invalid call does: it is an error of a check, and no file
changes.  The memory has the part of the batch that is carried out. -/
theorem call_rejected (c : ContactCall L) (data : ContactMap) (verdicts : List Verdict)
    (hvalid : c.valid self.userIdentity data = false) :
    ∃ e, e.isRejection = true ∧
      ∀ disk, (self.call serde order c).run ⟨data, disk, verdicts⟩ =
        (.error e, ⟨(c.carriedOut self.userIdentity data).apply data, disk, verdicts⟩) := by
  cases c with
  | add contacts =>
      obtain ⟨bad, hmem, hbad⟩ := List.all_eq_false.mp hvalid
      obtain ⟨contact, hfind⟩ : ∃ contact, contacts.find? (fun contact =>
          !contact.addable self.userIdentity data) = some contact :=
        Option.isSome_iff_exists.mp (List.find?_isSome.mpr ⟨bad, hmem, by simpa using hbad⟩)
      refine ⟨self.rejection contact.identity "Contact to be added already exists",
        self.rejection_isRejection _ _, fun disk => ?_⟩
      have hcheck := self.run_checkAll contacts ⟨data, disk, verdicts⟩
      rw [hfind] at hcheck
      exact Action.bind_error hcheck
  | update updates =>
      obtain ⟨bad, hmem, hbad⟩ := List.all_eq_false.mp hvalid
      obtain ⟨update, hfind⟩ : ∃ update, updates.find? (fun update =>
          !update.applicable self.userIdentity data) = some update :=
        Option.isSome_iff_exists.mp (List.find?_isSome.mpr ⟨bad, hmem, by simpa using hbad⟩)
      refine ⟨self.rejection update.identity "Contact to be updated does not exist",
        self.rejection_isRejection _ _, fun disk => ?_⟩
      have hupdate := self.run_updateAll updates ⟨data, disk, verdicts⟩
      rw [hfind] at hupdate
      exact Action.bind_error hupdate

/-- What a call leaves in the memory, whatever its system calls do. -/
theorem call_memory (c : ContactCall L) (data : ContactMap) (disk : Disk Path)
    (verdicts : List Verdict) :
    ((self.call serde order c).run ⟨data, disk, verdicts⟩).2.memory =
      (if c.valid self.userIdentity data then c
        else c.carriedOut self.userIdentity data).apply data := by
  cases hvalid : c.valid self.userIdentity data with
  | true =>
      obtain ⟨fate, outcome, rest, hrun, -⟩ := self.call_fate serde order c data verdicts hvalid
      rw [hrun, if_pos rfl]
  | false =>
      obtain ⟨e, -, hrun⟩ := self.call_rejected serde order c data verdicts hvalid
      rw [hrun, if_neg (by simp)]

/-- A call saves when its batch is valid and its system calls succeed. -/
theorem call_saves (c : ContactCall L) (data : ContactMap) (verdicts : List Verdict) :
    Saves serde order self.path data verdicts
      (c.valid self.userIdentity data && writeSucceeds verdicts) (self.call serde order c) := by
  cases hvalid : c.valid self.userIdentity data with
  | true =>
      obtain ⟨fate, outcome, rest, hrun, hallows, hfate, -⟩ :=
        self.call_fate serde order c data verdicts hvalid
      exact ⟨c.apply data, fate, outcome, rest, hrun, hallows, hfate⟩
  | false =>
      obtain ⟨e, -, hrun⟩ := self.call_rejected serde order c data verdicts hvalid
      exact ⟨_, .untouched, .error e, verdicts, hrun, by simp [Fate.Allows], by simp⟩

end ContactStore

/-- The store of `USERUSER` over the sample parameters. -/
def ContactStore.sample (decodeEnvelope : Bytes → Except String Envelope) :
    ContactStore (Libthreema.sample decodeEnvelope) where
  path := ⟨"state", some (.utf8 "contacts.json")⟩
  userIdentity := Identities.user

/-- A contact over the sample parameters. -/
def Contact.sample {decodeEnvelope : Bytes → Except String Envelope}
    (identity : (Libthreema.sample decodeEnvelope).ThreemaId) :
    Contact (Libthreema.sample decodeEnvelope) where
  identity := identity
  publicKey := ⟨"abababababababababababababababababababababababababababababababab", by decide⟩
  createdAt := 1700000000000
  firstName := some "Ada"
  lastName := none
  nickname := some "adalovelace"
  verificationLevel := ⟨0, EnumField.size_pos _⟩
  workVerificationLevel := ⟨0, EnumField.size_pos _⟩
  identityType := ⟨0, EnumField.size_pos _⟩
  acquaintanceLevel := ⟨0, EnumField.size_pos _⟩
  activityState := ⟨0, EnumField.size_pos _⟩
  featureMask := 2
  syncState := ⟨0, EnumField.size_pos _⟩
  workLastFullSyncAt := none
  workAvailabilityStatus := none
  readReceiptPolicyOverride := none
  typingIndicatorPolicyOverride := none
  notificationTriggerPolicyOverride := none
  conversationCategory := ⟨0, EnumField.size_pos _⟩
  conversationVisibility := ⟨0, EnumField.size_pos _⟩

end MultideviceClient
