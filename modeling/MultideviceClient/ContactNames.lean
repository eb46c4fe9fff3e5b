import MultideviceClient.Conversation
import MultideviceClient.Foundations.Join
import MultideviceClient.Store.Batches

/-!
# Names of contacts

`contact_name` gives the nickname of a contact, else its full name, else
nothing.  It takes an empty nickname for an absent one.  Of the full name it
checks the two parts for being absent, and the joined text for being empty.

A name is well formed when empty fields count as absent ones throughout.  The
joined text has a separator for an empty part next to the other one.  So the
names of the contacts without a nickname are well formed except where both parts
are there and one of them is empty (`contactName_wellFormed_iff`).
-/

namespace MultideviceClient

open Foundations

variable {L : Libthreema}

/-! ## Stores that calls can reach -/

/-- The contacts that calls of `add` and `update` make of no contact.  The calls
may be rejected, and their system calls may fail. -/
inductive ContactStore.Reachable (serde : Serde ContactMap) (store : ContactStore L) :
    ContactMap → Prop where
  | empty : Reachable serde store ∅
  | call {data : ContactMap} (h : Reachable serde store data) (order : Nat) (c : ContactCall L)
      (disk : Disk Path) (verdicts : List Verdict) :
      Reachable serde store ((store.call serde order c).run ⟨data, disk, verdicts⟩).2.memory

/-- A property of all stored contacts that additions have and updates keep. -/
theorem ContactCall.forall_apply {P : StoredContact → Prop}
    (hadd : ∀ contact : Contact L, P (.fromContact contact))
    (hupdate : ∀ stored (update : ContactUpdate L), P stored → P (stored.applyUpdate update))
    (c : ContactCall L) {data : ContactMap}
    (h : ∀ key stored, data.lookup key = some stored → P stored) :
    ∀ key stored, (c.apply data).lookup key = some stored → P stored := by
  cases c with
  | add contacts =>
      induction contacts generalizing data with
      | nil => exact h
      | cons contact contacts ih =>
          have hinsert : ∀ key stored, (data.insertContact contact).lookup key = some stored →
              P stored := by
            intro key stored hstored
            by_cases hkey : key = L.toText contact.identity
            · subst hkey
              rw [ContactMap.insertContact, Finmap.lookup_insert] at hstored
              cases hstored
              exact hadd contact
            · rw [ContactMap.insertContact, Finmap.lookup_insert_of_ne _ hkey] at hstored
              exact h key stored hstored
          exact ih hinsert
  | update updates =>
      intro key stored hstored
      rw [ContactCall.apply, ContactMap.lookup_foldl_updateContact, Option.map_eq_some_iff]
        at hstored
      obtain ⟨before, hbefore, rfl⟩ := hstored
      exact List.foldlRecOn _ _ (h key before hbefore) fun stored hP update _ =>
        hupdate stored update hP

/-- Every stored key can be read back. -/
theorem ContactStore.Reachable.fromHex {serde : Serde ContactMap} {store : ContactStore L}
    {data : ContactMap} (h : store.Reachable serde data) :
    ∀ key stored, data.lookup key = some stored →
      ∃ publicKey, L.fromHex stored.publicKey = .ok publicKey := by
  induction h with
  | empty =>
      intro key stored hstored
      cases hstored
  | call h order c disk verdicts ih =>
      rw [store.call_memory]
      exact ContactCall.forall_apply
        (fun contact => ⟨contact.publicKey, L.fromHex_keyToText contact.publicKey⟩)
        (fun stored update hkey => hkey) _ ih

/-! ## Well-formed names -/

/-- A field that is absent or empty. -/
def Blank (field : Option String) : Prop := field = none ∨ field = some ""

namespace StoredContact

/-- The parts of the full name that are there. -/
def nameParts (stored : StoredContact) : List String :=
  [stored.firstName, stored.lastName].filterMap id

/-- All three fields are absent or empty. -/
def Nameless (stored : StoredContact) : Prop :=
  Blank stored.nickname ∧ Blank stored.firstName ∧ Blank stored.lastName

/-- No part of the full name is empty next to the other one. -/
def PartsFilled (stored : StoredContact) : Prop :=
  ∀ first last, stored.firstName = some first → stored.lastName = some last →
    first ≠ "" ∧ last ≠ ""

end StoredContact

/-- The name of an identity is well formed: there is none exactly for the user,
for unknown identities and for contacts without any, and it is the nickname, or
else the non-empty parts of the full name with a space between them. -/
structure NameWellFormed (store : ContactStore L) (data : ContactMap)
    (identity : L.ThreemaId) : Prop where
  none_iff : contactName store data identity = none ↔
    identity = store.userIdentity ∨ data.containsKey (L.toText identity) = false ∨
      ∃ stored, data.lookup (L.toText identity) = some stored ∧ stored.Nameless
  nickname : ∀ stored nickname, identity ≠ store.userIdentity →
    data.lookup (L.toText identity) = some stored → stored.nickname = some nickname →
    nickname ≠ "" → contactName store data identity = some nickname
  fullName : ∀ stored, identity ≠ store.userIdentity →
    data.lookup (L.toText identity) = some stored → Blank stored.nickname →
    ¬ stored.Nameless → contactName store data identity =
      some (" ".intercalate (stored.nameParts.filter (· ≠ "")))

/-! ## What `contact_name` gives -/

section

variable {store : ContactStore L} {data : ContactMap} {identity : L.ThreemaId}
  {stored : StoredContact}

theorem contactName_user (store : ContactStore L) (data : ContactMap) :
    contactName store data store.userIdentity = none := by
  simp [contactName, ContactStore.get, ContactStore.ensureNotUser_user, bind, Except.bind,
    Except.toOption]

theorem contactName_unknown (hunknown : data.lookup (L.toText identity) = none) :
    contactName store data identity = none := by
  by_cases huser : identity = store.userIdentity
  · rw [huser]
    exact contactName_user store data
  · simp [contactName, ContactStore.get, store.ensureNotUser_of_ne huser, hunknown, bind,
      Except.bind, pure, Except.pure, Except.toOption]

/-- A stored contact whose key can be read back is a contact with its names. -/
theorem StoredContact.toContact_names (identity : L.ThreemaId)
    (hkey : ∃ publicKey, L.fromHex stored.publicKey = .ok publicKey) :
    ∃ contact : Contact L, stored.toContact identity = .ok contact ∧
      contact.nickname = stored.nickname ∧
      [contact.firstName, contact.lastName] = [stored.firstName, stored.lastName] := by
  obtain ⟨publicKey, hkey⟩ := hkey
  cases hcontact : stored.toContact identity with
  | error e =>
      rw [toContact, hkey] at hcontact
      cases hcontact
  | ok contact =>
      refine ⟨contact, rfl, ?_⟩
      rw [toContact, hkey] at hcontact
      cases hcontact
      exact ⟨rfl, rfl⟩

/-- The name of a stored contact is a function of its fields. -/
theorem contactName_stored (huser : identity ≠ store.userIdentity)
    (hstored : data.lookup (L.toText identity) = some stored)
    (hkey : ∃ publicKey, L.fromHex stored.publicKey = .ok publicKey) :
    contactName store data identity =
      match stored.nickname.filter fun name => !name.isEmpty with
      | some nickname => some nickname
      | none =>
          if " ".intercalate stored.nameParts = "" then none
          else some (" ".intercalate stored.nameParts) := by
  obtain ⟨contact, hcontact, hnickname, hparts⟩ := stored.toContact_names identity hkey
  have hget : store.get data identity = .ok (some contact) := by
    rw [ContactStore.get, store.ensureNotUser_of_ne huser, hstored]
    simp only [bind, Except.bind, hcontact]
    rfl
  rw [contactName, hget, StoredContact.nameParts, ← hnickname, ← hparts]
  show (match contact.nickname.filter fun name => !name.isEmpty with
    | some nickname => some nickname
    | none => _) = _
  split
  next => rfl
  next =>
    simp only [Bool.not_eq_true', String.isEmpty_eq_false_iff, ite_not]
    rfl

theorem filter_nickname_eq_none {nickname : Option String} :
    (nickname.filter fun name => !name.isEmpty) = none ↔ Blank nickname := by
  cases nickname with
  | none => simp [Blank]
  | some nickname => simp [Blank]

/-- The parts of a full name, without the empty ones. -/
theorem StoredContact.filter_nameParts_eq_nil :
    stored.nameParts.filter (· ≠ "") = [] ↔ Blank stored.firstName ∧ Blank stored.lastName := by
  unfold StoredContact.nameParts Blank
  cases stored.firstName with
  | none => cases stored.lastName <;> simp
  | some first => cases stored.lastName <;> simp

/-- Dropping the empty parts makes no difference to a full name whose parts are
filled, and to no other. -/
theorem StoredContact.intercalate_nameParts_iff :
    " ".intercalate (stored.nameParts.filter (· ≠ "")) = " ".intercalate stored.nameParts ↔
      stored.PartsFilled := by
  rw [intercalate_filter_eq_iff (by decide)]
  unfold StoredContact.nameParts StoredContact.PartsFilled
  cases stored.firstName with
  | none => cases stored.lastName <;> simp [em']
  | some first => cases stored.lastName <;> simp [em']

/-- A full name whose parts are filled is empty when both parts are blank, and
only then. -/
theorem StoredContact.intercalate_nameParts_eq_empty (h : stored.PartsFilled) :
    " ".intercalate stored.nameParts = "" ↔ Blank stored.firstName ∧ Blank stored.lastName := by
  rw [← StoredContact.intercalate_nameParts_iff.mpr h, intercalate_eq_empty_iff (by decide),
    StoredContact.filter_nameParts_eq_nil]
  refine or_iff_left ?_
  intro hone
  have hmem : "" ∈ stored.nameParts.filter (· ≠ "") := by
    rw [hone]
    exact List.mem_singleton_self ""
  simp at hmem

/-- The user has no name. -/
theorem nameWellFormed_user (store : ContactStore L) (data : ContactMap) :
    NameWellFormed store data store.userIdentity := by
  refine ⟨?_, ?_, ?_⟩
  · exact iff_of_true (contactName_user store data) (.inl rfl)
  · exact fun _ _ hne => absurd rfl hne
  · exact fun _ hne => absurd rfl hne

/-- An unknown identity has no name. -/
theorem nameWellFormed_unknown (hunknown : data.lookup (L.toText identity) = none) :
    NameWellFormed store data identity := by
  have hkey : data.containsKey (L.toText identity) = false := by
    rw [ContactMap.containsKey, hunknown, Option.isSome_none]
  refine ⟨?_, ?_, ?_⟩
  · exact iff_of_true (contactName_unknown hunknown) (.inr (.inl hkey))
  · intro stored nickname _ hstored
    rw [hunknown] at hstored
    cases hstored
  · intro stored _ hstored
    rw [hunknown] at hstored
    cases hstored

/-- A stored contact other than the user has no name when its fields are blank. -/
theorem nameless_iff (huser : identity ≠ store.userIdentity)
    (hstored : data.lookup (L.toText identity) = some stored) :
    (identity = store.userIdentity ∨ data.containsKey (L.toText identity) = false ∨
      ∃ stored, data.lookup (L.toText identity) = some stored ∧ stored.Nameless) ↔
    stored.Nameless := by
  simp [huser, ContactMap.containsKey, hstored]

/-- The name of a stored contact with a nickname is well formed. -/
theorem nameWellFormed_nickname {nickname : String} (huser : identity ≠ store.userIdentity)
    (hstored : data.lookup (L.toText identity) = some stored)
    (hnickname : stored.nickname.filter (fun name => !name.isEmpty) = some nickname)
    (hname : contactName store data identity = some nickname) :
    NameWellFormed store data identity := by
  have hnonblank : ¬ Blank stored.nickname := by
    rw [← filter_nickname_eq_none, hnickname]
    exact Option.some_ne_none nickname
  obtain ⟨hsome, -⟩ := Option.filter_eq_some_iff.mp hnickname
  refine ⟨?_, ?_, ?_⟩
  · rw [nameless_iff huser hstored, hname]
    exact iff_of_false (Option.some_ne_none nickname) fun hnameless => hnonblank hnameless.1
  · intro other name _ hother hothername _
    obtain rfl := Option.some.inj (hstored.symm.trans hother)
    rw [hname, ← hsome, hothername]
  · intro other _ hother hblank
    obtain rfl := Option.some.inj (hstored.symm.trans hother)
    exact absurd hblank hnonblank

/-- The name of a stored contact without a nickname is well formed when the
parts of its full name are filled, and only then. -/
theorem nameWellFormed_fullName_iff (huser : identity ≠ store.userIdentity)
    (hstored : data.lookup (L.toText identity) = some stored) (hblank : Blank stored.nickname)
    (hname : contactName store data identity =
      if " ".intercalate stored.nameParts = "" then none
      else some (" ".intercalate stored.nameParts)) :
    NameWellFormed store data identity ↔ stored.PartsFilled := by
  constructor
  · intro hwell
    rw [← StoredContact.intercalate_nameParts_iff]
    by_cases hparts : Blank stored.firstName ∧ Blank stored.lastName
    · have hnone := hwell.none_iff.mpr ((nameless_iff huser hstored).mpr ⟨hblank, hparts⟩)
      have hempty : " ".intercalate stored.nameParts = "" := by
        simpa [hname] using hnone
      rw [StoredContact.filter_nameParts_eq_nil.mpr hparts, String.intercalate_nil, hempty]
    · have hfull := hwell.fullName stored huser hstored hblank fun hnameless =>
        hparts hnameless.2
      rw [hname] at hfull
      split at hfull
      next => cases hfull
      next => exact (Option.some.inj hfull).symm
  · intro hfilled
    have hempty := StoredContact.intercalate_nameParts_eq_empty hfilled
    refine ⟨?_, ?_, ?_⟩
    · rw [nameless_iff huser hstored, hname, StoredContact.Nameless, and_iff_right hblank, ← hempty]
      simp
    · intro other nickname _ hother hnickname hne
      obtain rfl := Option.some.inj (hstored.symm.trans hother)
      rcases hblank with hnone | hsome
      · rw [hnone] at hnickname
        cases hnickname
      · rw [hsome] at hnickname
        exact absurd (Option.some.inj hnickname).symm hne
    · intro other _ hother _ hnamed
      obtain rfl := Option.some.inj (hstored.symm.trans hother)
      rw [hname, StoredContact.intercalate_nameParts_iff.mpr hfilled]
      exact if_neg fun hnone => hnamed ⟨hblank, hempty.mp hnone⟩

end

/-- The name of an identity in a store that calls can reach is well formed
unless it is a full name with an empty part next to another part, and only
then. -/
theorem contactName_wellFormed_iff (serde : Serde ContactMap) (store : ContactStore L)
    (data : ContactMap) (h : store.Reachable serde data) (identity : L.ThreemaId) :
    NameWellFormed store data identity ↔
      (identity = store.userIdentity ∨ ∀ stored, data.lookup (L.toText identity) = some stored →
        Blank stored.nickname → stored.PartsFilled) := by
  by_cases huser : identity = store.userIdentity
  · subst huser
    exact iff_of_true (nameWellFormed_user store data) (.inl rfl)
  · rw [or_iff_right huser]
    cases hstored : data.lookup (L.toText identity) with
    | none =>
        refine iff_of_true (nameWellFormed_unknown hstored) ?_
        intro other hother
        cases hother
    | some stored =>
        have hname := contactName_stored huser hstored (h.fromHex _ stored hstored)
        cases hnickname : stored.nickname.filter fun name => !name.isEmpty with
        | none =>
            rw [hnickname] at hname
            have hblank := filter_nickname_eq_none.mp hnickname
            rw [nameWellFormed_fullName_iff huser hstored hblank hname]
            simp [hblank]
        | some nickname =>
            rw [hnickname] at hname
            refine iff_of_true (nameWellFormed_nickname huser hstored hnickname hname) ?_
            intro other hother hblank
            cases hother
            rw [filter_nickname_eq_none.mpr hblank] at hnickname
            cases hnickname

/-! ### Full names of one contact -/

namespace FullName

open Rename (store)

/-- `ECHOECHO` gets a full name and loses its nickname. -/
def setFullName (first last : String) :
    ContactUpdate (Libthreema.sample fun _ => .error "no envelope") :=
  { Rename.rename Identities.echo with
    firstName := .update first
    lastName := .update last
    nickname := .remove }

/-- The store after `ECHOECHO` was added. -/
def added : ContactMap :=
  ((store.call Encodings.sample.contactMap 0 (.add [.sample Identities.echo])).run
    ⟨∅, fun _ => none, []⟩).2.memory

/-- The store after `ECHOECHO` was added and updated. -/
def named (first last : String) : ContactMap :=
  ((store.call Encodings.sample.contactMap 0 (.update [setFullName first last])).run
    ⟨added, fun _ => none, []⟩).2.memory

theorem reachable_named (first last : String) :
    store.Reachable Encodings.sample.contactMap (named first last) :=
  .call (.call .empty 0 _ _ _) 0 _ _ _

theorem lookup_named (first last : String) :
    (named first last).lookup "ECHOECHO" = some { StoredContact.fromContact
      (Contact.sample Identities.echo : Contact (Libthreema.sample fun _ => .error "no envelope"))
      with firstName := some first, lastName := some last, nickname := none } := by
  rfl

end FullName

open FullName Rename in
/-- A full name with two parts. -/
theorem contactName_wellFormed_ada :
    contactName store (named "Ada" "Lovelace") Identities.echo = some "Ada Lovelace" ∧
      NameWellFormed store (named "Ada" "Lovelace") Identities.echo := by
  refine ⟨by decide, ?_⟩
  refine (contactName_wellFormed_iff _ store _ (reachable_named _ _) _).mpr (.inr ?_)
  intro stored hstored _ first last hfirst hlast
  obtain rfl := Option.some.inj ((lookup_named _ _).symm.trans hstored)
  cases hfirst
  cases hlast
  exact ⟨by decide, by decide⟩

open FullName Rename in
/-- Two empty parts give a name that is a separator. -/
theorem contactName_separator :
    store.Reachable Encodings.sample.contactMap (named "" "") ∧
      contactName store (named "" "") Identities.echo = some " " ∧
      ¬ NameWellFormed store (named "" "") Identities.echo := by
  have hname : contactName store (named "" "") Identities.echo = some " " := by decide
  refine ⟨reachable_named _ _, hname, ?_⟩
  intro hwell
  have hnone := hwell.none_iff.mpr
    (.inr (.inr ⟨_, lookup_named _ _, .inl rfl, .inr rfl, .inr rfl⟩))
  rw [hname] at hnone
  cases hnone

end MultideviceClient
