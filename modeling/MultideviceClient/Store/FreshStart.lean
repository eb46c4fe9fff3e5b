import MultideviceClient.Store.StateDir

/-!
# Fresh starts

`load_json` takes a file that is not there for a fresh start and gives the
default.  It finds out by `Path::exists`, which also answers no when the probe
fails, or when the directory entry is a link that leads nowhere.  A read that
fails and a content that does not parse are errors.

*Loads.*  A load that gives a store gives exactly what is stored, unless its
probe fails to recognise the entry (`loadStore_exact_iff`).

*Runs.*  A store that was mistaken for a new one is written over the file by the
next mutation.  When every restart of a run recognises the entries it probes, no
file is ever replaced by one that has forgotten a nonce or a contact
(`loads_exact_iff`).
-/

namespace MultideviceClient

open Foundations

variable {L : Libthreema}

/-! ## Directory entries -/

/-- What a directory has under a name.  What can never be read, such as another
directory, is a file whose reads fail. -/
inductive DirEntry where
  /-- A file, or a link that leads to one. -/
  | file (content : Bytes)
  /-- A link that leads nowhere. -/
  | brokenLink
deriving DecidableEq, Repr

/-- What a system call finds behind an entry. -/
def DirEntry.content : DirEntry → Option Bytes
  | .file content => some content
  | .brokenLink => none

/-- The entries of the state directory. -/
abbrev Listing := Path → Option DirEntry

namespace Listing

/-- What system calls find under the names. -/
def disk (dir : Listing) : Disk Path := fun path => (dir path).bind DirEntry.content

/-- The entry under a name at a later time.  A broken link stays until a write
replaces it by a file. -/
def entry (dir : Listing) (disk : Disk Path) (path : Path) : Option DirEntry :=
  match disk path with
  | some content => some (.file content)
  | none => (dir path).filter fun entry => entry = .brokenLink

theorem entry_content (dir : Listing) (disk : Disk Path) (path : Path) :
    (dir.entry disk path).bind DirEntry.content = disk path := by
  unfold entry
  cases disk path with
  | some content => rfl
  | none => rcases dir path with _ | _ | _ <;> rfl

/-- A write leaves the entry, or puts a file in its place. -/
theorem entry_apply (dir : Listing) (disk : Disk Path) (path : Path) (text : Bytes) (fate : Fate) :
    dir.entry (fate.apply path text disk) path =
      if fate = .replaced then some (.file text) else dir.entry disk path := by
  simp only [entry, Fate.apply_path]
  by_cases hfate : fate = .replaced
  · simp only [if_pos hfate]
  · simp only [if_neg hfate]

theorem entry_apply_other (dir : Listing) (disk : Disk Path) (path : Path) (text : Bytes)
    (fate : Fate) {other : Path} (h : other ≠ path) (htmp : other ≠ path.tmp) :
    dir.entry (fate.apply path text disk) other = dir.entry disk other := by
  simp only [entry, Fate.apply_other path text fate disk h htmp]

end Listing

/-! ## Loads -/

section

variable {α β : Type} (serde : Serde α) (default : α)

/-- The load gives no store, or exactly what the entry holds. -/
def LoadsExactly (entry : Option DirEntry) (result : Outcome String β × World α Path) : Prop :=
  result.1.isOk = true → ∀ e, entry = some e →
    ∃ content, e = .file content ∧ serde.fromSlice content = .ok result.2.memory

/-- The probe takes an entry for one, or nothing comes of it: the process is
killed in the probe, or the file holds the default. -/
def Recognises : Verdict → DirEntry → Prop
  | .kill _, _ => True
  | _, .brokenLink => False
  | .ok, .file _ => True
  | .fail _ _, .file content => serde.fromSlice content = .ok default

/-- The verdicts that a load leaves to later calls, if it gives a store. -/
def verdictsLeft (file : Option Bytes) (verdicts : List Verdict) : Option (List Verdict) :=
  match verdicts.headD .ok, file with
  | .kill _, _ => none
  | .ok, some content =>
      if verdicts.tail.headD .ok = .ok ∧ (serde.fromSlice content).isOk then
        some verdicts.tail.tail
      else none
  | _, _ => some verdicts.tail

/-- A load gives a store exactly when it leaves verdicts, and never changes the
disk. -/
theorem verdictsLeft_eq (path : Path) (handle : β) (w : World α Path) :
    ((loadStore serde default path handle).run w).2.disk = w.disk ∧
      verdictsLeft serde (w.disk path) w.verdicts =
        if ((loadStore serde default path handle).run w).1.isOk then
          some ((loadStore serde default path handle).run w).2.verdicts
        else none := by
  unfold verdictsLeft
  rw [run_loadStore]
  cases hprobe : w.verdicts.headD .ok with
  | kill written => exact ⟨rfl, rfl⟩
  | fail written message => exact ⟨rfl, rfl⟩
  | ok =>
      cases hfile : w.disk path with
      | none => exact ⟨rfl, rfl⟩
      | some content =>
          cases hread : w.verdicts.tail.headD .ok with
          | kill written => exact ⟨rfl, rfl⟩
          | fail written message => exact ⟨rfl, rfl⟩
          | ok =>
              cases hparse : serde.fromSlice content with
              | error e => simp [hparse, Outcome.isOk, Except.isOk, Except.toBool]
              | ok data => simp [hparse, Outcome.isOk, Except.isOk, Except.toBool]

/-- A load that finds the file gives no store, or what the file holds. -/
theorem fromSlice_of_isOk (path : Path) (handle : β) {w : World α Path} {content : Bytes}
    (hprobe : w.verdicts.headD .ok = .ok) (hfile : w.disk path = some content)
    (hok : ((loadStore serde default path handle).run w).1.isOk = true) :
    serde.fromSlice content = .ok ((loadStore serde default path handle).run w).2.memory := by
  simp only [run_loadStore, hprobe, hfile] at hok ⊢
  cases hread : w.verdicts.tail.headD .ok with
  | kill written =>
      rw [hread] at hok
      cases hok
  | fail written message =>
      rw [hread] at hok
      cases hok
  | ok =>
      cases hparse : serde.fromSlice content with
      | error e =>
          rw [hread, hparse] at hok
          cases hok
      | ok data => rfl

/-- A load is exact when its probe recognises the entry, and only then. -/
theorem loadStore_exact_iff (path : Path) (handle : β) (w : World α Path)
    {entry : Option DirEntry} (hentry : entry.bind DirEntry.content = w.disk path) :
    LoadsExactly serde entry ((loadStore serde default path handle).run w) ↔
      ∀ e, entry = some e → Recognises serde default (w.verdicts.headD .ok) e := by
  cases hprobe : w.verdicts.headD .ok with
  | kill written =>
      rw [run_loadStore, hprobe]
      exact iff_of_true nofun fun _ _ => trivial
  | fail written message =>
      rw [run_loadStore, hprobe]
      constructor
      · intro h e he
        obtain ⟨content, rfl, hparse⟩ := h rfl e he
        exact hparse
      · intro h _ e he
        have hrecognised := h e he
        cases e with
        | brokenLink => cases hrecognised
        | file content => exact ⟨content, rfl, hrecognised⟩
  | ok =>
      rcases entry with _ | content | _
      · exact iff_of_true (fun _ e he => nomatch he) fun e he => nomatch he
      · refine iff_of_true ?_ ?_
        · intro hok e he
          cases he
          exact ⟨content, rfl, fromSlice_of_isOk serde default path handle hprobe hentry.symm hok⟩
        · intro e he
          cases he
          trivial
      · rw [run_loadStore, hprobe, ← hentry]
        refine iff_of_false ?_ fun h => h .brokenLink rfl
        intro h
        obtain ⟨content, heq, -⟩ := h rfl .brokenLink rfl
        cases heq

/-! ## What files keep -/

/-- What becomes of an entry: it stays, or a file is replaced by one that has
everything of it.  `le` compares the values. -/
inductive Keeps (le : α → α → Prop) : Option DirEntry → Option DirEntry → Prop where
  | fresh (entry : Option DirEntry) : Keeps le none entry
  | same (entry : Option DirEntry) : Keeps le entry entry
  | grown {content content' : Bytes} {data data' : α} (h : serde.fromSlice content = .ok data)
      (h' : serde.fromSlice content' = .ok data') (hle : le data data') :
      Keeps le (some (.file content)) (some (.file content'))

/-- The memory has everything of the entry, if there is one. -/
def Covers (le : α → α → Prop) (entry : Option DirEntry) (memory : α) : Prop :=
  ∀ e, entry = some e →
    ∃ content data, e = .file content ∧ serde.fromSlice content = .ok data ∧ le data memory

variable {serde} {le : α → α → Prop}

theorem Keeps.trans (htrans : ∀ a b c, le a b → le b c → le a c) {a b c : Option DirEntry}
    (hab : Keeps serde le a b) (hbc : Keeps serde le b c) : Keeps serde le a c := by
  cases hab with
  | fresh entry => exact .fresh c
  | same entry => exact hbc
  | grown h h' hle =>
      cases hbc with
      | same entry => exact .grown h h' hle
      | grown h₂ h₂' hle₂ =>
          obtain rfl := Except.ok.inj (h'.symm.trans h₂)
          exact .grown h h₂' (htrans _ _ _ hle hle₂)

/-- A load that is exact covers the entry. -/
theorem LoadsExactly.covers (hrefl : ∀ a, le a a) {entry : Option DirEntry}
    {result : Outcome String β × World α Path} (h : LoadsExactly serde entry result)
    (hok : result.1.isOk = true) : Covers serde le entry result.2.memory := by
  intro e he
  obtain ⟨content, hcontent, hparse⟩ := h hok e he
  exact ⟨content, _, hcontent, hparse, hrefl _⟩

/-- A write of a memory that covers the entry, and has grown since, keeps the
entry and covers the new one. -/
theorem Covers.write (hrefl : ∀ a, le a a) (htrans : ∀ a b c, le a b → le b c → le a c)
    {entry entry' : Option DirEntry} {memory memory' : α} {order : Nat} {fate : Fate}
    (h : Covers serde le entry memory) (hgrown : le memory memory')
    (hentry : entry' =
      if fate = .replaced then some (.file (serde.toWriterPretty order memory')) else entry) :
    Covers serde le entry' memory' ∧ Keeps serde le entry entry' := by
  by_cases hfate : fate = .replaced
  · rw [if_pos hfate] at hentry
    subst hentry
    have hparse := serde.fromSlice_toWriterPretty order memory'
    refine ⟨?_, ?_⟩
    · intro e he
      cases he
      exact ⟨_, memory', rfl, hparse, hrefl memory'⟩
    · cases entry with
      | none => exact .fresh _
      | some e =>
          obtain ⟨content, data, rfl, hdata, hle⟩ := h e rfl
          exact .grown hdata hparse (htrans data memory memory' hle hgrown)
  · rw [if_neg hfate] at hentry
    subst hentry
    refine ⟨?_, .same _⟩
    intro e he
    obtain ⟨content, data, hcontent, hdata, hle⟩ := h e he
    exact ⟨content, data, hcontent, hdata, htrans data memory memory' hle hgrown⟩

end

/-- No scope has lost a nonce. -/
def NonceFile.Within (data data' : NonceFile) : Prop :=
  ∀ scope, data.scope scope ⊆ data'.scope scope

/-- No contact is lost. -/
def ContactMap.Within (data data' : ContactMap) : Prop :=
  ∀ key, data.containsKey key = true → data'.containsKey key = true

theorem NonceFile.Within.refl (a : NonceFile) : a.Within a :=
  fun _ => Finset.Subset.refl _

theorem NonceFile.Within.trans (a b c : NonceFile) (hab : a.Within b) (hbc : b.Within c) :
    a.Within c :=
  fun scope => (hab scope).trans (hbc scope)

theorem ContactMap.Within.refl (a : ContactMap) : ContactMap.Within a a :=
  fun _ h => h

theorem ContactMap.Within.trans (a b c : ContactMap) (hab : ContactMap.Within a b)
    (hbc : ContactMap.Within b c) : ContactMap.Within a c :=
  fun key h => hbc key (hab key h)

/-! ## Runs -/

namespace StateDir

variable (enc : Encodings) (config : StateConfig L) (dir : Listing)

/-- What a start loads is exact. -/
def StartsExactly (s : StateDir) : StateDirOp L → Prop
  | .restart verdicts =>
      let nonces := (NonceStore.load enc.nonceFile config.noncesPath).run
        ⟨s.nonces, s.disk, verdicts⟩
      LoadsExactly enc.nonceFile (dir.entry s.disk config.noncesPath) nonces ∧
        (nonces.1.isOk = true →
          LoadsExactly enc.contactMap (dir.entry s.disk config.contactsPath)
            ((ContactStore.load enc.contactMap config.contactsPath config.userIdentity).run
              ⟨s.contacts, nonces.2.disk, nonces.2.verdicts⟩))
  | _ => True

/-- The probe of every load of a start recognises the entry. -/
def StartRecognises (s : StateDir) : StateDirOp L → Prop
  | .restart verdicts =>
      (∀ e, dir.entry s.disk config.noncesPath = some e →
        Recognises enc.nonceFile {} (verdicts.headD .ok) e) ∧
      ∀ left, verdictsLeft enc.nonceFile (s.disk config.noncesPath) verdicts = some left →
        ∀ e, dir.entry s.disk config.contactsPath = some e →
          Recognises enc.contactMap ∅ (left.headD .ok) e
  | _ => True

/-- Neither file has forgotten anything. -/
structure KeepsFiles (s s' : StateDir) : Prop where
  nonces : Keeps enc.nonceFile NonceFile.Within (dir.entry s.disk config.noncesPath)
    (dir.entry s'.disk config.noncesPath)
  contacts : Keeps enc.contactMap ContactMap.Within (dir.entry s.disk config.contactsPath)
    (dir.entry s'.disk config.contactsPath)

theorem KeepsFiles.refl (s : StateDir) : s.KeepsFiles enc config dir s :=
  ⟨.same _, .same _⟩

variable {enc config dir} in
theorem KeepsFiles.trans {a b c : StateDir} (hab : a.KeepsFiles enc config dir b)
    (hbc : b.KeepsFiles enc config dir c) : a.KeepsFiles enc config dir c :=
  ⟨hab.nonces.trans NonceFile.Within.trans hbc.nonces,
    hab.contacts.trans ContactMap.Within.trans hbc.contacts⟩

/-- The process has everything of both files. -/
structure Backed (s : StateDir) : Prop where
  nonces : Covers enc.nonceFile NonceFile.Within (dir.entry s.disk config.noncesPath) s.nonces
  contacts : Covers enc.contactMap ContactMap.Within (dir.entry s.disk config.contactsPath)
    s.contacts

variable {enc config dir}

/-- A start is exact when it recognises the entries it probes, and only then. -/
theorem startsExactly_iff (s : StateDir) (op : StateDirOp L) :
    s.StartsExactly enc config dir op ↔ s.StartRecognises enc config dir op := by
  cases op with
  | contacts call order verdicts => exact Iff.rfl
  | nonces scope nonces order verdicts => exact Iff.rfl
  | restart verdicts =>
      obtain ⟨hdisk, hleft⟩ := verdictsLeft_eq enc.nonceFile {} config.noncesPath
        (NonceStore.mk config.noncesPath) ⟨s.nonces, s.disk, verdicts⟩
      have hnonces := loadStore_exact_iff enc.nonceFile {} config.noncesPath
        (NonceStore.mk config.noncesPath) ⟨s.nonces, s.disk, verdicts⟩
        (dir.entry_content s.disk config.noncesPath)
      simp only [StartsExactly, StartRecognises, NonceStore.load, ContactStore.load]
      generalize (loadStore enc.nonceFile {} config.noncesPath
        (NonceStore.mk config.noncesPath)).run ⟨s.nonces, s.disk, verdicts⟩ = result
        at hdisk hleft hnonces ⊢
      refine and_congr hnonces ?_
      rw [hleft]
      cases result.1.isOk with
      | false => simp
      | true =>
          have hcontacts := loadStore_exact_iff enc.contactMap ∅ config.contactsPath
            (ContactStore.mk config.contactsPath config.userIdentity)
            ⟨s.contacts, result.2.disk, result.2.verdicts⟩
            (by rw [hdisk]; exact dir.entry_content s.disk config.contactsPath)
          simpa using hcontacts

/-- A start leaves the disk. -/
theorem start_disk (s : StateDir) (verdicts : List Verdict) :
    (s.start enc config verdicts).disk = s.disk := by
  obtain ⟨loaded, hstart, -⟩ := start_spec enc config (s.disk config.noncesPath)
    (s.disk config.contactsPath) verdicts
  rw [hstart s rfl rfl]
  exact (s.started_disk loaded).1

/-- A process that an exact start gives has everything of both files. -/
theorem start_backed {s : StateDir} {verdicts : List Verdict}
    (h : s.StartsExactly enc config dir (.restart verdicts))
    (halive : (s.start enc config verdicts).alive = true) :
    (s.start enc config verdicts).Backed enc config dir := by
  obtain ⟨hnonces, hcontacts⟩ := h
  suffices Covers enc.nonceFile NonceFile.Within (dir.entry s.disk config.noncesPath)
        (s.start enc config verdicts).nonces ∧
      Covers enc.contactMap ContactMap.Within (dir.entry s.disk config.contactsPath)
        (s.start enc config verdicts).contacts by
    rw [← start_disk s verdicts] at this
    exact ⟨this.1, this.2⟩
  unfold start at halive ⊢
  generalize (NonceStore.load enc.nonceFile config.noncesPath).run
    ⟨s.nonces, s.disk, verdicts⟩ = nonces at hnonces hcontacts halive ⊢
  obtain ⟨outcome, w⟩ := nonces
  cases outcome with
  | error e => cases halive
  | killed => cases halive
  | ok store =>
      have hcontacts := hcontacts rfl
      simp only at hcontacts halive ⊢
      generalize (ContactStore.load enc.contactMap config.contactsPath config.userIdentity).run
        ⟨s.contacts, w.disk, w.verdicts⟩ = contacts at hcontacts halive ⊢
      obtain ⟨outcome', w'⟩ := contacts
      cases outcome' with
      | error e => cases halive
      | killed => cases halive
      | ok store' => exact ⟨hnonces.covers NonceFile.Within.refl rfl,
          hcontacts.covers ContactMap.Within.refl rfl⟩

variable (enc config dir) in
/-- The entries after a call on the nonce store. -/
theorem entry_wroteNonces (s : StateDir) (order : Nat) (data : NonceFile) (fate : Fate)
    (alive : Bool) :
    dir.entry (s.wroteNonces enc config order data fate alive).disk config.noncesPath =
        (if fate = .replaced then some (.file (enc.nonceFile.toWriterPretty order data))
          else dir.entry s.disk config.noncesPath) ∧
      dir.entry (s.wroteNonces enc config order data fate alive).disk config.contactsPath =
        dir.entry s.disk config.contactsPath := by
  obtain ⟨hne, hcontacts, -⟩ := config.paths_ne
  exact ⟨dir.entry_apply s.disk _ _ fate,
    dir.entry_apply_other s.disk _ _ fate hne.symm fun htmp => hcontacts (.inr htmp)⟩

variable (enc config dir) in
/-- The entries after a call on the contact store. -/
theorem entry_wroteContacts (s : StateDir) (order : Nat) (data : ContactMap) (fate : Fate)
    (alive : Bool) :
    dir.entry (s.wroteContacts enc config order data fate alive).disk config.contactsPath =
        (if fate = .replaced then some (.file (enc.contactMap.toWriterPretty order data))
          else dir.entry s.disk config.contactsPath) ∧
      dir.entry (s.wroteContacts enc config order data fate alive).disk config.noncesPath =
        dir.entry s.disk config.noncesPath := by
  obtain ⟨hne, -, hnonces⟩ := config.paths_ne
  exact ⟨dir.entry_apply s.disk _ _ fate,
    dir.entry_apply_other s.disk _ _ fate hne fun htmp => hnonces (.inl htmp)⟩

/-- A call on the contact store loses no contact of the memory. -/
theorem within_of_next_contacts {s s' : StateDir} {call : ContactCall L} {order : Nat}
    {verdicts : List Verdict}
    (hnext : s.next enc config (.contacts call order verdicts) = some s') :
    ContactMap.Within s.contacts s'.contacts := by
  simp only [next, Option.ite_none_right_eq_some] at hnext
  obtain ⟨-, heq⟩ := hnext
  cases heq
  intro key hkey
  show (s.runContacts enc config call order verdicts).2.memory.containsKey key = true
  rw [runContacts, ContactStore.call_memory]
  exact ContactCall.containsKey_apply _ hkey

/-- Every step from a process that has everything of both files keeps both. -/
theorem Backed.step {s s' : StateDir} {op : StateDirOp L}
    (h : s.alive = true → s.Backed enc config dir) (hop : s.StartRecognises enc config dir op)
    (hnext : s.next enc config op = some s') :
    (s'.alive = true → s'.Backed enc config dir) ∧ s.KeepsFiles enc config dir s' := by
  cases op with
  | contacts call order verdicts =>
      have hgrown := within_of_next_contacts hnext
      obtain ⟨halive, data', fate, alive, rfl⟩ := wroteContacts_of_next hnext
      obtain ⟨hnonces, hcontacts⟩ := h halive
      obtain ⟨hwritten, hother⟩ :=
        s.entry_wroteContacts enc config dir order data' fate alive
      obtain ⟨hcovers, hkeeps⟩ := hcontacts.write ContactMap.Within.refl ContactMap.Within.trans
        hgrown hwritten
      exact ⟨fun _ => ⟨hother ▸ hnonces, hcovers⟩, hother ▸ .same _, hkeeps⟩
  | nonces scope nonces order verdicts =>
      obtain ⟨halive, fate, alive, rfl, -⟩ := wroteNonces_of_next hnext
      obtain ⟨hnonces, hcontacts⟩ := h halive
      have hgrown : s.nonces.Within (s.nonces.extend scope
          (nonces.map fun nonce => enc.hex.encode nonce.val)) :=
        fun scope text hmem => NonceFile.mem_scope_extend.mpr (.inl hmem)
      obtain ⟨hwritten, hother⟩ := s.entry_wroteNonces enc config dir order _ fate alive
      obtain ⟨hcovers, hkeeps⟩ := hnonces.write NonceFile.Within.refl NonceFile.Within.trans
        hgrown hwritten
      exact ⟨fun _ => ⟨hcovers, hother ▸ hcontacts⟩, hkeeps, hother ▸ .same _⟩
  | restart verdicts =>
      cases hnext
      have hexact := (startsExactly_iff s (.restart verdicts)).mpr hop
      refine ⟨start_backed hexact, ?_, ?_⟩
      · rw [start_disk]
        exact .same _
      · rw [start_disk]
        exact .same _

end StateDir

/-- A load of either file gives exactly what is stored when its probe recognises
the entry, and only then.  In a run from any listing, all loads are exact and no
file forgets anything when the probe of every load recognises the entry, and
only then. -/
theorem loads_exact_iff (enc : Encodings) (config : StateConfig L) (dir : Listing) :
    (∀ (path : Path) memory verdicts,
      LoadsExactly enc.nonceFile (dir path)
          ((NonceStore.load enc.nonceFile path).run ⟨memory, dir.disk, verdicts⟩) ↔
        ∀ entry, dir path = some entry →
          Recognises enc.nonceFile {} (verdicts.headD .ok) entry) ∧
    (∀ (path : Path) memory verdicts,
      LoadsExactly enc.contactMap (dir path)
          ((ContactStore.load enc.contactMap path config.userIdentity).run
            ⟨memory, dir.disk, verdicts⟩) ↔
        ∀ entry, dir path = some entry →
          Recognises enc.contactMap ∅ (verdicts.headD .ok) entry) ∧
    (∀ ops,
      (StateDir.machine enc config).Meets (StateDir.StartsExactly enc config dir)
            (.initial dir.disk) ops ∧
          (StateDir.machine enc config).Ascends (StateDir.KeepsFiles enc config dir)
            (.initial dir.disk) ops ↔
        (StateDir.machine enc config).Meets (StateDir.StartRecognises enc config dir)
          (.initial dir.disk) ops) := by
  refine ⟨?_, ?_, ?_⟩
  · intro path memory verdicts
    exact loadStore_exact_iff enc.nonceFile {} path _ ⟨memory, dir.disk, verdicts⟩ rfl
  · intro path memory verdicts
    exact loadStore_exact_iff enc.contactMap ∅ path _ ⟨memory, dir.disk, verdicts⟩ rfl
  · intro ops
    rw [Machine.meets_congr _ fun s op s' _ => StateDir.startsExactly_iff s op]
    refine and_iff_left_of_imp ?_
    intro hmeets
    have hinitial : (StateDir.initial dir.disk).alive = true →
        (StateDir.initial dir.disk).Backed enc config dir := by
      intro halive
      cases halive
    exact Machine.ascends_of_meets _ (I := fun s => s.alive = true → s.Backed enc config dir)
      (StateDir.KeepsFiles.refl enc config dir) (fun _ _ _ hab hbc => hab.trans hbc)
      (fun _ _ _ h hop hnext => StateDir.Backed.step h hop hnext) hinitial hmeets

/-! ### A nonce that is forgotten -/

namespace ForgottenNonce

/-- The file has the zero nonce. -/
def stored : NonceFile :=
  NonceFile.extend {} .cspE2e [Encodings.sample.hex.encode Nonce.zero.val]

/-- A directory with `nonces.json` and nothing else. -/
def dir : Listing := fun path =>
  if path = StateConfig.sample.noncesPath then
    some (.file (Encodings.sample.nonceFile.toWriterPretty 0 stored))
  else none

/-- The probe for `nonces.json` fails. -/
def denied : List Verdict := [.fail 0 "Permission denied (os error 13)"]

/-- A nonce of 24 ones. -/
def other : Nonce := ⟨List.replicate 24 1, by decide⟩

end ForgottenNonce

open ForgottenNonce in
/-- A load whose probe fails gives an empty store although the file has a nonce.
The next nonce replaces the file by one without it. -/
theorem loads_not_exact :
    let enc := Encodings.sample
    let config := StateConfig.sample
    ¬ LoadsExactly enc.nonceFile (dir config.noncesPath)
        ((NonceStore.load enc.nonceFile config.noncesPath).run ⟨{}, dir.disk, denied⟩) ∧
      ∃ s₁ s₂, (StateDir.initial dir.disk).next enc config (.restart denied) = some s₁ ∧
        s₁.next enc config (.nonces .d2x [other] 0 []) = some s₂ ∧
        s₁.alive = true ∧ s₁.nonceFile enc config = .ok stored ∧
        s₁.has enc config .cspE2e .zero = false ∧
        ∃ data, s₂.nonceFile enc config = .ok data ∧ ¬ stored.Within data := by
  intro enc config
  let s₁ : StateDir := (StateDir.initial dir.disk).start enc config denied
  let forgot : NonceFile := NonceFile.extend {} .d2x [enc.hex.encode other.val]
  have hstored : dir.disk config.noncesPath = some (enc.nonceFile.toWriterPretty 0 stored) :=
    rfl
  obtain ⟨fate, outcome, hstep, hallows⟩ := StateDir.next_nonces enc config {} .d2x [other] 0 []
  obtain ⟨houtcome, hnext⟩ := hstep s₁ rfl
  obtain rfl : outcome = .ok () := houtcome.symm
  obtain rfl : fate = .replaced := hallows
  refine ⟨?_, s₁, s₁.wroteNonces enc config 0 forgot .replaced true, rfl, hnext, rfl, ?_, ?_,
    forgot, ?_, ?_⟩
  · intro h
    obtain ⟨content, hcontent, hparse⟩ := h rfl _ rfl
    cases hcontent
    rw [enc.nonceFile.fromSlice_toWriterPretty] at hparse
    exact absurd (Except.ok.inj hparse) (by decide)
  · rw [StateDir.nonceFile, StateDir.start_disk]
    show parseFile enc.nonceFile {} config.noncesPath (dir.disk config.noncesPath) = .ok stored
    rw [hstored]
    exact parseFile_toWriterPretty enc.nonceFile {} config.noncesPath 0 stored
  · decide
  · rw [StateDir.wroteNonces_nonceFile]
    rfl
  · intro hwithin
    exact absurd (hwithin .cspE2e) (by decide)

end MultideviceClient
