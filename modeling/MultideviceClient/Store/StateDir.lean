import Mathlib.Data.Option.Basic
import MultideviceClient.Foundations.Machine
import MultideviceClient.Store.Encodings

/-!
# The state directory

The client keeps two files in one directory: `contacts.json` and `nonces.json`.
This module runs a process on the directory.  It makes calls on the contact
store and on scoped views of the nonce store, in any order.  Every system call
of a call meets a verdict, so a call can fail or the process can be killed in
it.  A process that was killed starts again and loads both files.

*Ghosts.*  `contactWrites` and `nonceWrites` record the writes whose rename took
effect, newest first, with the iteration order and the value written.

*Results.*  `stateDir_consistent`: each file is always what it was at the start
or what the last such write gave, and every call is atomic.  Temporary files
have no influence.  `nonces_replay`: the nonce store forgets no nonce of a
successful call, over failures and restarts, and makes none up.
-/

namespace MultideviceClient

open Foundations

variable {L : Libthreema}

/-! ## The machine -/

/-- What the configuration says about the stores. -/
structure StateConfig (L : Libthreema) where
  stateDir : String
  userIdentity : L.ThreemaId

namespace StateConfig

/-- `state_dir.join("contacts.json")`. -/
def contactsPath (config : StateConfig L) : Path :=
  ⟨config.stateDir, some (.utf8 "contacts.json")⟩

/-- `state_dir.join("nonces.json")`. -/
def noncesPath (config : StateConfig L) : Path :=
  ⟨config.stateDir, some (.utf8 "nonces.json")⟩

/-- The contact store that the client loads. -/
def contactStore (config : StateConfig L) : ContactStore L where
  path := config.contactsPath
  userIdentity := config.userIdentity

/-- The nonce store that the client loads. -/
def nonceStore (config : StateConfig L) : NonceStore where
  path := config.noncesPath

/-- The name is one of the two temporary files. -/
def IsTmp (config : StateConfig L) (path : Path) : Prop :=
  path = config.contactsPath.tmp ∨ path = config.noncesPath.tmp

/-- The four files of the directory have different names. -/
theorem paths_ne (config : StateConfig L) :
    config.noncesPath ≠ config.contactsPath ∧ ¬ config.IsTmp config.contactsPath ∧
      ¬ config.IsTmp config.noncesPath := by
  simp [contactsPath, noncesPath, IsTmp, Path.tmp, Path.withFileName, Path.fileNameText]

end StateConfig

/-- The directory, and the process that uses it. -/
structure StateDir where
  disk : Disk Path
  alive : Bool
  contacts : ContactMap
  nonces : NonceFile
  contactWrites : List (Nat × ContactMap)
  nonceWrites : List (Nat × NonceFile)

/-- What the process does, with the verdicts of the system calls it makes. -/
inductive StateDirOp (L : Libthreema) where
  /-- A call on a clone of the contact store. -/
  | contacts (call : ContactCall L) (order : Nat) (verdicts : List Verdict)
  /-- `add_many` on a view of the nonce store. -/
  | nonces (scope : NonceScope) (nonces : List Nonce) (order : Nat) (verdicts : List Verdict)
  /-- The process ends, if it is alive, and starts again. -/
  | restart (verdicts : List Verdict)

namespace StateDir

/-- A directory before the first start of a process. -/
def initial (disk : Disk Path) : StateDir where
  disk := disk
  alive := false
  contacts := ∅
  nonces := {}
  contactWrites := []
  nonceWrites := []

variable (enc : Encodings) (config : StateConfig L)

/-- A call on the contact store. -/
def runContacts (s : StateDir) (call : ContactCall L) (order : Nat) (verdicts : List Verdict) :
    Outcome ProviderError Unit × World ContactMap Path :=
  (config.contactStore.call enc.contactMap order call).run ⟨s.contacts, s.disk, verdicts⟩

/-- A call on a view of the nonce store. -/
def runNonces (s : StateDir) (scope : NonceScope) (nonces : List Nonce) (order : Nat)
    (verdicts : List Verdict) : Outcome ProviderError Unit × World NonceFile Path :=
  ((config.nonceStore.scoped scope).addMany enc.hex enc.nonceFile order nonces).run
    ⟨s.nonces, s.disk, verdicts⟩

/-- The start of a process: `run` loads the nonces first. -/
def start (s : StateDir) (verdicts : List Verdict) : StateDir :=
  match (NonceStore.load enc.nonceFile config.noncesPath).run ⟨s.nonces, s.disk, verdicts⟩ with
  | (.ok _, w) =>
      match (ContactStore.load enc.contactMap config.contactsPath config.userIdentity).run
          ⟨s.contacts, w.disk, w.verdicts⟩ with
      | (.ok _, w') =>
          { s with disk := w'.disk, alive := true, nonces := w.memory, contacts := w'.memory }
      | (_, w') => { s with disk := w'.disk, alive := false }
  | (_, w) => { s with disk := w.disk, alive := false }

/-- One operation.  A process that is not alive makes no call. -/
def next (s : StateDir) : StateDirOp L → Option StateDir
  | .contacts call order verdicts =>
      if s.alive then
        let (outcome, w) := s.runContacts enc config call order verdicts
        some { s with
          disk := w.disk
          contacts := w.memory
          alive := !outcome.isKilled
          contactWrites :=
            if call.valid config.userIdentity s.contacts && writeSucceeds verdicts then
              (order, w.memory) :: s.contactWrites
            else s.contactWrites }
      else none
  | .nonces scope nonces order verdicts =>
      if s.alive then
        let (outcome, w) := s.runNonces enc config scope nonces order verdicts
        some { s with
          disk := w.disk
          nonces := w.memory
          alive := !outcome.isKilled
          nonceWrites :=
            if writeSucceeds verdicts then (order, w.memory) :: s.nonceWrites
            else s.nonceWrites }
      else none
  | .restart verdicts => some (s.start enc config verdicts)

/-- Operations in any order. -/
def machine : Machine StateDir (StateDirOp L) where
  next := next enc config

/-! ## What an operation does -/

/-- The directory after the load of a process that started or not. -/
def started (s : StateDir) : Option (NonceFile × ContactMap) → StateDir
  | some (nonces, contacts) => { s with alive := true, nonces := nonces, contacts := contacts }
  | none => { s with alive := false }

/-- Everything a start does.  The two files and the verdicts decide it. -/
theorem start_spec (nonceFile contactFile : Option Bytes) (verdicts : List Verdict) :
    ∃ loaded : Option (NonceFile × ContactMap),
      (∀ s : StateDir, s.disk config.noncesPath = nonceFile →
        s.disk config.contactsPath = contactFile → s.start enc config verdicts = s.started loaded) ∧
      (∀ nonces contacts, loaded = some (nonces, contacts) →
        nonces = {} ∨ parseFile enc.nonceFile {} config.noncesPath nonceFile = .ok nonces) ∧
      (succeed 2 verdicts = true → ∀ nonces contacts, loaded = some (nonces, contacts) →
        parseFile enc.nonceFile {} config.noncesPath nonceFile = .ok nonces) := by
  obtain ⟨nonces, rest, hnonces, hfrom, hparse⟩ := loadStore_spec enc.nonceFile {}
    config.noncesPath (NonceStore.mk config.noncesPath) nonceFile verdicts
  obtain ⟨contacts, rest', hcontacts, -, -⟩ := loadStore_spec enc.contactMap ∅
    config.contactsPath (ContactStore.mk config.contactsPath config.userIdentity) contactFile rest
  have hstart : ∀ s : StateDir, s.disk config.noncesPath = nonceFile →
      s.disk config.contactsPath = contactFile →
      s.start enc config verdicts =
        s.started (nonces.bind fun nonces => contacts.map fun contacts => (nonces, contacts)) := by
    intro s hn hc
    obtain ⟨hok, hw⟩ := hnonces ⟨s.nonces, s.disk, verdicts⟩ hn rfl
    obtain ⟨hok', hw'⟩ := hcontacts ⟨s.contacts, s.disk, rest⟩ hc rfl
    simp only [start, NonceStore.load, ContactStore.load]
    generalize (loadStore enc.nonceFile {} config.noncesPath
      (NonceStore.mk config.noncesPath)).run ⟨s.nonces, s.disk, verdicts⟩ = result at hok hw ⊢
    obtain ⟨outcome, w⟩ := result
    obtain rfl : w = _ := hw
    cases nonces with
    | none => cases outcome <;> first | rfl | cases hok
    | some n =>
        cases outcome with
        | ok store =>
            simp only [Option.getD_some]
            generalize (loadStore enc.contactMap ∅ config.contactsPath
              (ContactStore.mk config.contactsPath config.userIdentity)).run
                ⟨s.contacts, s.disk, rest⟩ = result' at hok' hw' ⊢
            obtain ⟨outcome', w'⟩ := result'
            obtain rfl : w' = _ := hw'
            cases contacts <;> cases outcome' <;> first | rfl | cases hok'
        | error e => cases hok
        | killed => cases hok
  refine ⟨_, hstart, ?_, ?_⟩
  · intro n c h
    obtain ⟨n', hn', hc⟩ := Option.bind_eq_some_iff.mp h
    obtain ⟨c', -, heq⟩ := Option.map_eq_some_iff.mp hc
    cases heq
    exact hfrom n hn'
  · intro hsucceed n c h
    obtain ⟨n', hn', hc⟩ := Option.bind_eq_some_iff.mp h
    obtain ⟨c', -, heq⟩ := Option.map_eq_some_iff.mp hc
    cases heq
    exact (hparse hsucceed n).mp hn'

/-- The directory after a call on the contact store. -/
def wroteContacts (s : StateDir) (order : Nat) (data : ContactMap) (fate : Fate) (alive : Bool) :
    StateDir :=
  { s with
    disk := fate.apply config.contactsPath (enc.contactMap.toWriterPretty order data) s.disk
    contacts := data
    alive := alive
    contactWrites :=
      if fate = .replaced then (order, data) :: s.contactWrites else s.contactWrites }

/-- The directory after a call on the nonce store. -/
def wroteNonces (s : StateDir) (order : Nat) (data : NonceFile) (fate : Fate) (alive : Bool) :
    StateDir :=
  { s with
    disk := fate.apply config.noncesPath (enc.nonceFile.toWriterPretty order data) s.disk
    nonces := data
    alive := alive
    nonceWrites :=
      if fate = .replaced then (order, data) :: s.nonceWrites else s.nonceWrites }

/-- Everything a call on the contact store does.  The memory and the verdicts
decide it. -/
theorem next_contacts (data : ContactMap) (call : ContactCall L) (order : Nat)
    (verdicts : List Verdict) :
    ∃ (data' : ContactMap) (fate : Fate) (alive : Bool),
      ∀ s : StateDir, s.contacts = data →
        s.next enc config (.contacts call order verdicts) =
          if s.alive then some (s.wroteContacts enc config order data' fate alive) else none := by
  obtain ⟨data', fate, outcome, rest, hrun, -, hfate⟩ :=
    config.contactStore.call_saves enc.contactMap order call data verdicts
  refine ⟨data', fate, !outcome.isKilled, ?_⟩
  rintro s rfl
  have hcall : s.runContacts enc config call order verdicts = _ := hrun s.disk
  have hfate : fate = .replaced ↔
    (call.valid config.userIdentity s.contacts && writeSucceeds verdicts) = true := hfate
  simp only [next, hcall, ← hfate]
  rfl

/-- Everything `add_many` does.  The memory and the verdicts decide it. -/
theorem next_nonces (data : NonceFile) (scope : NonceScope) (nonces : List Nonce) (order : Nat)
    (verdicts : List Verdict) :
    ∃ (fate : Fate) (outcome : Outcome ProviderError Unit),
      (∀ s : StateDir, s.nonces = data →
        (s.runNonces enc config scope nonces order verdicts).1 = outcome ∧
        s.next enc config (.nonces scope nonces order verdicts) =
          if s.alive then some (s.wroteNonces enc config order
            (data.extend scope (nonces.map fun nonce => enc.hex.encode nonce.val)) fate
            !outcome.isKilled) else none) ∧
      fate.Allows outcome := by
  obtain ⟨fate, outcome, rest, hrun, hallows, hfate⟩ :=
    (config.nonceStore.scoped scope).addMany_fate enc.hex enc.nonceFile order nonces data verdicts
  refine ⟨fate, outcome, ?_, hallows⟩
  rintro s rfl
  have hcall : s.runNonces enc config scope nonces order verdicts = _ := hrun s.disk
  refine ⟨congrArg Prod.fst hcall, ?_⟩
  simp only [next, hcall, ← hfate]
  rfl

variable {enc config} in
/-- The state that a call on the contact store leaves. -/
theorem wroteContacts_of_next {s s' : StateDir} {call : ContactCall L} {order : Nat}
    {verdicts : List Verdict}
    (hnext : s.next enc config (.contacts call order verdicts) = some s') :
    s.alive = true ∧ ∃ (data' : ContactMap) (fate : Fate) (alive : Bool),
      s' = s.wroteContacts enc config order data' fate alive := by
  obtain ⟨data', fate, alive, hstep⟩ := next_contacts enc config s.contacts call order verdicts
  rw [hstep s rfl, Option.ite_none_right_eq_some] at hnext
  exact ⟨hnext.1, data', fate, alive, (Option.some.inj hnext.2).symm⟩

variable {enc config} in
/-- The state that `add_many` leaves. -/
theorem wroteNonces_of_next {s s' : StateDir} {scope : NonceScope} {nonces : List Nonce}
    {order : Nat} {verdicts : List Verdict}
    (hnext : s.next enc config (.nonces scope nonces order verdicts) = some s') :
    s.alive = true ∧ ∃ (fate : Fate) (alive : Bool),
      s' = s.wroteNonces enc config order
        (s.nonces.extend scope (nonces.map fun nonce => enc.hex.encode nonce.val)) fate alive ∧
      fate.Allows (s.runNonces enc config scope nonces order verdicts).1 := by
  obtain ⟨fate, outcome, hstep, hallows⟩ :=
    next_nonces enc config s.nonces scope nonces order verdicts
  obtain ⟨houtcome, hstep⟩ := hstep s rfl
  rw [hstep, Option.ite_none_right_eq_some] at hnext
  exact ⟨hnext.1, fate, _, (Option.some.inj hnext.2).symm, houtcome ▸ hallows⟩

variable {enc config} in
/-- The state that a restart leaves. -/
theorem started_of_next {s s' : StateDir} {verdicts : List Verdict}
    (hnext : s.next enc config (.restart verdicts) = some s') :
    ∃ loaded : Option (NonceFile × ContactMap), s' = s.started loaded ∧
      (∀ nonces contacts, loaded = some (nonces, contacts) → nonces = {} ∨
        parseFile enc.nonceFile {} config.noncesPath (s.disk config.noncesPath) = .ok nonces) ∧
      (succeed 2 verdicts = true → ∀ nonces contacts, loaded = some (nonces, contacts) →
        parseFile enc.nonceFile {} config.noncesPath (s.disk config.noncesPath) = .ok nonces) := by
  obtain ⟨loaded, hstart, hfrom, hparse⟩ := start_spec enc config (s.disk config.noncesPath)
    (s.disk config.contactsPath) verdicts
  exact ⟨loaded, (Option.some.inj hnext).symm.trans (hstart s rfl rfl), hfrom, hparse⟩

/-! ## Consistency -/

/-- What a file holds after the writes whose rename took effect. -/
def lastWritten {α : Type} (serde : Serde α) (atStart : Option Bytes) :
    List (Nat × α) → Option Bytes
  | [] => atStart
  | (order, data) :: _ => some (serde.toWriterPretty order data)

/-- Each file holds what it held on the disk at the start, or all of the last
write that took effect. -/
structure FilesWhole (disk : Disk Path) (s : StateDir) : Prop where
  contacts : s.disk config.contactsPath =
    lastWritten enc.contactMap (disk config.contactsPath) s.contactWrites
  nonces : s.disk config.noncesPath =
    lastWritten enc.nonceFile (disk config.noncesPath) s.nonceWrites

/-- Every call on one store is atomic and leaves the file of the other store
alone. -/
structure CallsAtomic (s : StateDir) : Prop where
  contacts : ∀ call order verdicts,
    Atomic enc.contactMap ∅ config.contactsPath s.disk
        (s.runContacts enc config call order verdicts) ∧
      (s.runContacts enc config call order verdicts).2.disk config.noncesPath =
        s.disk config.noncesPath
  nonces : ∀ scope nonces order verdicts,
    Atomic enc.nonceFile {} config.noncesPath s.disk
        (s.runNonces enc config scope nonces order verdicts) ∧
      (s.runNonces enc config scope nonces order verdicts).2.disk config.contactsPath =
        s.disk config.contactsPath

/-- The states differ in their temporary files only. -/
structure AgreeOffTmp (s s' : StateDir) : Prop where
  process : s' = { s with disk := s'.disk }
  disk : ∀ path, ¬ config.IsTmp path → s'.disk path = s.disk path

variable {enc config}

theorem callsAtomic (s : StateDir) : s.CallsAtomic enc config := by
  obtain ⟨hne, hcontacts, hnonces⟩ := config.paths_ne
  constructor
  · intro call order verdicts
    have h : Atomic enc.contactMap ∅ config.contactsPath s.disk
        (s.runContacts enc config call order verdicts) :=
      (config.contactStore.call_saves enc.contactMap order call s.contacts verdicts).atomic ∅ s.disk
    exact ⟨h, h.other _ hne fun htmp => hnonces (.inl htmp)⟩
  · intro scope nonces order verdicts
    have h : Atomic enc.nonceFile {} config.noncesPath s.disk
        (s.runNonces enc config scope nonces order verdicts) :=
      ((config.nonceStore.scoped scope).addMany_saves enc.hex enc.nonceFile order nonces
        s.nonces verdicts).atomic {} s.disk
    exact ⟨h, h.other _ hne.symm fun htmp => hcontacts (.inr htmp)⟩

/-- A write keeps a whole file whole. -/
theorem lastWritten_apply {α : Type} {serde : Serde α} {path : Path} {disk d : Disk Path}
    {writes : List (Nat × α)} (h : d path = lastWritten serde (disk path) writes) (fate : Fate)
    (order : Nat) (data : α) :
    fate.apply path (serde.toWriterPretty order data) d path =
      lastWritten serde (disk path)
        (if fate = .replaced then (order, data) :: writes else writes) := by
  rw [Fate.apply_path]
  by_cases hfate : fate = .replaced
  · rw [if_pos hfate, if_pos hfate]
    rfl
  · rw [if_neg hfate, if_neg hfate]
    exact h

/-- A load leaves the files. -/
theorem started_disk (s : StateDir) (loaded : Option (NonceFile × ContactMap)) :
    (s.started loaded).disk = s.disk ∧ (s.started loaded).contactWrites = s.contactWrites ∧
      (s.started loaded).nonceWrites = s.nonceWrites := by
  cases loaded <;> exact ⟨rfl, rfl, rfl⟩

/-- Every operation keeps the files whole. -/
theorem FilesWhole.step {disk : Disk Path} {s s' : StateDir} {op : StateDirOp L}
    (h : FilesWhole enc config disk s) (hnext : s.next enc config op = some s') :
    FilesWhole enc config disk s' := by
  obtain ⟨hne, hcontacts, hnonces⟩ := config.paths_ne
  cases op with
  | contacts call order verdicts =>
      obtain ⟨-, data', fate, alive, rfl⟩ := wroteContacts_of_next hnext
      refine ⟨lastWritten_apply h.contacts fate order data', ?_⟩
      exact (Fate.apply_other _ _ _ _ hne fun htmp => hnonces (.inl htmp)).trans h.nonces
  | nonces scope nonces order verdicts =>
      obtain ⟨-, fate, alive, rfl, -⟩ := wroteNonces_of_next hnext
      refine ⟨?_, lastWritten_apply h.nonces fate order _⟩
      exact (Fate.apply_other _ _ _ _ hne.symm fun htmp => hcontacts (.inr htmp)).trans h.contacts
  | restart verdicts =>
      obtain ⟨loaded, rfl, -⟩ := started_of_next hnext
      obtain ⟨hdisk, hcw, hnw⟩ := s.started_disk loaded
      refine ⟨?_, ?_⟩
      · rw [hdisk, hcw]
        exact h.contacts
      · rw [hdisk, hnw]
        exact h.nonces

/-- A write to disks that differ in temporary files leaves such disks. -/
theorem Fate.apply_agree {path : Path}
    (hpath : path = config.contactsPath ∨ path = config.noncesPath)
    {d d' : Disk Path} (h : ∀ other, ¬ config.IsTmp other → d' other = d other) (text : Bytes)
    (fate : Fate) (other : Path) (hother : ¬ config.IsTmp other) :
    fate.apply path text d' other = fate.apply path text d other := by
  have htmp : other ≠ path.tmp := by
    rintro rfl
    rcases hpath with rfl | rfl
    · exact hother (.inl rfl)
    · exact hother (.inr rfl)
  by_cases hne : other = path
  · subst hne
    rw [Fate.apply_path, Fate.apply_path, h other hother]
  · rw [Fate.apply_other _ _ _ _ hne htmp, Fate.apply_other _ _ _ _ hne htmp, h other hother]

/-- An operation cannot tell temporary files apart. -/
theorem AgreeOffTmp.next {s s' : StateDir} (h : AgreeOffTmp config s s') (op : StateDirOp L) :
    Option.Rel (AgreeOffTmp config) (s.next enc config op) (s'.next enc config op) := by
  obtain ⟨hne, hcontacts, hnonces⟩ := config.paths_ne
  have halive : s'.alive = s.alive := by rw [h.process]
  have hcdata : s'.contacts = s.contacts := by rw [h.process]
  have hndata : s'.nonces = s.nonces := by rw [h.process]
  cases op with
  | contacts call order verdicts =>
      obtain ⟨data', fate, alive, hstep⟩ :=
        next_contacts enc config s.contacts call order verdicts
      rw [hstep s rfl, hstep s' hcdata, halive]
      cases s.alive with
      | false => exact .none
      | true =>
          refine .some ⟨?_, Fate.apply_agree (.inl rfl) h.disk _ fate⟩
          rw [wroteContacts, h.process]
          rfl
  | nonces scope nonces order verdicts =>
      obtain ⟨fate, outcome, hstep, -⟩ :=
        next_nonces enc config s.nonces scope nonces order verdicts
      rw [(hstep s rfl).2, (hstep s' hndata).2, halive]
      cases s.alive with
      | false => exact .none
      | true =>
          refine .some ⟨?_, Fate.apply_agree (.inr rfl) h.disk _ fate⟩
          rw [wroteNonces, h.process]
          rfl
  | restart verdicts =>
      obtain ⟨loaded, hstart, -⟩ := start_spec enc config (s.disk config.noncesPath)
        (s.disk config.contactsPath) verdicts
      simp only [StateDir.next]
      rw [hstart s rfl rfl, hstart s' (h.disk _ hnonces) (h.disk _ hcontacts)]
      refine .some ⟨?_, ?_⟩
      · rw [h.process]
        cases loaded <;> rfl
      · rw [(s.started_disk loaded).1, (s'.started_disk loaded).1]
        exact h.disk

end StateDir

/-- In every state of every run, each file is as it was at the start or all of
the last write that took effect, and every call is atomic.  Temporary files have
no influence on a run. -/
theorem stateDir_consistent (enc : Encodings) (config : StateConfig L) (disk : Disk Path)
    (ops : List (StateDirOp L)) :
    (StateDir.machine enc config).Visits
        (fun s => s.FilesWhole enc config disk ∧ s.CallsAtomic enc config) (.initial disk) ops ∧
      ∀ s s' : StateDir, StateDir.AgreeOffTmp config s s' →
        Option.Rel (StateDir.AgreeOffTmp config) ((StateDir.machine enc config).exec s ops)
          ((StateDir.machine enc config).exec s' ops) := by
  refine ⟨?_, fun s s' h => Machine.exec_rel _ (fun _ _ op h => h.next op) h ops⟩
  have hwhole := (StateDir.machine enc config).visits_invariant
    (fun s op s' h hnext => StateDir.FilesWhole.step h hnext) ops
    (⟨rfl, rfl⟩ : (StateDir.initial disk).FilesWhole enc config disk)
  exact hwhole.mono _ fun s h => ⟨h, s.callsAtomic⟩

/-! ## Replay protection -/

/-- A restart finds out whether `nonces.json` is there and can read it. -/
def StateDirOp.Readable : StateDirOp L → Prop
  | .restart verdicts => succeed 2 verdicts = true
  | _ => True

/-- The operation adds the nonce to the scope, successfully or not. -/
def StateDirOp.Adds (scope : NonceScope) (nonce : Nonce) : StateDirOp L → Prop
  | .nonces added batch _ _ => added = scope ∧ nonce ∈ batch
  | _ => False

namespace StateDir

variable (enc : Encodings) (config : StateConfig L)

/-- `has` on a view of a scope. -/
def has (s : StateDir) (scope : NonceScope) (nonce : Nonce) : Bool :=
  (config.nonceStore.scoped scope).has enc.hex s.nonces nonce

/-- What a load of `nonces.json` finds. -/
def nonceFile (s : StateDir) : Except String NonceFile :=
  parseFile enc.nonceFile {} config.noncesPath (s.disk config.noncesPath)

/-- The process has the text in the scope, and a new process will. -/
structure Retains (scope : NonceScope) (text : String) (s : StateDir) : Prop where
  memory : s.alive = true → text ∈ s.nonces.scope scope
  file : ∃ data, s.nonceFile enc config = .ok data ∧ text ∈ data.scope scope

/-- Neither the memory nor the file has the text in the scope. -/
structure Lacks (scope : NonceScope) (text : String) (s : StateDir) : Prop where
  memory : text ∉ s.nonces.scope scope
  file : ∀ data, s.nonceFile enc config = .ok data → text ∉ data.scope scope

variable {enc config}

theorem has_eq_true {s : StateDir} {scope : NonceScope} {nonce : Nonce} :
    s.has enc config scope nonce = true ↔ enc.hex.encode nonce.val ∈ s.nonces.scope scope :=
  ScopedNonceStore.has_eq_true enc.hex _ s.nonces nonce

variable (enc config) in
/-- A call on the contact store leaves the nonces. -/
theorem wroteContacts_nonces (s : StateDir) (order : Nat) (data : ContactMap) (fate : Fate)
    (alive : Bool) :
    (s.wroteContacts enc config order data fate alive).nonces = s.nonces ∧
      (s.wroteContacts enc config order data fate alive).nonceFile enc config =
        s.nonceFile enc config := by
  obtain ⟨hne, hcontacts, hnonces⟩ := config.paths_ne
  refine ⟨rfl, ?_⟩
  have hfile := Fate.apply_other config.contactsPath (enc.contactMap.toWriterPretty order data)
    fate s.disk hne fun htmp => hnonces (.inl htmp)
  simp only [nonceFile, wroteContacts, hfile]

/-- A call on the nonce store leaves its value in the file, or the file. -/
theorem wroteNonces_nonceFile (s : StateDir) (order : Nat) (data : NonceFile) (fate : Fate)
    (alive : Bool) :
    (s.wroteNonces enc config order data fate alive).nonceFile enc config =
      if fate = .replaced then .ok data else s.nonceFile enc config := by
  simp only [nonceFile, wroteNonces, Fate.apply_path]
  by_cases hfate : fate = .replaced
  · rw [if_pos hfate, if_pos hfate]
    exact parseFile_toWriterPretty enc.nonceFile {} config.noncesPath order data
  · rw [if_neg hfate, if_neg hfate]

theorem started_nonceFile (s : StateDir) (loaded : Option (NonceFile × ContactMap)) :
    (s.started loaded).nonceFile enc config = s.nonceFile enc config := by
  rw [nonceFile, (s.started_disk loaded).1, nonceFile]

/-- No operation loses a nonce. -/
theorem Retains.step {scope : NonceScope} {text : String} {s s' : StateDir} {op : StateDirOp L}
    (h : s.Retains enc config scope text) (hop : op.Readable)
    (hnext : s.next enc config op = some s') : s'.Retains enc config scope text := by
  obtain ⟨data, hfile, htext⟩ := h.file
  cases op with
  | contacts call order verdicts =>
      obtain ⟨halive, data', fate, alive, rfl⟩ := wroteContacts_of_next hnext
      obtain ⟨hmem, hfile'⟩ := s.wroteContacts_nonces enc config order data' fate alive
      exact ⟨fun _ => hmem ▸ h.memory halive, data, hfile'.trans hfile, htext⟩
  | nonces added nonces order verdicts =>
      obtain ⟨halive, fate, alive, rfl, -⟩ := wroteNonces_of_next hnext
      have hmem : text ∈ (s.nonces.extend added
          (nonces.map fun nonce => enc.hex.encode nonce.val)).scope scope :=
        NonceFile.mem_scope_extend.mpr (.inl (h.memory halive))
      refine ⟨fun _ => hmem, ?_⟩
      rw [wroteNonces_nonceFile]
      by_cases hfate : fate = .replaced
      · exact ⟨_, if_pos hfate, hmem⟩
      · exact ⟨data, (if_neg hfate).trans hfile, htext⟩
  | restart verdicts =>
      obtain ⟨loaded, rfl, -, hparse⟩ := started_of_next hnext
      refine ⟨?_, data, (s.started_nonceFile loaded).trans hfile, htext⟩
      cases loaded with
      | none => exact fun halive => nomatch halive
      | some found =>
          have hsame : (Except.ok found.1 : Except String NonceFile) = .ok data :=
            (hparse hop found.1 found.2 rfl).symm.trans hfile
          cases hsame
          exact fun _ => htext

/-- No operation makes a nonce up. -/
theorem Lacks.step {scope : NonceScope} {nonce : Nonce} {s s' : StateDir} {op : StateDirOp L}
    (h : s.Lacks enc config scope (enc.hex.encode nonce.val)) (hop : ¬ op.Adds scope nonce)
    (hnext : s.next enc config op = some s') :
    s'.Lacks enc config scope (enc.hex.encode nonce.val) := by
  cases op with
  | contacts call order verdicts =>
      obtain ⟨-, data', fate, alive, rfl⟩ := wroteContacts_of_next hnext
      obtain ⟨hmem, hfile⟩ := s.wroteContacts_nonces enc config order data' fate alive
      exact ⟨hmem ▸ h.memory, hfile ▸ h.file⟩
  | nonces added nonces order verdicts =>
      obtain ⟨-, fate, alive, rfl, -⟩ := wroteNonces_of_next hnext
      have hmem : enc.hex.encode nonce.val ∉ (s.nonces.extend added
          (nonces.map fun nonce => enc.hex.encode nonce.val)).scope scope := by
        intro hmem
        rcases NonceFile.mem_scope_extend.mp hmem with hold | ⟨hscope, hnew⟩
        · exact h.memory hold
        · -- the encoding confuses no nonce of the call with this one
          obtain ⟨nonce', hmem', heq⟩ := List.mem_map.mp hnew
          exact hop ⟨hscope, enc.hex.encode_inj heq ▸ hmem'⟩
      refine ⟨hmem, ?_⟩
      intro data hdata
      rw [wroteNonces_nonceFile] at hdata
      by_cases hfate : fate = .replaced
      · rw [if_pos hfate] at hdata
        cases hdata
        exact hmem
      · rw [if_neg hfate] at hdata
        exact h.file data hdata
  | restart verdicts =>
      obtain ⟨loaded, rfl, hfrom, -⟩ := started_of_next hnext
      refine ⟨?_, fun data hdata => h.file data ((s.started_nonceFile loaded).symm.trans hdata)⟩
      cases loaded with
      | none => exact h.memory
      | some found =>
          show enc.hex.encode nonce.val ∉ found.1.scope scope
          rcases hfrom found.1 found.2 rfl with hdefault | hfile
          · rw [hdefault]
            cases scope <;> simp [NonceFile.scope]
          · exact h.file found.1 hfile

/-- A successful call retains its nonces. -/
theorem retains_of_ok {scope : NonceScope} {nonce : Nonce} {nonces : List Nonce} {order : Nat}
    {verdicts : List Verdict} {s s' : StateDir} (hmem : nonce ∈ nonces)
    (hok : (s.runNonces enc config scope nonces order verdicts).1 = .ok ())
    (hnext : s.next enc config (.nonces scope nonces order verdicts) = some s') :
    s'.Retains enc config scope (enc.hex.encode nonce.val) := by
  obtain ⟨-, fate, alive, rfl, hallows⟩ := wroteNonces_of_next hnext
  rw [hok] at hallows
  obtain rfl : fate = .replaced := hallows
  have hnew : enc.hex.encode nonce.val ∈ (s.nonces.extend scope
      (nonces.map fun nonce => enc.hex.encode nonce.val)).scope scope :=
    NonceFile.mem_scope_extend.mpr (.inr ⟨rfl, List.mem_map_of_mem hmem⟩)
  exact ⟨fun _ => hnew, _, s.wroteNonces_nonceFile order _ .replaced _, hnew⟩

/-- A call on one scope changes no answer of another. -/
theorem has_of_other_scope {scope other : NonceScope} {nonces : List Nonce} {order : Nat}
    {verdicts : List Verdict} {s s' : StateDir} (hother : other ≠ scope)
    (hnext : s.next enc config (.nonces other nonces order verdicts) = some s') (nonce : Nonce) :
    s'.has enc config scope nonce = s.has enc config scope nonce := by
  obtain ⟨-, fate, alive, rfl, -⟩ := wroteNonces_of_next hnext
  rw [Bool.eq_iff_iff, has_eq_true, has_eq_true]
  exact NonceFile.mem_scope_extend.trans (or_iff_left fun h => hother h.1)

end StateDir

/-- The nonce store knows every nonce of a successful call from then on, and no
nonce that was never added.  Nonces are not confused, and the scopes do not
affect each other. -/
theorem nonces_replay (enc : Encodings) (config : StateConfig L) (scope : NonceScope)
    (nonce : Nonce) :
    (∀ (s s' : StateDir) (batch : List Nonce) order verdicts later, nonce ∈ batch →
      (s.runNonces enc config scope batch order verdicts).1 = .ok () →
      s.next enc config (.nonces scope batch order verdicts) = some s' →
      (∀ op ∈ later, StateDirOp.Readable op) →
      (StateDir.machine enc config).Visits
        (fun s => s.alive = true → s.has enc config scope nonce = true) s' later) ∧
    (∀ disk ops,
      (∀ data, parseFile enc.nonceFile {} config.noncesPath (disk config.noncesPath) = .ok data →
        enc.hex.encode nonce.val ∉ data.scope scope) →
      (∀ op ∈ ops, ¬ StateDirOp.Adds scope nonce op) →
      (StateDir.machine enc config).Visits
        (fun s => s.has enc config scope nonce = false) (.initial disk) ops) ∧
    (∀ other : Nonce, enc.hex.encode other.val = enc.hex.encode nonce.val → other = nonce) ∧
    (∀ (s s' : StateDir) other batch order verdicts, other ≠ scope →
      s.next enc config (.nonces other batch order verdicts) = some s' →
      s'.has enc config scope nonce = s.has enc config scope nonce) := by
  refine ⟨?_, ?_, fun other h => enc.hex.encode_inj h,
    fun s s' other batch order verdicts hother hnext =>
      StateDir.has_of_other_scope hother hnext nonce⟩
  · intro s s' batch order verdicts later hmem hok hnext hlater
    have hvisits := Machine.visits_of_meets _
      (fun s op s' (h : s.Retains enc config scope (enc.hex.encode nonce.val)) hop hnext =>
        h.step hop hnext)
      (StateDir.retains_of_ok hmem hok hnext)
      ((StateDir.machine enc config).meets_of_forall hlater s')
    exact hvisits.mono _ fun s h halive => StateDir.has_eq_true.mpr (h.memory halive)
  · intro disk ops hdisk hops
    have hinitial : (StateDir.initial disk).Lacks enc config scope (enc.hex.encode nonce.val) :=
      ⟨by cases scope <;> simp [StateDir.initial, NonceFile.scope], hdisk⟩
    have hvisits := Machine.visits_of_meets _
      (fun s op s' (h : s.Lacks enc config scope (enc.hex.encode nonce.val)) hop hnext =>
        h.step hop hnext)
      hinitial ((StateDir.machine enc config).meets_of_forall hops _)
    exact hvisits.mono _ fun s h =>
      Bool.eq_false_iff.mpr fun hhas => h.memory (StateDir.has_eq_true.mp hhas)

/-- The configuration of `USERUSER`. -/
def StateConfig.sample :
    StateConfig (Libthreema.sample fun _ => .error "no envelope") where
  stateDir := "state"
  userIdentity := Identities.user

/-- A nonce of 24 zeros. -/
def Nonce.zero : Nonce := ⟨List.replicate 24 0, by decide⟩

/-- On an empty directory, the zero nonce is added to one scope and then to the
other, and the process restarts. -/
theorem nonces_replay_zero :
    let enc := Encodings.sample
    let config := StateConfig.sample
    let s := (StateDir.initial fun _ => none).start enc config []
    (∃ s', s.next enc config (.nonces .cspE2e [.zero] 0 []) = some s' ∧
      (StateDir.machine enc config).Visits
        (fun s => s.alive = true → s.has enc config .cspE2e .zero = true) s'
        [.nonces .d2x [.zero] 0 [], .restart []]) ∧
    (StateDir.machine enc config).Visits (fun s => s.has enc config .cspE2e .zero = false)
      (.initial fun _ => none) [.restart [], .nonces .d2x [.zero] 0 [], .restart []] := by
  intro enc config s
  have hreplay := nonces_replay enc config .cspE2e .zero
  refine ⟨⟨_, rfl, ?_⟩, ?_⟩
  · exact hreplay.1 s _ [.zero] 0 [] _ (List.mem_singleton_self _) rfl rfl
      (by simp [StateDirOp.Readable, succeed])
  · refine hreplay.2.1 _ _ (fun data hdata => ?_) (by simp [StateDirOp.Adds])
    cases hdata
    simp [NonceFile.scope]

end MultideviceClient
