import MultideviceClient.Foundations.Machine
import MultideviceClient.Store.Batches

/-!
# Persistence of the contacts

A run of calls on clones of one contact store, all with valid batches.  The
write of a call may fail at any of its system calls.

*Exactness.*  A state is exact when the file and the memory are both what the
calls that returned success made of the initial file, and a call that failed can
be made again.  A call changes the memory before it saves, and keeps the change
when the save fails.  So a run stays exact exactly when every call with a failing
write is an `add` of no contact or an `update` that gives every contact back
(`contacts_exact_iff`).
-/

namespace MultideviceClient

open Foundations

variable {L : Libthreema}

/-- The file system, the memory that the clones share, and the history. -/
structure Persistence (L : Libthreema) where
  disk : Disk Path
  memory : ContactMap
  /-- What the successful calls made of the initial file. -/
  acknowledged : ContactMap
  /-- The last call, if its write failed. -/
  failed : Option (ContactCall L)

/-- A call, with the iteration order and the verdicts of its save. -/
structure PersistenceOp (L : Libthreema) where
  call : ContactCall L
  order : Nat
  verdicts : List Verdict

namespace Persistence

variable (serde : Serde ContactMap) (store : ContactStore L)

/-- A store that was just loaded. -/
def start (disk : Disk Path) : Except String (Persistence L) :=
  (parseFile serde ∅ store.path (disk store.path)).map fun data =>
    { disk := disk, memory := data, acknowledged := data, failed := none }

/-- One call.  Its batch is valid and nothing kills the process. -/
def next (s : Persistence L) (op : PersistenceOp L) : Option (Persistence L) :=
  if op.call.valid store.userIdentity s.memory && survives op.verdicts then
    match (store.call serde op.order op.call).run ⟨s.memory, s.disk, op.verdicts⟩ with
    | (.ok (), w) => some {
        disk := w.disk
        memory := w.memory
        acknowledged := op.call.apply s.acknowledged
        failed := none }
    | (.error _, w) => some {
        disk := w.disk
        memory := w.memory
        acknowledged := s.acknowledged
        failed := some op.call }
    | (.killed, _) => none
  else none

/-- Calls in any order. -/
def machine : Machine (Persistence L) (PersistenceOp L) where
  next := next serde store

/-- A load of the file succeeds and gives the map. -/
def Reloads (disk : Disk Path) (data : ContactMap) : Prop :=
  let load := ContactStore.load serde store.path store.userIdentity
  (load.run ⟨∅, disk, []⟩).1.isOk = true ∧ (load.run ⟨∅, disk, []⟩).2.memory = data

/-- The file and the memory are what the successful calls made of the initial
file, and a call whose write failed can be made again. -/
structure Exact (s : Persistence L) : Prop where
  reload : Reloads serde store s.disk s.acknowledged
  memory : s.memory = s.acknowledged
  retry : ∀ call, s.failed = some call → call.valid store.userIdentity s.memory = true

/-- The write succeeds, or the call is an `add` of no contact or an `update` that
gives every contact back that it names. -/
def Harmless (s : Persistence L) (op : PersistenceOp L) : Prop :=
  writeSucceeds op.verdicts = true ∨
    match op.call with
    | .add contacts => contacts = []
    | .update updates => s.memory.GivenBack updates

variable {serde store}

theorem reloads_iff {disk : Disk Path} {data : ContactMap} :
    Reloads serde store disk data ↔ parseFile serde ∅ store.path (disk store.path) = .ok data := by
  obtain ⟨loaded, rest, hload, -, hparse⟩ := loadStore_spec serde ∅ store.path
    (ContactStore.mk store.path store.userIdentity) (disk store.path) []
  obtain ⟨hok, hw⟩ := hload ⟨∅, disk, []⟩ rfl rfl
  rw [← hparse rfl data]
  show _ = true ∧ _ = data ↔ _
  rw [ContactStore.load, hok, hw]
  cases loaded with
  | none => simp
  | some data' => simp

/-- A store that was just loaded is exact. -/
theorem start_exact {disk : Disk Path} {s : Persistence L}
    (h : start serde store disk = .ok s) : s.Exact serde store := by
  unfold start at h
  cases hparse : parseFile serde ∅ store.path (disk store.path) with
  | error e =>
      rw [hparse] at h
      cases h
  | ok data =>
      rw [hparse] at h
      cases h
      exact ⟨reloads_iff.mpr hparse, rfl, fun call hcall => nomatch hcall⟩

/-- Everything a call does.  It succeeds exactly when its write does, and changes
the memory in any case. -/
theorem next_spec {s s' : Persistence L} {op : PersistenceOp L}
    (h : s.next serde store op = some s') :
    op.call.valid store.userIdentity s.memory = true ∧
      s'.memory = op.call.apply s.memory ∧
      ((writeSucceeds op.verdicts = true ∧
          s'.disk store.path = some (serde.toWriterPretty op.order s'.memory) ∧
          s'.acknowledged = op.call.apply s.acknowledged ∧ s'.failed = none) ∨
        (writeSucceeds op.verdicts = false ∧ s'.disk store.path = s.disk store.path ∧
          s'.acknowledged = s.acknowledged ∧ s'.failed = some op.call)) := by
  unfold next at h
  rw [Option.ite_none_right_eq_some, Bool.and_eq_true] at h
  obtain ⟨⟨hvalid, hsurvives⟩, h⟩ := h
  obtain ⟨fate, outcome, rest, hrun, hallows, hfate, hends⟩ :=
    store.call_fate serde op.order op.call s.memory op.verdicts hvalid
  rw [hrun] at h
  refine ⟨hvalid, ?_⟩
  cases outcome with
  | ok _ =>
      obtain rfl : fate = .replaced := hallows
      cases h
      refine ⟨rfl, .inl ⟨hfate.mp rfl, ?_, rfl, rfl⟩⟩
      exact Fate.apply_path store.path _ .replaced s.disk
  | error e =>
      cases h
      refine ⟨rfl, .inr ⟨?_, ?_, rfl, rfl⟩⟩
      · exact Bool.eq_false_iff.mpr fun hsucceeds => hallows (hfate.mpr hsucceeds)
      · exact (Fate.apply_path store.path _ fate s.disk).trans (if_neg hallows)
  | killed => exact absurd rfl (hends hsurvives)

/-- The harmless calls with a failing write are those that change nothing. -/
theorem harmless_iff {s : Persistence L} {op : PersistenceOp L}
    (hvalid : op.call.valid store.userIdentity s.memory = true) :
    s.Harmless op ↔ (writeSucceeds op.verdicts = false → op.call.apply s.memory = s.memory) := by
  obtain ⟨call, order, verdicts⟩ := op
  cases call with
  | add contacts =>
      simp only [Harmless, ContactCall.apply_add_eq_iff hvalid]
      cases writeSucceeds verdicts <;> simp
  | update updates =>
      simp only [Harmless, ContactCall.apply, ← ContactMap.foldl_updateContact_eq_iff]
      cases writeSucceeds verdicts <;> simp

/-- A call keeps an exact state exact when it is harmless, and only then. -/
theorem exact_next_iff {s s' : Persistence L} {op : PersistenceOp L}
    (hexact : s.Exact serde store) (h : s.next serde store op = some s') :
    s'.Exact serde store ↔ s.Harmless op := by
  obtain ⟨hvalid, hmemory, ⟨hwrite, hdisk, hack, hfailed⟩ | ⟨hwrite, hdisk, hack, hfailed⟩⟩ :=
    next_spec h
  all_goals rw [harmless_iff hvalid]
  · have hsame : s'.memory = s'.acknowledged := by rw [hmemory, hack, hexact.memory]
    refine ⟨fun _ hfails => ?_, fun _ => ⟨reloads_iff.mpr ?_, hsame, fun call hcall => ?_⟩⟩
    · rw [hwrite] at hfails
      cases hfails
    · rw [hdisk, ← hsame]
      exact parseFile_toWriterPretty serde ∅ store.path op.order s'.memory
    · rw [hfailed] at hcall
      cases hcall
  · constructor
    · intro hexact' _
      rw [← hmemory, hexact'.memory, hack, hexact.memory]
    · intro hharmless
      have hunchanged : s'.memory = s.memory := hmemory.trans (hharmless hwrite)
      refine ⟨reloads_iff.mpr ?_, ?_, fun call hcall => ?_⟩
      · rw [hdisk, hack]
        exact reloads_iff.mp hexact.reload
      · rw [hunchanged, hack, hexact.memory]
      · rw [hfailed] at hcall
        cases hcall
        rw [hunchanged]
        exact hvalid

end Persistence

/-- The file and the memory stay what the successful calls made of the initial
file exactly when every call with a failing write is harmless. -/
theorem contacts_exact_iff (serde : Serde ContactMap) (store : ContactStore L) (disk : Disk Path)
    (s : Persistence L) (hstart : Persistence.start serde store disk = .ok s)
    (ops : List (PersistenceOp L)) :
    (Persistence.machine serde store).Visits (Persistence.Exact serde store) s ops ↔
      (Persistence.machine serde store).Meets Persistence.Harmless s ops :=
  Machine.visits_iff_meets _ (J := fun _ => True) (fun _ _ _ _ _ => trivial)
    (fun _ _ _ _ hexact hnext => Persistence.exact_next_iff hexact hnext) trivial
    (Persistence.start_exact hstart)

/-! ### A full disk -/

namespace FullDisk

/-- The store of `USERUSER`. -/
def store : ContactStore (Libthreema.sample fun _ => .error "no envelope") := .sample _

/-- The contact `ECHOECHO` is added while the disk is full. -/
def addEcho : PersistenceOp (Libthreema.sample fun _ => .error "no envelope") where
  call := .add [.sample Identities.echo]
  order := 0
  verdicts := [.ok, .fail 1 "No space left on device (os error 28)"]

/-- `ECHOECHO` is added when there is room. -/
def addEchoFirst : PersistenceOp (Libthreema.sample fun _ => .error "no envelope") where
  call := .add [.sample Identities.echo]
  order := 0
  verdicts := []

/-- The nickname that `ECHOECHO` has. -/
def sameName : ContactUpdate (Libthreema.sample fun _ => .error "no envelope") :=
  { Rename.rename Identities.echo with nickname := .update "adalovelace" }

/-- `ECHOECHO` is given its nickname again, and the file cannot be written. -/
def renameEcho : PersistenceOp (Libthreema.sample fun _ => .error "no envelope") where
  call := .update [sameName]
  order := 0
  verdicts := [.fail 0 "Permission denied (os error 13)"]

/-- Another contact is added later. -/
def addOther : PersistenceOp (Libthreema.sample fun _ => .error "no envelope") where
  call := .add [.sample ⟨"AAAAAAAA", by decide⟩]
  order := 0
  verdicts := []

/-- A store without a file. -/
def empty : Persistence (Libthreema.sample fun _ => .error "no envelope") where
  disk := fun _ => none
  memory := ∅
  acknowledged := ∅
  failed := none

end FullDisk

open FullDisk in
/-- An update that repeats a nickname is harmless even when its write fails. -/
theorem contacts_exact_update_same :
    (Persistence.machine Encodings.sample.contactMap store).Visits
      (Persistence.Exact Encodings.sample.contactMap store) empty [addEchoFirst, renameEcho] := by
  refine (contacts_exact_iff _ store (fun _ => none) empty rfl _).mpr ?_
  intro s₁ hadd
  refine ⟨.inl rfl, fun s₂ _ => ⟨.inr (ContactMap.givenBack_of_repeats ?_), trivial⟩⟩
  have hmemory : s₁.memory = ContactMap.insertContact ∅ (.sample Identities.echo) :=
    (@Persistence.next_spec _ Encodings.sample.contactMap store empty s₁ addEchoFirst hadd).2.1
  intro update hmem stored hstored
  obtain rfl := List.mem_singleton.mp hmem
  rw [hmemory] at hstored
  obtain rfl := Option.some.inj (hstored.symm.trans (Finmap.lookup_insert _))
  refine ⟨trivial, trivial, rfl, ?_, ?_, ?_, ?_, ?_, ?_, ?_, ?_, ?_⟩
  all_goals
    intro value hvalue
    cases hvalue

open FullDisk in
/-- `ECHOECHO` is in the memory after the failed call, which cannot be made
again, and the next successful call persists it. -/
theorem contacts_not_exact :
    Persistence.start Encodings.sample.contactMap store (fun _ => none) = .ok empty ∧
      ∃ s₁ s₂, empty.next Encodings.sample.contactMap store addEcho = some s₁ ∧
        s₁.next Encodings.sample.contactMap store addOther = some s₂ ∧
        s₁.memory.containsKey "ECHOECHO" = true ∧ s₁.acknowledged = ∅ ∧
        addEcho.call.valid store.userIdentity s₁.memory = false ∧
        Persistence.Reloads Encodings.sample.contactMap store s₂.disk s₂.memory ∧
        s₂.memory.containsKey "ECHOECHO" = true ∧
        s₂.acknowledged.containsKey "ECHOECHO" = false := by
  refine ⟨rfl, _, _, rfl, rfl, by decide, rfl, by decide, ?_, by decide, by decide⟩
  exact Persistence.reloads_iff.mpr (parseFile_toWriterPretty _ _ _ 0 _)

end MultideviceClient
