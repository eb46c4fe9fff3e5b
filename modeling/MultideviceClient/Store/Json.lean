import MultideviceClient.Libthreema
import MultideviceClient.Foundations.Process

/-!
# State files

`atomic_write_json` writes a value to a temporary file next to the target and
renames it over the target.  `load_json` reads a value back, and gives the
default when there is no file.

*Serialisation.*  serde_json is a parameter (`Serde`).  The text of a hash map
depends on the iteration order of the map, which is not a function of its
entries, so `toWriterPretty` takes it as an argument of its own.  The only law
is that a text parses back to the value.

*What a write does.*  `Fate` names the three ways a write can leave the disk:
untouched, with a torn temporary file, or with the target replaced.
`saveJson_fate` says that the verdicts of the system calls alone decide the fate
and the outcome, that success means the target was replaced, and that an error
means it was not.  Everything later in the development that concerns
failures and crashes goes through this lemma.
-/

namespace MultideviceClient

open Foundations

/-! ## Paths -/

/-- The last component of a path. -/
inductive FileName where
  | utf8 (name : String)
  /-- Not UTF-8, with what `display` prints for it. -/
  | other (raw : Bytes) (lossy : String)
deriving DecidableEq, Repr

/-- A path: everything before the last component, and that component. -/
structure Path where
  directory : String
  fileName : Option FileName
deriving DecidableEq, Repr

namespace Path

/-- `path.file_name().and_then(|name| name.to_str())`. -/
def fileNameText (path : Path) : Option String :=
  match path.fileName with
  | some (.utf8 name) => some name
  | _ => none

/-- `Path::with_file_name`. -/
def withFileName (path : Path) (name : String) : Path :=
  { path with fileName := some (.utf8 name) }

/-- `Path::display`. -/
def display (path : Path) : String :=
  match path.fileName with
  | some (.utf8 name) => path.directory ++ "/" ++ name
  | some (.other _ lossy) => path.directory ++ "/" ++ lossy
  | none => path.directory

/-- The temporary file that `atomic_write_json` writes first. -/
def tmp (path : Path) : Path :=
  path.withFileName (path.fileNameText.getD "state" ++ ".tmp")

/-- The temporary file is never the target. -/
theorem tmp_ne (path : Path) : path.tmp ≠ path := by
  intro h
  have hname : some (FileName.utf8 (path.fileNameText.getD "state" ++ ".tmp")) = path.fileName :=
    congrArg Path.fileName h
  unfold fileNameText at hname
  split at hname
  next name hfile =>
    rw [hfile, Option.some.injEq, FileName.utf8.injEq, Option.getD_some] at hname
    have hlen := congrArg String.length hname
    rw [String.length_append] at hlen
    have : ".tmp".length = 4 := by decide
    omega
  next hother => exact hother _ hname.symm

end Path

/-! ## Serialisation -/

/-- serde_json at one type. -/
structure Serde (α : Type) where
  /-- `serde_json::to_writer_pretty`, for one iteration order of the value. -/
  toWriterPretty : Nat → α → Bytes
  /-- `serde_json::from_slice`. -/
  fromSlice : Bytes → Except String α
  fromSlice_toWriterPretty : ∀ order value, fromSlice (toWriterPretty order value) = .ok value

variable {σ α : Type}

/-- Replace the error of an action by a message for the user. -/
def withContext (message : String) (act : Action σ Path String α) : Action σ Path String α :=
  act.mapError fun _ => message

/-- `atomic_write_json`. -/
def atomicWriteJson (serde : Serde α) (order : Nat) (path : Path) (value : α) :
    Action σ Path String Unit := do
  let tmpPath := path.tmp
  withContext s!"Failed to create {tmpPath.display}" (Action.create tmpPath)
  withContext "Failed to serialize state"
    (Action.append tmpPath (serde.toWriterPretty order value))
  Action.syncAll
  withContext s!"Failed to move {tmpPath.display} to {path.display}" (Action.rename tmpPath path)
  Action.returnPoint

/-- The `save` of both stores: the whole memory goes to the file. -/
def saveJson (serde : Serde α) (order : Nat) (path : Path) : Action α Path String Unit := do
  let value ← Action.getMemory
  atomicWriteJson serde order path value

/-- The part of `load_json` for a file that is there. -/
def readJson (serde : Serde α) (path : Path) : Action σ Path String α := do
  let bytes ← withContext s!"Failed to read {path.display}" (Action.read path)
  match serde.fromSlice bytes with
  | .ok value => pure value
  | .error _ => Action.throw s!"Failed to parse {path.display}"

/-- `load_json`, with the default of the type. -/
def loadJson (serde : Serde α) (default : α) (path : Path) : Action σ Path String α := do
  if !(← Action.fileExists path) then
    return default
  readJson serde path

/-- The `load` of both stores: what the file holds becomes the memory. -/
def loadStore {β : Type} (serde : Serde α) (default : α) (path : Path) (handle : β) :
    Action α Path String β := do
  let data ← loadJson serde default path
  Action.modifyMemory fun _ => data
  return handle

/-! ## Verdicts -/

/-- The next `calls` system calls succeed. -/
def succeed (calls : Nat) (verdicts : List Verdict) : Bool :=
  (verdicts.take calls).all fun v => v matches .ok

/-- Every system call of a write succeeds: creating, writing, flushing and
renaming.  So its rename takes effect. -/
def writeSucceeds (verdicts : List Verdict) : Bool := succeed 4 verdicts

/-- No system call kills the process. -/
def survives (verdicts : List Verdict) : Bool :=
  verdicts.all fun v => !(v matches .kill _)

theorem succeed_of_head_ok {verdicts : List Verdict} (h : verdicts.headD .ok = .ok) (calls : Nat) :
    succeed (calls + 1) verdicts = succeed calls verdicts.tail := by
  cases verdicts with
  | nil => cases calls <;> rfl
  | cons v vs =>
      simp only [List.headD_cons] at h
      subst h
      simp [succeed]

theorem not_succeed_of_head_ne {verdicts : List Verdict} {v : Verdict}
    (h : verdicts.headD .ok = v) (hne : v ≠ .ok) (calls : Nat) :
    ¬ succeed (calls + 1) verdicts = true := by
  cases verdicts with
  | nil => exact absurd h.symm hne
  | cons v' vs =>
      cases h
      cases v' with
      | ok => exact absurd rfl hne
      | fail written message => simp [succeed]
      | kill written => simp [succeed]

theorem succeed_two_iff {verdicts : List Verdict} :
    succeed 2 verdicts = true ↔
      verdicts.headD .ok = .ok ∧ verdicts.tail.headD .ok = .ok := by
  rcases verdicts with _ | ⟨first, _ | ⟨second, rest⟩⟩
  · simp [succeed]
  · cases first <;> simp [succeed]
  · cases first <;> cases second <;> simp [succeed]

theorem survives_tail {verdicts : List Verdict} (h : survives verdicts = true) :
    survives verdicts.tail = true := by
  cases verdicts with
  | nil => rfl
  | cons v vs =>
      simp only [survives, List.all_cons, Bool.and_eq_true] at h
      exact h.2

theorem not_survives_of_head_kill {verdicts : List Verdict} {written : Nat}
    (h : verdicts.headD .ok = .kill written) : survives verdicts = false := by
  cases verdicts with
  | nil => cases h
  | cons v vs =>
      simp only [List.headD_cons] at h
      subst h
      simp [survives]

/-! ## What a load does -/

/-- What a load finds in a file when no system call fails. -/
def parseFile (serde : Serde α) (default : α) (path : Path) :
    Option Bytes → Except String α
  | none => .ok default
  | some bytes =>
      match serde.fromSlice bytes with
      | .ok value => .ok value
      | .error _ => .error s!"Failed to parse {path.display}"

@[simp] theorem parseFile_toWriterPretty (serde : Serde α) (default : α) (path : Path)
    (order : Nat) (value : α) :
    parseFile serde default path (some (serde.toWriterPretty order value)) = .ok value := by
  simp [parseFile, serde.fromSlice_toWriterPretty]

/-- The run of a load, verdict by verdict.  The first verdict is that of the
probe, and the second one that of the read. -/
theorem run_loadJson (serde : Serde α) (default : α) (path : Path) (w : World σ Path) :
    (loadJson serde default path).run w =
      match w.verdicts.headD .ok, w.disk path with
      | .kill _, _ => (.killed, { w with verdicts := w.verdicts.tail })
      | .ok, some bytes =>
          match w.verdicts.tail.headD .ok, serde.fromSlice bytes with
          | .ok, .ok value => (.ok value, { w with verdicts := w.verdicts.tail.tail })
          | .ok, .error _ =>
              (.error s!"Failed to parse {path.display}",
                { w with verdicts := w.verdicts.tail.tail })
          | .fail _ _, _ =>
              (.error s!"Failed to read {path.display}",
                { w with verdicts := w.verdicts.tail.tail })
          | .kill _, _ => (.killed, { w with verdicts := w.verdicts.tail.tail })
      | _, _ => (.ok default, { w with verdicts := w.verdicts.tail }) := by
  cases hprobe : w.verdicts.headD .ok with
  | kill written => exact Action.bind_killed (by rw [Action.run_fileExists, hprobe])
  | fail written message =>
      -- a failed probe counts as no file
      exact Action.bind_ok (a := false) (by rw [Action.run_fileExists, hprobe])
  | ok =>
      cases hfile : w.disk path with
      | none =>
          exact Action.bind_ok (a := false) (by rw [Action.run_fileExists, hprobe, hfile]; rfl)
      | some bytes =>
          have hfound : (loadJson serde default path).run w =
              (readJson serde path).run { w with verdicts := w.verdicts.tail } :=
            Action.bind_ok (a := true) (by rw [Action.run_fileExists, hprobe, hfile]; rfl)
          rw [hfound, readJson, Action.run_bind, withContext, Action.run_mapError, Action.run_read]
          cases w.verdicts.tail.headD .ok with
          | kill written => rfl
          | fail written message => rfl
          | ok =>
              simp only [hfile]
              cases serde.fromSlice bytes <;> rfl

/-- The run of the `load` of a store.  A value becomes the memory. -/
theorem run_loadStore {β : Type} (serde : Serde α) (default : α) (path : Path) (handle : β)
    (w : World α Path) :
    (loadStore serde default path handle).run w =
      match w.verdicts.headD .ok, w.disk path with
      | .kill _, _ => (.killed, { w with verdicts := w.verdicts.tail })
      | .ok, some bytes =>
          match w.verdicts.tail.headD .ok, serde.fromSlice bytes with
          | .ok, .ok value => (.ok handle, ⟨value, w.disk, w.verdicts.tail.tail⟩)
          | .ok, .error _ =>
              (.error s!"Failed to parse {path.display}",
                { w with verdicts := w.verdicts.tail.tail })
          | .fail _ _, _ =>
              (.error s!"Failed to read {path.display}",
                { w with verdicts := w.verdicts.tail.tail })
          | .kill _, _ => (.killed, { w with verdicts := w.verdicts.tail.tail })
      | _, _ => (.ok handle, ⟨default, w.disk, w.verdicts.tail⟩) := by
  rw [loadStore, Action.run_bind, run_loadJson]
  cases w.verdicts.headD .ok with
  | kill written => rfl
  | fail written message => rfl
  | ok =>
      cases w.disk path with
      | none => rfl
      | some bytes =>
          cases w.verdicts.tail.headD .ok with
          | kill written => rfl
          | fail written message => rfl
          | ok =>
              cases hparse : serde.fromSlice bytes with
              | error e =>
                  simp only [hparse]
              | ok value =>
                  simp only [hparse]
                  rfl

/-- Everything the `load` of a store does.  It fills the memory with the default
or with what the file holds, and with what the file holds when no system call
fails. -/
theorem loadStore_spec {β : Type} (serde : Serde α) (default : α) (path : Path) (handle : β)
    (file : Option Bytes) (verdicts : List Verdict) :
    ∃ (loaded : Option α) (rest : List Verdict),
      (∀ w : World α Path, w.disk path = file → w.verdicts = verdicts →
        ((loadStore serde default path handle).run w).1.isOk = loaded.isSome ∧
        ((loadStore serde default path handle).run w).2 =
          ⟨loaded.getD w.memory, w.disk, rest⟩) ∧
      (∀ data, loaded = some data →
        data = default ∨ parseFile serde default path file = .ok data) ∧
      (succeed 2 verdicts = true → ∀ data, loaded = some data ↔
        parseFile serde default path file = .ok data) := by
  cases hprobe : verdicts.headD .ok with
  | kill written =>
      refine ⟨none, verdicts.tail, ?_, by simp,
        fun h => absurd (hprobe.symm.trans (succeed_two_iff.mp h).1) (by simp)⟩
      rintro w hfile rfl
      rw [run_loadStore, hprobe]
      exact ⟨rfl, rfl⟩
  | fail written message =>
      refine ⟨some default, verdicts.tail, ?_, by simp,
        fun h => absurd (hprobe.symm.trans (succeed_two_iff.mp h).1) (by simp)⟩
      rintro w hfile rfl
      rw [run_loadStore, hprobe]
      exact ⟨rfl, rfl⟩
  | ok =>
      cases file with
      | none =>
          refine ⟨some default, verdicts.tail, ?_, by simp, by simp [parseFile]⟩
          rintro w hfile rfl
          rw [run_loadStore, hprobe, hfile]
          exact ⟨rfl, rfl⟩
      | some bytes =>
          cases hread : verdicts.tail.headD .ok with
          | kill written =>
              refine ⟨none, verdicts.tail.tail, ?_, by simp,
                fun h => absurd (hread.symm.trans (succeed_two_iff.mp h).2) (by simp)⟩
              rintro w hfile rfl
              rw [run_loadStore, hprobe, hfile, hread]
              exact ⟨rfl, rfl⟩
          | fail written message =>
              refine ⟨none, verdicts.tail.tail, ?_, by simp,
                fun h => absurd (hread.symm.trans (succeed_two_iff.mp h).2) (by simp)⟩
              rintro w hfile rfl
              rw [run_loadStore, hprobe, hfile, hread]
              exact ⟨rfl, rfl⟩
          | ok =>
              cases hparse : serde.fromSlice bytes with
              | error e =>
                  refine ⟨none, verdicts.tail.tail, ?_, by simp, by simp [parseFile, hparse]⟩
                  rintro w hfile rfl
                  simp only [run_loadStore, hprobe, hfile, hread, hparse]
                  exact ⟨rfl, rfl⟩
              | ok value =>
                  refine ⟨some value, verdicts.tail.tail, ?_, by simp [parseFile, hparse],
                    by simp [parseFile, hparse]⟩
                  rintro w hfile rfl
                  simp only [run_loadStore, hprobe, hfile, hread, hparse]
                  exact ⟨rfl, rfl⟩

/-! ## What a write does -/

/-- How a write leaves the disk. -/
inductive Fate where
  /-- As it was. -/
  | untouched
  /-- With a temporary file of this content. -/
  | torn (content : Bytes)
  /-- With the target replaced. -/
  | replaced
deriving DecidableEq, Repr

/-- The disk a write leaves. -/
def Fate.apply (path : Path) (text : Bytes) : Fate → Disk Path → Disk Path
  | .untouched, d => d
  | .torn content, d => d.set path.tmp (some content)
  | .replaced, d => (d.set path (some text)).set path.tmp none

/-- The target holds what it held, or the whole new text. -/
theorem Fate.apply_path (path : Path) (text : Bytes) (fate : Fate) (d : Disk Path) :
    fate.apply path text d path = if fate = .replaced then some text else d path := by
  have hne : path ≠ path.tmp := path.tmp_ne.symm
  cases fate with
  | untouched => simp [Fate.apply]
  | torn content => simp [Fate.apply, Disk.set_ne _ _ hne]
  | replaced => simp [Fate.apply, Disk.set_ne _ _ hne]

/-- No other file changes. -/
theorem Fate.apply_other (path : Path) (text : Bytes) (fate : Fate) (d : Disk Path)
    {other : Path} (h : other ≠ path) (htmp : other ≠ path.tmp) :
    fate.apply path text d other = d other := by
  cases fate with
  | untouched => rfl
  | torn content => exact Disk.set_ne _ _ htmp
  | replaced => rw [Fate.apply, Disk.set_ne _ _ htmp, Disk.set_ne _ _ h]

/-- The outcomes that go with a fate.  A process can be killed with the target
replaced, but it can then not report success any more. -/
def Fate.Allows {ε : Type} : Fate → Outcome ε Unit → Prop
  | fate, .ok () => fate = .replaced
  | fate, .error _ => fate ≠ .replaced
  | _, .killed => True

/-- Started with the disk as `start` leaves it, the action makes `calls` system
calls that can fail, and ends in a fate and an outcome that the verdicts
decide. -/
def Fated (path : Path) (text : Bytes) (calls : Nat) (start : Fate)
    (act : Action σ Path String Unit) : Prop :=
  ∀ verdicts : List Verdict, ∃ (fate : Fate) (outcome : Outcome String Unit) (rest : List Verdict),
    (∀ (w : World σ Path) (d : Disk Path), w.verdicts = verdicts →
      w.disk = start.apply path text d →
      act.run w = (outcome, ⟨w.memory, fate.apply path text d, rest⟩)) ∧
    fate.Allows outcome ∧ (fate = .replaced ↔ succeed calls verdicts = true) ∧
    (survives verdicts = true → outcome ≠ .killed)

theorem fated_returnPoint (path : Path) (text : Bytes) :
    Fated path text 0 .replaced (Action.returnPoint : Action σ Path String Unit) := by
  intro verdicts
  have hsucceed : Fate.replaced = .replaced ↔ succeed 0 verdicts = true := by simp [succeed]
  cases hv : verdicts.headD .ok with
  | ok =>
      refine ⟨.replaced, .ok (), verdicts.tail, fun w d hw hd => ?_, rfl, hsucceed, by simp⟩
      subst hw
      rw [Action.run_returnPoint, hv, ← hd]
  | fail _ _ =>
      refine ⟨.replaced, .ok (), verdicts.tail, fun w d hw hd => ?_, rfl, hsucceed, by simp⟩
      subst hw
      rw [Action.run_returnPoint, hv, ← hd]
  | kill _ =>
      refine ⟨.replaced, .killed, verdicts.tail, fun w d hw hd => ?_, trivial, hsucceed,
        fun h => absurd h (by simp [not_survives_of_head_kill hv])⟩
      subst hw
      rw [Action.run_returnPoint, hv, ← hd]

/-- A system call that leads from one fate to the next.  Its failure and its
death leave the fate before it. -/
theorem Fated.syscall {path : Path} {text : Bytes} {calls : Nat} {start : Fate} (next : Fate)
    {act rest : Action σ Path String Unit} {f : Disk Path → Disk Path} (g : String → String)
    (hact : act = (Action.syscall f).mapError g) (hstart : start ≠ .replaced)
    (hf : ∀ d, f (start.apply path text d) = next.apply path text d)
    (hrest : Fated path text calls next rest) :
    Fated path text (calls + 1) start (act >>= fun _ => rest) := by
  intro verdicts
  subst hact
  cases hv : verdicts.headD .ok with
  | ok =>
      obtain ⟨fate, outcome, left, hrun, hallows, hfate, hends⟩ := hrest verdicts.tail
      refine ⟨fate, outcome, left, fun w d hw hd => ?_, hallows, ?_,
        fun h => hends (survives_tail h)⟩
      · subst hw
        have hcall : ((Action.syscall f).mapError g).run w =
            (.ok (), { w with disk := f w.disk, verdicts := w.verdicts.tail }) := by
          rw [Action.run_mapError, Action.run_syscall, hv]
        rw [Action.bind_ok hcall]
        exact hrun _ d rfl (by rw [hd, hf])
      · rw [succeed_of_head_ok hv]
        exact hfate
  | fail _ message =>
      refine ⟨start, .error (g message), verdicts.tail, fun w d hw hd => ?_, hstart,
        iff_of_false hstart (not_succeed_of_head_ne hv (by simp) calls), by simp⟩
      subst hw
      refine Action.bind_error ?_
      rw [Action.run_mapError, Action.run_syscall, hv, ← hd]
  | kill _ =>
      refine ⟨start, .killed, verdicts.tail, fun w d hw hd => ?_, trivial,
        iff_of_false hstart (not_succeed_of_head_ne hv (by simp) calls),
        fun h => absurd h (by simp [not_survives_of_head_kill hv])⟩
      subst hw
      refine Action.bind_killed ?_
      rw [Action.run_mapError, Action.run_syscall, hv, ← hd]

/-- The write of the text.  Its failure and its death leave a torn file. -/
theorem Fated.append {path : Path} {text : Bytes} {calls : Nat}
    {rest : Action σ Path String Unit} (g : String → String)
    (hrest : Fated path text calls (.torn text) rest) :
    Fated path text (calls + 1) (.torn [])
      ((Action.append path.tmp text).mapError g >>= fun _ => rest) := by
  intro verdicts
  have hput : ∀ (d : Disk Path) (written : Bytes),
      ((Fate.torn []).apply path text d).set path.tmp
          (some ((((Fate.torn []).apply path text d) path.tmp).getD [] ++ written)) =
        (Fate.torn written).apply path text d := by
    intro d written
    simp [Fate.apply]
  cases hv : verdicts.headD .ok with
  | ok =>
      obtain ⟨fate, outcome, left, hrun, hallows, hfate, hends⟩ := hrest verdicts.tail
      refine ⟨fate, outcome, left, fun w d hw hd => ?_, hallows, ?_,
        fun h => hends (survives_tail h)⟩
      · subst hw
        have hcall : ((Action.append path.tmp text).mapError g).run w =
            (.ok (), ⟨w.memory, (Fate.torn text).apply path text d, w.verdicts.tail⟩) := by
          simp only [Action.run_mapError, Action.run_append, hv, hd, hput]
        rw [Action.bind_ok hcall]
        exact hrun _ d rfl rfl
      · rw [succeed_of_head_ok hv]
        exact hfate
  | fail written message =>
      refine ⟨.torn (text.take written), .error (g message), verdicts.tail,
        fun w d hw hd => ?_, by simp [Fate.Allows],
        iff_of_false (by simp) (not_succeed_of_head_ne hv (by simp) calls), by simp⟩
      subst hw
      refine Action.bind_error ?_
      simp only [Action.run_mapError, Action.run_append, hv, hd, hput]
  | kill written =>
      refine ⟨.torn (text.take written), .killed, verdicts.tail, fun w d hw hd => ?_, trivial,
        iff_of_false (by simp) (not_succeed_of_head_ne hv (by simp) calls),
        fun h => absurd h (by simp [not_survives_of_head_kill hv])⟩
      subst hw
      refine Action.bind_killed ?_
      simp only [Action.run_mapError, Action.run_append, hv, hd, hput]

/-- Moving the temporary file over the target. -/
theorem Fate.rename_torn (path : Path) (text : Bytes) (d : Disk Path) :
    (((Fate.torn text).apply path text d).set path
        ((Fate.torn text).apply path text d path.tmp)).set path.tmp none =
      Fate.replaced.apply path text d := by
  funext other
  by_cases htmp : other = path.tmp
  · subst htmp
    simp [Fate.apply]
  · rw [Disk.set_ne _ _ htmp]
    by_cases hpath : other = path
    · subst hpath
      simp [Fate.apply, Disk.set_ne _ _ htmp]
    · simp [Fate.apply, Disk.set_ne _ _ htmp, Disk.set_ne _ _ hpath]

theorem fated_atomicWriteJson (serde : Serde α) (order : Nat) (path : Path) (value : α) :
    Fated path (serde.toWriterPretty order value) 4 .untouched
      (atomicWriteJson (σ := σ) serde order path value) := by
  simp only [atomicWriteJson, withContext]
  refine Fated.syscall (.torn []) _ rfl (by simp) (fun d => rfl) ?_
  refine Fated.append _ ?_
  refine Fated.syscall (.torn (serde.toWriterPretty order value)) (f := id) id ?_
    (by simp) (fun d => rfl) ?_
  · -- flushing has no context of its own
    funext w
    show Action.syncAll.run w = (Action.syncAll.mapError id).run w
    rw [Action.run_mapError]
    rcases Action.syncAll.run w with ⟨_ | _ | _, _⟩ <;> rfl
  · exact Fated.syscall .replaced _ rfl (by simp) (Fate.rename_torn path _)
      (fated_returnPoint path _)

/-- Everything a save does: the verdicts decide the fate of the file, the
outcome and the verdicts left over.  The rename takes effect exactly when every
system call succeeds. -/
theorem saveJson_fate (serde : Serde α) (order : Nat) (path : Path) (value : α)
    (verdicts : List Verdict) :
    ∃ (fate : Fate) (outcome : Outcome ProviderError Unit) (rest : List Verdict),
      (∀ disk, ((saveJson serde order path).mapError ProviderError.foreign).run
          ⟨value, disk, verdicts⟩ =
        (outcome, ⟨value, fate.apply path (serde.toWriterPretty order value) disk, rest⟩)) ∧
      fate.Allows outcome ∧ (fate = .replaced ↔ writeSucceeds verdicts = true) ∧
      (survives verdicts = true → outcome ≠ .killed) := by
  obtain ⟨fate, outcome, rest, hrun, hallows, hfate, hends⟩ :=
    fated_atomicWriteJson (σ := α) serde order path value verdicts
  have hsave : ∀ disk, (saveJson serde order path).run ⟨value, disk, verdicts⟩ =
      (outcome, ⟨value, fate.apply path (serde.toWriterPretty order value) disk, rest⟩) :=
    fun disk => (Action.bind_ok (Action.run_getMemory _)).trans
      (hrun ⟨value, disk, verdicts⟩ disk rfl rfl)
  cases outcome with
  | ok a =>
      refine ⟨fate, .ok a, rest, fun disk => ?_, hallows, hfate, by simp⟩
      rw [Action.run_mapError, hsave]
  | error e =>
      refine ⟨fate, .error (.foreign e), rest, fun disk => ?_, hallows, hfate, by simp⟩
      rw [Action.run_mapError, hsave]
  | killed =>
      refine ⟨fate, .killed, rest, fun disk => ?_, trivial, hfate, fun h _ => hends h rfl⟩
      rw [Action.run_mapError, hsave]

/-! ## What a mutating call does -/

/-- A mutating call of a store on the memory `data`, as the verdicts of its
system calls decide it.  It changes the memory to `data'`, writes at most the
text of `data'`, and replaces the file exactly when `renames`. -/
def Saves (serde : Serde α) (order : Nat) (path : Path) (data : α) (verdicts : List Verdict)
    (renames : Bool) (act : Action α Path ProviderError Unit) : Prop :=
  ∃ (data' : α) (fate : Fate) (outcome : Outcome ProviderError Unit) (rest : List Verdict),
    (∀ disk, act.run ⟨data, disk, verdicts⟩ =
      (outcome, ⟨data', fate.apply path (serde.toWriterPretty order data') disk, rest⟩)) ∧
    fate.Allows outcome ∧ (fate = .replaced ↔ renames = true)

/-- What a call leaves: success leaves the memory in the file, an error leaves
the file as it was, and no other file but the temporary one changes. -/
structure Atomic (serde : Serde α) (default : α) (path : Path) (disk : Disk Path)
    (result : Outcome ProviderError Unit × World α Path) : Prop where
  ok : result.1 = .ok () → ∀ w : World α Path, w.disk = result.2.disk → w.verdicts = [] →
    ((loadJson serde default path).run w).1 = .ok result.2.memory
  error : ∀ e, result.1 = .error e → result.2.disk path = disk path
  other : ∀ other, other ≠ path → other ≠ path.tmp → result.2.disk other = disk other

/-- A mutating call is atomic, whatever its system calls do. -/
theorem Saves.atomic {serde : Serde α} {order : Nat} {path : Path} {data : α}
    {verdicts : List Verdict} {renames : Bool} {act : Action α Path ProviderError Unit}
    (h : Saves serde order path data verdicts renames act) (default : α) (disk : Disk Path) :
    Atomic serde default path disk (act.run ⟨data, disk, verdicts⟩) := by
  obtain ⟨data', fate, outcome, rest, hrun, hallows, -⟩ := h
  rw [hrun]
  refine ⟨fun hok w hdisk hv => ?_, fun e he => ?_, fun other hne htmp => ?_⟩
  · obtain rfl : outcome = .ok () := hok
    obtain rfl : fate = .replaced := hallows
    have hfile : w.disk path = some (serde.toWriterPretty order data') := by
      rw [hdisk]
      exact Fate.apply_path path _ .replaced disk
    rw [run_loadJson, hv, hfile]
    simp [serde.fromSlice_toWriterPretty]
  · obtain rfl : outcome = .error e := he
    simp only [Fate.apply_path]
    exact if_neg hallows
  · exact Fate.apply_other path _ fate disk hne htmp

end MultideviceClient
