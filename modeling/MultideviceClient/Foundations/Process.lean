import Mathlib.Logic.Basic
import Mathlib.Data.List.Basic

/-!
# Processes that can fail and be killed

An *action* of a process reads and writes its memory and the disk.  Every
system call meets a *verdict* of the outside: it succeeds, it fails, or the
process is killed.  A failing or killed write may still have written a part of
its bytes.  The verdicts are an input of the action, so an action is a function
and covers every failure and every crash as the verdicts vary.

An action ends in an *outcome*: a value, an error, or death.  Death is not an
error, since nobody is left to handle it: what counts is the disk it leaves.

*Rules.*  `Action.bind_ok`, `Action.bind_error` and `Action.bind_killed` run a
sequence, and `Action.run_forM` a loop that stops at its first bad element.  A
process that is killed at a point of an action leaves the disk the action has
at that point, so a property of the disk after every outcome is a property of
the disk at every point.
-/

namespace Foundations

/-- What the outside decides about one system call. -/
inductive Verdict where
  /-- The call succeeds. -/
  | ok
  /-- The call fails with a message.  A write has written `written` bytes. -/
  | fail (written : Nat) (message : String)
  /-- The process is killed in the call.  A write has written `written` bytes. -/
  | kill (written : Nat)
deriving DecidableEq, Repr, Inhabited

/-- How an action ends. -/
inductive Outcome (ε α : Type) where
  | ok (a : α)
  | error (e : ε)
  | killed
deriving DecidableEq, Repr

/-- The outcome of a check that found an error or none. -/
def Outcome.ofError {ε : Type} : Option ε → Outcome ε Unit
  | none => .ok ()
  | some e => .error e

/-- The outcome is a value. -/
def Outcome.isOk {ε α : Type} : Outcome ε α → Bool
  | .ok _ => true
  | _ => false

/-- The outcome is death. -/
def Outcome.isKilled {ε α : Type} : Outcome ε α → Bool
  | .killed => true
  | _ => false

/-- The files of a disk, by name. -/
abbrev Disk (ν : Type) := ν → Option (List UInt8)

/-- The disk with the file of one name replaced or removed. -/
def Disk.set {ν : Type} [DecidableEq ν] (d : Disk ν) (name : ν) (content : Option (List UInt8)) :
    Disk ν :=
  fun other => if other = name then content else d other

@[simp] theorem Disk.set_self {ν : Type} [DecidableEq ν] (d : Disk ν) (name : ν)
    (content : Option (List UInt8)) : d.set name content name = content := by
  simp [Disk.set]

theorem Disk.set_ne {ν : Type} [DecidableEq ν] (d : Disk ν) {name other : ν}
    (content : Option (List UInt8)) (h : other ≠ name) : d.set name content other = d other := by
  simp [Disk.set, h]

/-- The last of two writes of one file counts. -/
@[simp] theorem Disk.set_set {ν : Type} [DecidableEq ν] (d : Disk ν) (name : ν)
    (content content' : Option (List UInt8)) :
    (d.set name content).set name content' = d.set name content' := by
  funext other
  by_cases h : other = name
  · simp [Disk.set, h]
  · simp [Disk.set, h]

/-- The memory of a process, the disk, and the verdicts of the calls to come. -/
structure World (σ ν : Type) where
  memory : σ
  disk : Disk ν
  verdicts : List Verdict

/-- An action of a process with memory `σ` on a disk with names `ν`. -/
def Action (σ ν ε α : Type) : Type := World σ ν → Outcome ε α × World σ ν

namespace Action

variable {σ ν ε α β : Type}

/-- Run an action. -/
def run (act : Action σ ν ε α) (w : World σ ν) : Outcome ε α × World σ ν := act w

protected def pure (a : α) : Action σ ν ε α := fun w => (.ok a, w)

/-- An error and death end a sequence.  The memory and the disk stay as they
are at that point. -/
protected def bind (act : Action σ ν ε α) (f : α → Action σ ν ε β) : Action σ ν ε β := fun w =>
  match act.run w with
  | (.ok a, w') => (f a).run w'
  | (.error e, w') => (.error e, w')
  | (.killed, w') => (.killed, w')

instance : Monad (Action σ ν ε) where
  pure := Action.pure
  bind := Action.bind

@[simp] theorem run_pure (a : α) (w : World σ ν) :
    (pure a : Action σ ν ε α).run w = (.ok a, w) := rfl

theorem run_bind (act : Action σ ν ε α) (f : α → Action σ ν ε β) (w : World σ ν) :
    (act >>= f).run w =
      match act.run w with
      | (.ok a, w') => (f a).run w'
      | (.error e, w') => (.error e, w')
      | (.killed, w') => (.killed, w') := rfl

theorem bind_ok {act : Action σ ν ε α} {f : α → Action σ ν ε β} {w w' : World σ ν} {a : α}
    (h : act.run w = (.ok a, w')) : (act >>= f).run w = (f a).run w' := by
  rw [run_bind, h]

theorem bind_error {act : Action σ ν ε α} {f : α → Action σ ν ε β} {w w' : World σ ν} {e : ε}
    (h : act.run w = (.error e, w')) : (act >>= f).run w = (.error e, w') := by
  rw [run_bind, h]

theorem bind_killed {act : Action σ ν ε α} {f : α → Action σ ν ε β} {w w' : World σ ν}
    (h : act.run w = (.killed, w')) : (act >>= f).run w = (.killed, w') := by
  rw [run_bind, h]

/-! ## Memory and errors -/

/-- Read the memory. -/
def getMemory : Action σ ν ε σ := fun w => (.ok w.memory, w)

/-- Change the memory. -/
def modifyMemory (f : σ → σ) : Action σ ν ε Unit :=
  fun w => (.ok (), { w with memory := f w.memory })

/-- End with an error. -/
def throw (e : ε) : Action σ ν ε α := fun w => (.error e, w)

/-- A result that is already there. -/
def ofExcept : Except ε α → Action σ ν ε α
  | .ok a => pure a
  | .error e => throw e

/-- Map the error of an action. -/
def mapError {ε' : Type} (f : ε → ε') (act : Action σ ν ε α) : Action σ ν ε' α := fun w =>
  match act.run w with
  | (.ok a, w') => (.ok a, w')
  | (.error e, w') => (.error (f e), w')
  | (.killed, w') => (.killed, w')

@[simp] theorem run_getMemory (w : World σ ν) :
    (getMemory : Action σ ν ε σ).run w = (.ok w.memory, w) := rfl

@[simp] theorem run_modifyMemory (f : σ → σ) (w : World σ ν) :
    (modifyMemory f : Action σ ν ε Unit).run w = (.ok (), { w with memory := f w.memory }) := rfl

@[simp] theorem run_throw (e : ε) (w : World σ ν) :
    (throw e : Action σ ν ε α).run w = (.error e, w) := rfl

theorem run_ofExcept_ok {result : Except ε α} {a : α} (h : result = .ok a) (w : World σ ν) :
    (ofExcept result : Action σ ν ε α).run w = (.ok a, w) := by
  subst h
  rfl

theorem run_ofExcept_error {result : Except ε α} {e : ε} (h : result = .error e) (w : World σ ν) :
    (ofExcept result : Action σ ν ε α).run w = (.error e, w) := by
  subst h
  rfl

theorem run_mapError {ε' : Type} (f : ε → ε') (act : Action σ ν ε α) (w : World σ ν) :
    (mapError f act).run w =
      match act.run w with
      | (.ok a, w') => (.ok a, w')
      | (.error e, w') => (.error (f e), w')
      | (.killed, w') => (.killed, w') := rfl

/-! ## Loops -/

/-- A loop that stops at its first bad element.  `I` is what the loop keeps of
the memory, `step` the effect of a good element, and `err` the error of a bad
one, which changes nothing. -/
theorem run_forM {ι : Type} (body : ι → Action σ ν ε Unit) (I : σ → Prop) (good : ι → Bool)
    (step : σ → ι → σ) (err : ι → ε)
    (hgood : ∀ x, good x = true → ∀ w : World σ ν, I w.memory →
      (body x).run w = (.ok (), { w with memory := step w.memory x }) ∧ I (step w.memory x))
    (hbad : ∀ x, good x = false → ∀ w : World σ ν, I w.memory →
      (body x).run w = (.error (err x), w)) :
    ∀ (xs : List ι) (w : World σ ν), I w.memory →
      (xs.forM body).run w =
        (.ofError ((xs.find? fun x => !good x).map err),
          { w with memory := (xs.takeWhile good).foldl step w.memory }) := by
  intro xs
  induction xs with
  | nil => exact fun w _ => rfl
  | cons x xs ih =>
      intro w hI
      cases hx : good x with
      | true =>
          obtain ⟨hrun, hI'⟩ := hgood x hx w hI
          rw [List.find?_cons_of_neg (by simp [hx]), List.takeWhile_cons_of_pos hx]
          exact (bind_ok hrun).trans (ih _ hI')
      | false =>
          rw [List.find?_cons_of_pos (by simp [hx]), List.takeWhile_cons_of_neg (by simp [hx])]
          exact bind_error (hbad x hx w hI)

/-! ## System calls -/

/-- The verdict of the next call.  Calls succeed once the verdicts run out. -/
def verdict : Action σ ν ε Verdict := fun w =>
  (.ok (w.verdicts.headD .ok), { w with verdicts := w.verdicts.tail })

@[simp] theorem run_verdict (w : World σ ν) :
    (verdict : Action σ ν ε Verdict).run w =
      (.ok (w.verdicts.headD .ok), { w with verdicts := w.verdicts.tail }) := rfl

/-- Change the disk, whatever the verdict was. -/
def modifyDisk (f : Disk ν → Disk ν) : Action σ ν ε Unit :=
  fun w => (.ok (), { w with disk := f w.disk })

/-- End as the process ends when it is killed. -/
def die : Action σ ν ε α := fun w => (.killed, w)

/-- A call that does `f` or nothing. -/
def syscall (f : Disk ν → Disk ν) : Action σ ν String Unit := do
  match ← verdict with
  | .ok => modifyDisk f
  | .fail _ message => throw message
  | .kill _ => die

/-- Everything a call that does `f` or nothing can do. -/
theorem run_syscall (f : Disk ν → Disk ν) (w : World σ ν) :
    (syscall f).run w =
      match w.verdicts.headD .ok with
      | .ok => (.ok (), { w with disk := f w.disk, verdicts := w.verdicts.tail })
      | .fail _ message => (.error message, { w with verdicts := w.verdicts.tail })
      | .kill _ => (.killed, { w with verdicts := w.verdicts.tail }) := by
  unfold syscall
  rw [bind_ok (run_verdict w)]
  cases w.verdicts.headD .ok <;> rfl

variable [DecidableEq ν]

/-- Create a file, or truncate the one there is. -/
def create (name : ν) : Action σ ν String Unit :=
  syscall fun d => d.set name (some [])

/-- Append to an open file.  A failing or killed write leaves a prefix. -/
def append (name : ν) (bytes : List UInt8) : Action σ ν String Unit := do
  let put (written : List UInt8) (d : Disk ν) : Disk ν :=
    d.set name (some ((d name).getD [] ++ written))
  match ← verdict with
  | .ok => modifyDisk (put bytes)
  | .fail written message => do
      modifyDisk (put (bytes.take written))
      throw message
  | .kill written => do
      modifyDisk (put (bytes.take written))
      die

/-- Everything an append can do. -/
theorem run_append (name : ν) (bytes : List UInt8) (w : World σ ν) :
    (append name bytes).run w =
      match w.verdicts.headD .ok with
      | .ok =>
          (.ok (), ⟨w.memory, w.disk.set name (some ((w.disk name).getD [] ++ bytes)),
            w.verdicts.tail⟩)
      | .fail written message =>
          (.error message,
            ⟨w.memory, w.disk.set name (some ((w.disk name).getD [] ++ bytes.take written)),
              w.verdicts.tail⟩)
      | .kill written =>
          (.killed,
            ⟨w.memory, w.disk.set name (some ((w.disk name).getD [] ++ bytes.take written)),
              w.verdicts.tail⟩) := by
  unfold append
  rw [bind_ok (run_verdict w)]
  cases w.verdicts.headD .ok <;> rfl

omit [DecidableEq ν] in
/-- Flush a file to the device. -/
def syncAll : Action σ ν String Unit := syscall id

/-- Rename a file over another one, in one step. -/
def rename (source target : ν) : Action σ ν String Unit :=
  syscall fun d => (d.set target (d source)).set source none

omit [DecidableEq ν] in
/-- The point between the last call of an action and its return, where the
process may still be killed. -/
def returnPoint : Action σ ν String Unit := do
  match ← verdict with
  | .kill _ => die
  | _ => pure ()

omit [DecidableEq ν] in
/-- Everything the return point can do. -/
theorem run_returnPoint (w : World σ ν) :
    (returnPoint : Action σ ν String Unit).run w =
      match w.verdicts.headD .ok with
      | .kill _ => (.killed, { w with verdicts := w.verdicts.tail })
      | _ => (.ok (), { w with verdicts := w.verdicts.tail }) := by
  unfold returnPoint
  rw [bind_ok (run_verdict w)]
  cases w.verdicts.headD .ok <;> rfl

omit [DecidableEq ν] in
/-- Whether a file is there.  A call that fails answers no. -/
def fileExists (name : ν) : Action σ ν String Bool := do
  match ← verdict with
  | .ok => fun w => (.ok (w.disk name).isSome, w)
  | .fail _ _ => pure false
  | .kill _ => die

omit [DecidableEq ν] in
/-- Everything a probe can do. -/
theorem run_fileExists (name : ν) (w : World σ ν) :
    (fileExists name).run w =
      match w.verdicts.headD .ok with
      | .ok => (.ok (w.disk name).isSome, { w with verdicts := w.verdicts.tail })
      | .fail _ _ => (.ok false, { w with verdicts := w.verdicts.tail })
      | .kill _ => (.killed, { w with verdicts := w.verdicts.tail }) := by
  simp only [fileExists]
  rw [bind_ok (run_verdict w)]
  cases w.verdicts.headD .ok <;> rfl

omit [DecidableEq ν] in
/-- Read a whole file. -/
def read (name : ν) : Action σ ν String (List UInt8) := do
  match ← verdict with
  | .ok => fun w =>
      match w.disk name with
      | some bytes => (.ok bytes, w)
      | none => (.error "No such file or directory (os error 2)", w)
  | .fail _ message => throw message
  | .kill _ => die

omit [DecidableEq ν] in
/-- Everything a read can do. -/
theorem run_read (name : ν) (w : World σ ν) :
    (read name).run w =
      match w.verdicts.headD .ok with
      | .ok =>
          (match w.disk name with
            | some bytes => .ok bytes
            | none => .error "No such file or directory (os error 2)",
            { w with verdicts := w.verdicts.tail })
      | .fail _ message => (.error message, { w with verdicts := w.verdicts.tail })
      | .kill _ => (.killed, { w with verdicts := w.verdicts.tail }) := by
  simp only [read]
  rw [bind_ok (run_verdict w)]
  cases w.verdicts.headD .ok with
  | ok => cases hfile : w.disk name <;> simp [run, hfile]
  | fail written message => rfl
  | kill written => rfl

end Action

end Foundations
