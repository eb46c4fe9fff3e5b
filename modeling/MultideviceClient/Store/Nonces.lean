import Mathlib.Data.Finset.Basic
import MultideviceClient.Foundations.Hex
import MultideviceClient.Store.Json

/-!
# The nonce store

Nonces live in one file, as two independent sets of hexadecimal texts.  A scoped
view reads and extends one of the two.  All views of a store share one
`Rc<RefCell<NonceFile>>`, which is the memory of the process here.  So a view is
a path and a scope, and every view acts on the same memory.  `has` only reads
and takes the memory as an argument, and `add_many` is an action.

*Encoding.*  `data_encoding::HEXLOWER_PERMISSIVE` is a parameter.  Its law is
its documentation: two lower-case digits a byte, the high one first.
-/

namespace MultideviceClient

open Foundations

/-- A nonce of 24 bytes. -/
abbrev Nonce := { bytes : Bytes // bytes.length = 24 }

/-- `HEXLOWER_PERMISSIVE`. -/
structure HexEncoding where
  encode : Bytes → String
  encode_toList : ∀ bytes, (encode bytes).toList = hexChars bytes

/-- The encoding that the law describes. -/
def HexEncoding.lower : HexEncoding where
  encode bytes := String.ofList (hexChars bytes)
  encode_toList _ := String.toList_ofList

/-- Distinct nonces have distinct texts. -/
theorem HexEncoding.encode_inj (hex : HexEncoding) {a b : Nonce}
    (h : hex.encode a.val = hex.encode b.val) : a = b := by
  apply Subtype.ext
  apply hexChars_injective
  rw [← hex.encode_toList, ← hex.encode_toList, h]

inductive NonceScope where
  | cspE2e
  | d2x
deriving DecidableEq, Repr

/-- `NonceFile`. -/
structure NonceFile where
  cspE2e : Finset String := ∅
  d2x : Finset String := ∅
deriving DecidableEq

namespace NonceFile

/-- The set of a scope. -/
def scope (data : NonceFile) : NonceScope → Finset String
  | .cspE2e => data.cspE2e
  | .d2x => data.d2x

/-- `set.extend(texts)` on the set of a scope. -/
def extend (data : NonceFile) : NonceScope → List String → NonceFile
  | .cspE2e, texts => { data with cspE2e := data.cspE2e ∪ texts.toFinset }
  | .d2x, texts => { data with d2x := data.d2x ∪ texts.toFinset }

/-- A set grows by the texts of its own scope and by nothing else. -/
theorem mem_scope_extend {data : NonceFile} {scope added : NonceScope} {texts : List String}
    {text : String} :
    text ∈ (data.extend added texts).scope scope ↔
      text ∈ data.scope scope ∨ (added = scope ∧ text ∈ texts) := by
  cases added <;> cases scope <;> simp [extend, NonceFile.scope]

end NonceFile

/-- `NonceStore`, without the shared memory. -/
structure NonceStore where
  path : Path

/-- `ScopedNonceStore`, without the shared memory. -/
structure ScopedNonceStore where
  path : Path
  scope : NonceScope

section

variable (hex : HexEncoding) (serde : Serde NonceFile)

/-- `NonceStore::load`. -/
def NonceStore.load (path : Path) : Action NonceFile Path String NonceStore :=
  loadStore serde {} path { path := path }

/-- `NonceStore::scoped`. -/
def NonceStore.scoped (self : NonceStore) (scope : NonceScope) : ScopedNonceStore where
  path := self.path
  scope := scope

namespace ScopedNonceStore

/-- `ScopedNonceStore::save`. -/
def save (self : ScopedNonceStore) (order : Nat) : Action NonceFile Path String Unit :=
  saveJson serde order self.path

/-- `has`. -/
def has (self : ScopedNonceStore) (data : NonceFile) (nonce : Nonce) : Bool :=
  let text := hex.encode nonce.val
  match self.scope with
  | .cspE2e => decide (text ∈ data.cspE2e)
  | .d2x => decide (text ∈ data.d2x)

/-- `add_many`. -/
def addMany (self : ScopedNonceStore) (order : Nat) (nonces : List Nonce) :
    Action NonceFile Path ProviderError Unit := do
  Action.modifyMemory fun data =>
    data.extend self.scope (nonces.map fun nonce => hex.encode nonce.val)
  (self.save serde order).mapError ProviderError.foreign

theorem has_eq_true (self : ScopedNonceStore) (data : NonceFile) (nonce : Nonce) :
    self.has hex data nonce = true ↔ hex.encode nonce.val ∈ data.scope self.scope := by
  obtain ⟨path, scope⟩ := self
  cases scope <;> exact decide_eq_true_iff

/-- Everything `add_many` does: the set grows, and the whole file is written. -/
theorem addMany_fate (self : ScopedNonceStore) (order : Nat) (nonces : List Nonce)
    (data : NonceFile) (verdicts : List Verdict) :
    ∃ (fate : Fate) (outcome : Outcome ProviderError Unit) (rest : List Verdict),
      (∀ disk, (self.addMany hex serde order nonces).run ⟨data, disk, verdicts⟩ =
        (outcome,
          ⟨data.extend self.scope (nonces.map fun nonce => hex.encode nonce.val),
            fate.apply self.path
              (serde.toWriterPretty order
                (data.extend self.scope (nonces.map fun nonce => hex.encode nonce.val))) disk,
            rest⟩)) ∧
      fate.Allows outcome ∧ (fate = .replaced ↔ writeSucceeds verdicts = true) := by
  obtain ⟨fate, outcome, rest, hrun, hallows, hfate, -⟩ := saveJson_fate serde order self.path
    (data.extend self.scope (nonces.map fun nonce => hex.encode nonce.val)) verdicts
  refine ⟨fate, outcome, rest, fun disk => ?_, hallows, hfate⟩
  unfold addMany
  rw [Action.bind_ok (Action.run_modifyMemory _ _)]
  exact hrun disk

theorem addMany_saves (self : ScopedNonceStore) (order : Nat) (nonces : List Nonce)
    (data : NonceFile) (verdicts : List Verdict) :
    Saves serde order self.path data verdicts (writeSucceeds verdicts)
      (self.addMany hex serde order nonces) := by
  obtain ⟨fate, outcome, rest, hrun, hends⟩ :=
    self.addMany_fate hex serde order nonces data verdicts
  exact ⟨_, fate, outcome, rest, hrun, hends⟩

end ScopedNonceStore

end

end MultideviceClient
