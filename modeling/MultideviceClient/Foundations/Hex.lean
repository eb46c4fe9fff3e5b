import Mathlib.Logic.Function.Basic

/-!
# Lower-case hexadecimal text

Every byte becomes two digits, the high one first.  The text determines the
bytes (`hexChars_injective`).
-/

namespace Foundations

/-- A hexadecimal digit. -/
def hexDigit (n : Nat) : Char :=
  if n < 10 then Char.ofNat (48 + n) else Char.ofNat (87 + n)

/-- The two digits of a byte. -/
def hexPair (b : UInt8) : List Char := [hexDigit (b.toNat / 16), hexDigit (b.toNat % 16)]

/-- The digits of a byte string. -/
def hexChars (bytes : List UInt8) : List Char := bytes.flatMap hexPair

theorem hexDigit_inj {m n : Nat} (hm : m < 16) (hn : n < 16) (h : hexDigit m = hexDigit n) :
    m = n := by
  have hfin : ∀ a b : Fin 16, hexDigit a = hexDigit b → a = b := by decide
  exact congrArg Fin.val (hfin ⟨m, hm⟩ ⟨n, hn⟩ h)

theorem hexPair_inj {a b : UInt8} (h : hexPair a = hexPair b) : a = b := by
  have ha := a.toNat_lt
  have hb := b.toNat_lt
  simp only [hexPair, List.cons.injEq, and_true] at h
  have hhigh := hexDigit_inj (by omega) (by omega) h.1
  have hlow := hexDigit_inj (by omega) (by omega) h.2
  apply UInt8.toNat_inj.mp
  omega

/-- Distinct byte strings have distinct texts. -/
theorem hexChars_injective : Function.Injective hexChars := by
  intro xs
  induction xs with
  | nil =>
      intro ys h
      cases ys with
      | nil => rfl
      | cons y ys => simp [hexChars, hexPair] at h
  | cons x xs ih =>
      intro ys h
      cases ys with
      | nil => simp [hexChars, hexPair] at h
      | cons y ys =>
          simp only [hexChars, List.flatMap_cons] at h
          obtain ⟨hpair, hrest⟩ := List.append_inj h (by simp [hexPair])
          rw [hexPair_inj hpair, ih hrest]

end Foundations
