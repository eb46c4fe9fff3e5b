import Mathlib.Data.Nat.Digits.Defs
import Mathlib.Data.Finset.Sort
import Mathlib.Data.Finmap
import Mathlib.Data.String.Basic

/-!
# Codecs

A *codec* writes a value as bytes and reads it back from the front of a longer
byte string.  That law (`get_put`) makes codecs compose: a list, an option or a
structure is written part after part, and read back part after part.

Numbers are decimal and end in a colon, and byte strings have their length in
front.  A finite set or map is written in the order of its keys, rotated by a
number that the caller chooses, since a hash table has no order of its own.
-/

namespace Foundations

/-- A way to write a type as bytes. -/
structure Codec (α : Type) where
  put : α → List UInt8
  get : List UInt8 → Option (α × List UInt8)
  get_put : ∀ a rest, get (put a ++ rest) = some (a, rest)

namespace Codec

variable {α β : Type}

/-- The ten digits. -/
def digit (d : Nat) : UInt8 := UInt8.ofNat (48 + d)

theorem digit_toNat : ∀ d : Fin 10, (digit d).toNat - 48 = d := by decide

theorem digit_ne_colon : ∀ d : Fin 10, digit d ≠ 58 := by decide

/-- Decimal numbers, lowest digit first. -/
def nat : Codec Nat where
  put n := (Nat.digits 10 n).map digit ++ [58]
  get bytes :=
    match bytes.dropWhile (· != 58) with
    | [] => none
    | _ :: rest =>
        some (Nat.ofDigits 10 ((bytes.takeWhile (· != 58)).map fun b => b.toNat - 48), rest)
  get_put n rest := by
    have hdigits : ∀ b ∈ (Nat.digits 10 n).map digit, (b != 58) = true := by
      intro b hb
      obtain ⟨d, hd, rfl⟩ := List.mem_map.mp hb
      exact bne_iff_ne.mpr (digit_ne_colon ⟨d, Nat.digits_lt_base (by decide) hd⟩)
    rw [List.append_assoc, List.dropWhile_append_of_pos hdigits,
      List.takeWhile_append_of_pos hdigits]
    have hback : (Nat.digits 10 n).map ((fun b : UInt8 => b.toNat - 48) ∘ digit) =
        Nat.digits 10 n := by
      conv_rhs => rw [← List.map_id (Nat.digits 10 n)]
      exact List.map_congr_left fun d hd => digit_toNat ⟨d, Nat.digits_lt_base (by decide) hd⟩
    simp [hback, Nat.ofDigits_digits]

/-- Byte strings with their length in front. -/
def bytes : Codec (List UInt8) where
  put bs := nat.put bs.length ++ bs
  get input :=
    match nat.get input with
    | none => none
    | some (n, rest) => some (rest.take n, rest.drop n)
  get_put bs rest := by
    rw [List.append_assoc, nat.get_put]
    simp

/-- A type that embeds into one with a codec.  Reading may fail. -/
def comap (c : Codec β) (f : α → β) (g : β → Option α) (h : ∀ a, g (f a) = some a) : Codec α where
  put a := c.put (f a)
  get input :=
    match c.get input with
    | none => none
    | some (b, rest) => (g b).map fun a => (a, rest)
  get_put a rest := by
    rw [c.get_put]
    simp [h]

/-- One value after another. -/
def pair (c : Codec α) (d : Codec β) : Codec (α × β) where
  put p := c.put p.1 ++ d.put p.2
  get input :=
    match c.get input with
    | none => none
    | some (a, rest) =>
        match d.get rest with
        | none => none
        | some (b, rest) => some ((a, b), rest)
  get_put p rest := by
    simp only [List.append_assoc, c.get_put, d.get_put]

/-- The values of a list of known length. -/
def getMany (c : Codec α) : Nat → List UInt8 → Option (List α × List UInt8)
  | 0, input => some ([], input)
  | n + 1, input =>
      match c.get input with
      | none => none
      | some (a, rest) => (c.getMany n rest).map fun found => (a :: found.1, found.2)

theorem getMany_put (c : Codec α) (as : List α) (rest : List UInt8) :
    c.getMany as.length (as.flatMap c.put ++ rest) = some (as, rest) := by
  induction as with
  | nil => rfl
  | cons a as ih =>
      rw [List.length_cons, getMany, List.flatMap_cons, List.append_assoc, c.get_put]
      simp [ih]

/-- Lists with their length in front. -/
def list (c : Codec α) : Codec (List α) where
  put as := nat.put as.length ++ as.flatMap c.put
  get input :=
    match nat.get input with
    | none => none
    | some (n, rest) => c.getMany n rest
  get_put as rest := by
    rw [List.append_assoc, nat.get_put]
    exact c.getMany_put as rest

/-- An optional value is a list of at most one. -/
def option (c : Codec α) : Codec (Option α) :=
  c.list.comap Option.toList (fun as => some as.head?) fun o => by cases o <;> rfl

/-- Finite sets. -/
def finset [LinearOrder α] (c : Codec α) (order : Nat) : Codec (Finset α) :=
  c.list.comap (fun s => s.sort.rotate order) (fun as => some as.toFinset) fun s => by
    congr 1
    ext a
    rw [List.mem_toFinset, List.mem_rotate, Finset.mem_sort]

/-- The entries of a finite map, in the order of a list of keys. -/
def entries [DecidableEq α] (m : Finmap fun _ : α => β) (keys : List α) : List (α × β) :=
  keys.filterMap fun key => (m.lookup key).map fun value => (key, value)

theorem dlookup_entries [DecidableEq α] (m : Finmap fun _ : α => β) (keys : List α) (key : α) :
    ((entries m keys).map fun p => (⟨p.1, p.2⟩ : Sigma fun _ : α => β)).dlookup key =
      if key ∈ keys then m.lookup key else none := by
  induction keys with
  | nil => simp [entries]
  | cons k keys ih =>
      cases hk : m.lookup k with
      | none =>
          have : entries m (k :: keys) = entries m keys := by simp [entries, hk]
          rw [this, ih]
          by_cases heq : key = k
          · subst heq
            simp [hk]
          · simp [heq]
      | some value =>
          have : entries m (k :: keys) = (k, value) :: entries m keys := by simp [entries, hk]
          rw [this, List.map_cons]
          by_cases heq : key = k
          · subst heq
            simp [hk]
          · rw [List.dlookup_cons_ne _ _ heq, ih]
            simp [heq]

/-- Finite maps. -/
def finmap [LinearOrder α] (c : Codec α) (d : Codec β) (order : Nat) :
    Codec (Finmap fun _ : α => β) :=
  (c.pair d).list.comap (fun m => entries m (m.keys.sort.rotate order))
    (fun ps => some (ps.map fun p => (⟨p.1, p.2⟩ : Sigma fun _ : α => β)).toFinmap) fun m => by
    congr 1
    apply Finmap.ext_lookup
    intro key
    rw [Finmap.dlookup_list_toFinmap, dlookup_entries]
    by_cases hkey : key ∈ m
    · rw [if_pos]
      rw [List.mem_rotate, Finset.mem_sort, Finmap.mem_keys]
      exact hkey
    · rw [if_neg, Finmap.lookup_eq_none.mpr hkey]
      rw [List.mem_rotate, Finset.mem_sort, Finmap.mem_keys]
      exact hkey

end Codec

end Foundations
