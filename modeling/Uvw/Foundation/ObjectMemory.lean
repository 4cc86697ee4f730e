import Mathlib.Data.Fin.Basic
import Mathlib.Logic.Nontrivial.Defs

/-!
# Objects in memory

A memory is a sequence of cells, seen from an address on; an object of size `n` is the content of `n`
cells.  Code that is handed a pointer to an object may read beyond its end, and finds there whatever
the memory holds: `Object.at` is what it sees.  Code that copies an object into a smaller one keeps the
first cells only: `Object.first`.  `slice_first_iff` says which fields of the larger object can be read
through a pointer to the smaller one.
-/

namespace ObjectMemory

variable {α : Type*}

/-- The cells from an address on. -/
abbrev Memory (α : Type*) := ℕ → α

/-- The content of `n` cells. -/
abbrev Object (α : Type*) (n : ℕ) := Fin n → α

/-- The object of size `len` that begins at `off`. -/
def Memory.slice (m : Memory α) (off len : ℕ) : Object α len := fun i => m (off + i)

namespace Object

variable {n k : ℕ}

/-- What a pointer to the object sees: the object, then the rest of the memory. -/
def «at» (b : Object α n) (rest : Memory α) : Memory α :=
  fun i => if h : i < n then b ⟨i, h⟩ else rest (i - n)

/-- The first cells of an object. -/
def first (b : Object α n) (h : k ≤ n) : Object α k := fun i => b (i.castLE h)

variable {b : Object α n} {rest : Memory α} {i : ℕ}

/-- Inside the object is the object, -/
lemma at_of_lt (h : i < n) : b.at rest i = b ⟨i, h⟩ := dif_pos h

/-- and behind it the rest. -/
lemma at_add (b : Object α n) (rest : Memory α) (i : ℕ) : b.at rest (n + i) = rest i := by
  have hge : ¬ n + i < n := by omega
  rw [Object.at, dif_neg hge, Nat.add_sub_cancel_left]

/-- Within the first cells, the copy shows what the object does. -/
lemma first_at_of_lt (h : k ≤ n) (rest' : Memory α) (hi : i < k) :
    (b.first h).at rest i = b.at rest' i := by
  rw [at_of_lt hi, at_of_lt (hi.trans_le h)]
  rfl

@[simp] lemma first_self (b : Object α n) : b.first le_rfl = b := rfl

/-- The object can be read back through a pointer to it. -/
@[simp] lemma slice_zero_at (b : Object α n) (rest : Memory α) :
    Memory.slice (b.at rest) 0 n = b := by
  funext i
  have hi : 0 + i < n := by omega
  rw [Memory.slice, at_of_lt hi]
  exact congrArg b (Fin.ext (Nat.zero_add i))

end Object

open Object

variable {n k off len : ℕ} {b : Object α n} {rest rest' : Memory α}

/-- A field within the first cells can be read through a pointer to a copy of these. -/
lemma slice_first (hk : k ≤ n) (h : off + len ≤ k) :
    Memory.slice ((b.first hk).at rest) off len = Memory.slice (b.at rest') off len := by
  funext i
  have hi : off + i < k := by omega
  exact first_at_of_lt hk rest' hi

/-- **What survives a truncation**: a field can be read through a pointer to a copy of the first cells,
whatever follows the copy, exactly if it lies within these. -/
theorem slice_first_iff [Nontrivial α] (hk : k ≤ n) (hlen : 0 < len) (rest' : Memory α) :
    (∀ rest, Memory.slice ((b.first hk).at rest) off len = Memory.slice (b.at rest') off len) ↔
      off + len ≤ k := by
  refine ⟨fun h => ?_, fun h rest => slice_first hk h⟩
  by_contra hnot
  -- the last cell of the field comes after the copy
  obtain ⟨j, hj⟩ : ∃ j, off + (len - 1) = k + j := ⟨off + (len - 1) - k, by omega⟩
  obtain ⟨a, ha⟩ := exists_ne (b.at rest' (off + (len - 1)))
  have hlast := congrFun (h fun _ => a) ⟨len - 1, by omega⟩
  have hrest : (b.first hk).at (fun _ => a) (off + (len - 1)) = a := by
    rw [hj, at_add]
  exact ha (hrest.symm.trans hlast)

end ObjectMemory
