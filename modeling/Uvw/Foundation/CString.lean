import Mathlib.Algebra.Group.Defs
import Mathlib.Data.List.OfFn
import Mathlib.Data.List.TakeWhile
import Mathlib.Tactic.Common

/-!
# Terminated strings

A string in a buffer ends at the first terminator, `0`.  `Text` are the lists that can be such a string,
those without a terminator; `cStr` is what stands before the first one, and `scan` what a reader of the
buffer sees, who finds nothing to stop at if there is none.  A text that is followed by a terminator is
read back (`cStr_terminated`, `scan_terminated`), and `write` puts one into an array that has room for
it (`terminated_write`).
-/

namespace CString

variable {α : Type*} [Zero α]

/-- A string without a terminator. -/
abbrev Text (α : Type*) [Zero α] := { v : List α // (0 : α) ∉ v }

/-- The text and its terminator stand at the start of the buffer. -/
def Terminated (buf v : List α) : Prop := ∃ rest, buf = v ++ 0 :: rest

variable {buf v : List α}

/-- A text at the start of a buffer is the first so many cells. -/
lemma Terminated.take (h : Terminated buf v) : buf.take v.length = v := by
  obtain ⟨rest, rfl⟩ := h
  exact List.take_left

variable [DecidableEq α]

/-- The text before the first terminator. -/
def cStr (buf : List α) : Text α :=
  ⟨buf.takeWhile (· ≠ 0), fun h => by simpa using List.mem_takeWhile_imp h⟩

/-- What a reader sees who stops at the first terminator. -/
def scan (buf : List α) : Option (List α) := if 0 ∈ buf then some (cStr buf).1 else none

/-- A text without a terminator is all of itself. -/
lemma cStr_text (v : Text α) : cStr v.1 = v :=
  Subtype.ext (List.takeWhile_eq_self_iff.mpr fun _ ha => decide_eq_true fun h0 => v.2 (h0 ▸ ha))

/-- **Reading a terminated text.** -/
theorem cStr_terminated {v : Text α} (h : Terminated buf v.1) : cStr buf = v := by
  obtain ⟨rest, rfl⟩ := h
  have hpos : ∀ a ∈ v.1, decide (a ≠ 0) = true := fun a ha => decide_eq_true fun h0 => v.2 (h0 ▸ ha)
  have hstop : List.takeWhile (fun a : α => decide (a ≠ 0)) (0 :: rest) = [] :=
    List.takeWhile_cons_of_neg (by simp)
  apply Subtype.ext
  show List.takeWhile _ _ = v.1
  rw [List.takeWhile_append_of_pos hpos, hstop, List.append_nil]

theorem scan_terminated {v : Text α} (h : Terminated buf v.1) : scan buf = some v.1 := by
  have hmem : 0 ∈ buf := by
    obtain ⟨rest, rfl⟩ := h
    exact List.mem_append_right _ List.mem_cons_self
  rw [scan, if_pos hmem, cStr_terminated h]

/-! ### Writing -/

/-- Write a text and its terminator over the first cells of an array. -/
def write {n : ℕ} (v : List α) (buf : Fin n → α) : Fin n → α := fun i =>
  if h : i.1 < v.length then v[i.1] else if i.1 = v.length then 0 else buf i

omit [DecidableEq α] in
/-- **Writing a text** that fits with its terminator. -/
theorem terminated_write {n : ℕ} (buf : Fin n → α) (hv : v.length < n) :
    Terminated (List.ofFn (write v buf)) v := by
  set cells := List.ofFn (write v buf) with hcells
  have hlength : cells.length = n := by rw [hcells, List.length_ofFn]
  have hlt : v.length < cells.length := Nat.lt_of_lt_of_eq hv hlength.symm
  have htext : cells.take v.length = v := by
    refine List.ext_getElem (by rw [List.length_take]; omega) fun i hi hi' => ?_
    simp [hcells, write, hi']
  have hend : cells[v.length] = 0 := by simp [hcells, write]
  refine ⟨cells.drop (v.length + 1), ?_⟩
  calc cells = cells.take v.length ++ cells.drop v.length := by rw [List.take_append_drop]
    _ = v ++ 0 :: cells.drop (v.length + 1) := by rw [htext, List.drop_eq_getElem_cons hlt, hend]

end CString
