import Mathlib.Data.List.Basic
import Mathlib.Data.List.Perm.Basic
import Mathlib.Tactic.Common

/-!
# Stable partitions

`partitioned p l` has the elements of `l` that satisfy `p` before the others, both in their order.
`getElem?_partitioned` says where each element goes, and `partitioned_eq_self_iff` when none of them
moves.
-/

namespace StablePartition

variable {α : Type*} {p : α → Bool} {l : List α} {i : ℕ} {a : α}

/-- The elements that satisfy `p`, then the others. -/
def partitioned (p : α → Bool) (l : List α) : List α := l.filter p ++ l.filter fun a => !p a

/-- Where the element at an index goes. -/
def position (p : α → Bool) (l : List α) (i : ℕ) : ℕ :=
  match l[i]? with
  | some a =>
    if p a then (l.take i).countP p else l.countP p + (l.take i).countP fun a => !p a
  | none => i

lemma length_partitioned : (partitioned p l).length = l.length :=
  (List.filter_append_perm p l).length_eq

/-- An element of a filtered list comes after those before it. -/
lemma getElem?_filter_countP (hi : l[i]? = some a) (hp : p a = true) :
    (l.filter p)[(l.take i).countP p]? = some a := by
  induction l generalizing i with
  | nil => cases hi
  | cons b l ih =>
    cases i with
    | zero =>
      obtain rfl := Option.some.inj hi
      rw [List.filter_cons_of_pos hp]
      rfl
    | succ i =>
      have hrest : (l.filter p)[(l.take i).countP p]? = some a := ih hi
      cases hb : p b with
      | true => rwa [List.filter_cons_of_pos hb, List.take_succ_cons, List.countP_cons_of_pos hb]
      | false =>
        have hnot : ¬ p b = true := Bool.eq_false_iff.mp hb
        rwa [List.filter_cons_of_neg hnot, List.take_succ_cons, List.countP_cons_of_neg hnot]

/-- **Where the elements go.** -/
theorem getElem?_partitioned (hi : l[i]? = some a) :
    (partitioned p l)[position p l i]? = some a := by
  rw [position, hi, partitioned]
  dsimp only
  split
  next hp =>
    have hfirst := getElem?_filter_countP hi hp
    rwa [List.getElem?_append_left (List.getElem?_eq_some_iff.mp hfirst).1]
  next hp =>
    have hnot : (!p a) = true := by simpa using hp
    have hlength : (l.filter p).length = l.countP p := List.countP_eq_length_filter.symm
    rw [List.getElem?_append_right (by omega), hlength, Nat.add_sub_cancel_left]
    exact getElem?_filter_countP (p := fun a => !p a) hi hnot

/-- **When nothing moves**: no element that satisfies `p` comes after one that does not. -/
theorem partitioned_eq_self_iff :
    partitioned p l = l ↔ l.Pairwise fun a b => p b = true → p a = true := by
  induction l with
  | nil => exact iff_of_true rfl List.Pairwise.nil
  | cons a l ih =>
    rw [List.pairwise_cons]
    cases ha : p a with
    | true =>
      have hcons : partitioned p (a :: l) = a :: partitioned p l := by
        rw [partitioned, List.filter_cons_of_pos ha, List.filter_cons_of_neg (by simp [ha])]
        rfl
      rw [hcons, List.cons_inj_right, ih]
      exact (and_iff_right fun _ _ _ => rfl).symm
    | false =>
      have hnot : ¬ p a = true := Bool.eq_false_iff.mp ha
      have hcons : partitioned p (a :: l) = l.filter p ++ a :: l.filter fun a => !p a := by
        rw [partitioned, List.filter_cons_of_neg hnot, List.filter_cons_of_pos (by simp [ha])]
      rw [hcons]
      constructor
      · intro heq
        have hnone : l.filter p = [] := by
          cases hfilter : l.filter p with
          | nil => rfl
          | cons b bs =>
            -- the first element would satisfy `p`
            have hb : p b = true := (List.mem_filter.mp (hfilter ▸ List.mem_cons_self)).2
            rw [hfilter, List.cons_append, List.cons.injEq] at heq
            exact absurd (heq.1 ▸ hb) hnot
        refine ⟨fun b hb hp => absurd hp (List.filter_eq_nil_iff.mp hnone b hb), ih.mp ?_⟩
        rw [hnone, List.nil_append, List.cons_inj_right] at heq
        rw [partitioned, hnone, List.nil_append, heq]
      · rintro ⟨hnone, _⟩
        have hfirst : l.filter p = [] :=
          List.filter_eq_nil_iff.mpr fun b hb hp => Bool.false_ne_true (hnone b hb hp)
        have hothers : (l.filter fun a => !p a) = l :=
          List.filter_eq_self.mpr fun b hb => by
            rw [Bool.not_eq_true', Bool.eq_false_iff]
            exact List.filter_eq_nil_iff.mp hfirst b hb
        rw [hfirst, hothers, List.nil_append]

/-- Every element is where it was exactly if nothing moves. -/
lemma getElem?_partitioned_iff :
    (∀ (i : ℕ) a, l[i]? = some a → (partitioned p l)[i]? = some a) ↔ partitioned p l = l := by
  constructor
  · intro hkeeps
    refine List.ext_getElem? fun i => ?_
    cases hi : l[i]? with
    | some a => exact hkeeps i a hi
    | none =>
      rw [List.getElem?_eq_none_iff] at hi ⊢
      rwa [length_partitioned]
  · intro heq i a hi
    rwa [heq]

end StablePartition
