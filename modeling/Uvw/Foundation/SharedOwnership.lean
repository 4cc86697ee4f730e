import Mathlib.Algebra.BigOperators.Group.Finset.Basic
import Mathlib.Algebra.Order.BigOperators.Group.Finset
import Mathlib.Data.Finset.Lattice.Basic
import Mathlib.Order.Bounds.Basic

/-!
# Shared ownership

A general theory of reference-counted objects.  An `OwnershipGraph` records, for every object, how
many owning references are held from outside (`roots`) and which objects it owns itself (`owned`,
with multiplicity; an object may own itself).  `useCount` is the count a control block would hold
when exactly the objects of `live` exist.

Dropping the last reference to an object destroys it, which drops the references it owned, and so
on: `settle` is the result of that cascade.  It is characterised without reference to the order of
destruction: `isGreatest_settle` says that what survives is the *greatest* set of live objects all
of whose members are still owned from outside or by a member of the set.  In particular ownership
cycles survive, as they do under reference counting.
-/

/-- Owning references between objects of `ι`: those held from outside, and those held by objects. -/
structure OwnershipGraph (ι : Type*) where
  /-- Number of owning references to an object held outside every object. -/
  roots : ι → ℕ
  /-- The objects owned by an object, one entry for every reference. -/
  owned : ι → List ι

namespace OwnershipGraph

variable {ι : Type*} [DecidableEq ι] (G : OwnershipGraph ι)

/-- The number of owning references to `x` when the objects of `live` exist. -/
def useCount (live : Finset ι) (x : ι) : ℕ :=
  G.roots x + ∑ y ∈ live, (G.owned y).count x

/-- One round of destruction: every object without an owning reference goes. -/
def sweep (live : Finset ι) : Finset ι :=
  live.filter fun x => 0 < G.useCount live x

/-- The objects that exist once every destruction has taken place. -/
def settle (live : Finset ι) : Finset ι :=
  G.sweep^[live.card] live

/-- Every object of `S` is owned, from outside or by an object of `S`. -/
def Supported (S : Finset ι) : Prop :=
  ∀ x ∈ S, 0 < G.useCount S x

/-- No owning reference leads to an object that does not exist. -/
def NoDangling (live : Finset ι) : Prop :=
  ∀ x, 0 < G.useCount live x → x ∈ live

variable {G} {live S : Finset ι} {x y : ι}

/-- An object is in use exactly when it is held from outside or owned by a live object. -/
lemma useCount_pos_iff :
    0 < G.useCount live x ↔ 0 < G.roots x ∨ ∃ y ∈ live, x ∈ G.owned y := by
  unfold useCount
  rw [Nat.add_pos_iff_pos_or_pos, Finset.sum_pos_iff]
  simp only [List.count_pos_iff]

/-- Fewer live objects own fewer references. -/
lemma useCount_mono (h : S ⊆ live) : G.useCount S x ≤ G.useCount live x :=
  Nat.add_le_add_left (Finset.sum_le_sum_of_subset h) _

/-! ### One round -/

lemma sweep_subset : G.sweep live ⊆ live :=
  Finset.filter_subset _ _

lemma mem_sweep : x ∈ G.sweep live ↔ x ∈ live ∧ 0 < G.useCount live x :=
  Finset.mem_filter

/-- A round removes nothing exactly when every object is supported. -/
lemma sweep_eq_self_iff : G.sweep live = live ↔ G.Supported live :=
  Finset.filter_eq_self

/-- A supported set survives a round. -/
lemma Supported.subset_sweep (hS : G.Supported S) (h : S ⊆ live) : S ⊆ G.sweep live :=
  fun x hx => mem_sweep.mpr ⟨h hx, (hS x hx).trans_le (useCount_mono h)⟩

/-- A round leaves no dangling reference behind. -/
lemma NoDangling.sweep (h : G.NoDangling live) : G.NoDangling (G.sweep live) := by
  intro x hx
  have hcount : 0 < G.useCount live x := hx.trans_le (useCount_mono sweep_subset)
  exact mem_sweep.mpr ⟨h x hcount, hcount⟩

/-! ### The cascade -/

/-- The cascade is over after as many rounds as there are objects. -/
lemma sweep_iterate_of_card_le {n : ℕ} (h : live.card ≤ n) :
    G.sweep (G.sweep^[n] live) = G.sweep^[n] live := by
  induction n generalizing live with
  | zero =>
    have hempty : live = ∅ := Finset.card_eq_zero.mp (Nat.le_zero.mp h)
    simp [hempty, OwnershipGraph.sweep]
  | succ n ih =>
    rw [Function.iterate_succ_apply]
    by_cases hfix : G.sweep live = live
    · have hiter : G.sweep^[n] live = live := Function.iterate_fixed hfix n
      rw [hfix, hiter, hfix]
    · refine ih (Nat.lt_succ_iff.mp (lt_of_lt_of_le ?_ h))
      exact Finset.card_lt_card (Finset.ssubset_iff_subset_ne.mpr ⟨sweep_subset, hfix⟩)

/-- Rounds only remove objects. -/
lemma sweep_iterate_subset (n : ℕ) : G.sweep^[n] live ⊆ live := by
  induction n generalizing live with
  | zero => exact Finset.Subset.refl _
  | succ n ih =>
    rw [Function.iterate_succ_apply]
    exact ih.trans sweep_subset

lemma settle_subset : G.settle live ⊆ live :=
  sweep_iterate_subset _

/-- What survives the cascade is supported. -/
lemma settle_supported : G.Supported (G.settle live) :=
  sweep_eq_self_iff.mp (sweep_iterate_of_card_le le_rfl)

/-- A supported set of live objects survives the cascade. -/
lemma Supported.subset_settle (hS : G.Supported S) (h : S ⊆ live) : S ⊆ G.settle live := by
  have hiter : ∀ n : ℕ, S ⊆ G.sweep^[n] live := by
    intro n
    induction n with
    | zero => exact h
    | succ n ih =>
      rw [Function.iterate_succ_apply']
      exact hS.subset_sweep ih
  exact hiter _

/-- **The survivors of the cascade**: the greatest set of live objects that supports itself. -/
theorem isGreatest_settle : IsGreatest {S | S ⊆ live ∧ G.Supported S} (G.settle live) :=
  ⟨⟨settle_subset, settle_supported⟩, fun _ hS => hS.2.subset_settle hS.1⟩

/-- Nothing is destroyed while every object is supported. -/
lemma settle_eq_self (h : G.Supported live) : G.settle live = live :=
  Finset.Subset.antisymm settle_subset (h.subset_settle (Finset.Subset.refl _))

/-- The cascade leaves no dangling reference behind. -/
lemma NoDangling.settle (h : G.NoDangling live) : G.NoDangling (G.settle live) := by
  have hiter : ∀ n : ℕ, G.NoDangling (G.sweep^[n] live) := by
    intro n
    induction n with
    | zero => exact h
    | succ n ih =>
      rw [Function.iterate_succ_apply']
      exact ih.sweep
  exact hiter _

/-- A live object held from outside survives. -/
lemma mem_settle_of_root (hx : x ∈ live) (hroot : 0 < G.roots x) : x ∈ G.settle live := by
  have hsupp : G.Supported (insert x (G.settle live)) := by
    intro y hy
    rcases Finset.mem_insert.mp hy with rfl | hy
    · exact useCount_pos_iff.mpr (Or.inl hroot)
    · exact (settle_supported y hy).trans_le (useCount_mono (Finset.subset_insert _ _))
  exact hsupp.subset_settle (Finset.insert_subset hx settle_subset) (Finset.mem_insert_self _ _)

/-- A live object that owns itself survives. -/
lemma mem_settle_of_owns_self (hx : x ∈ live) (hself : x ∈ G.owned x) : x ∈ G.settle live := by
  have hsupp : G.Supported {x} := by
    intro y hy
    obtain rfl := Finset.mem_singleton.mp hy
    exact useCount_pos_iff.mpr (Or.inr ⟨y, hy, hself⟩)
  exact hsupp.subset_settle (Finset.singleton_subset_iff.mpr hx) (Finset.mem_singleton_self _)

/-- What a survivor owns survives, unless the reference was dangling. -/
lemma NoDangling.mem_settle_of_owner (h : G.NoDangling live) (hy : y ∈ G.settle live)
    (hown : x ∈ G.owned y) : x ∈ G.settle live :=
  h.settle x (useCount_pos_iff.mpr (Or.inr ⟨y, hy, hown⟩))

end OwnershipGraph
