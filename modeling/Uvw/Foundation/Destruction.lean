import Mathlib.Data.Fintype.Card
import Mathlib.Data.Fintype.EquivFin
import Mathlib.Logic.Relation
import Uvw.Foundation.SharedOwnership

/-!
# Destroying one object at a time

`OwnershipGraph.settle` destroys in rounds.  Reference counting destroys one object after the other,
in an order that depends on which reference happened to be dropped first.  `Destroys` is one such
destruction; a destruction does not change where the cascade ends (`Destroys.settle_eq`), so every
exhaustive sequence of them ends in `settle` (`eq_settle_of_exhausted`), and there is one
(`destroys_settle`).

The second half compares reference counting with tracing.  `reachable` are the objects to which
owning references lead from an object that is held from outside or owns itself.  Where ownership has
no longer cycles, the two keep the same objects (`mem_settle_iff_reachable`).  Where it has, the cycles
are all that reference counting keeps besides (`Supported.exists_source`), and where the references are
of two kinds, of which only one can form them, every cycle has one of that kind
(`transGen_cases`).
-/

namespace OwnershipGraph

variable {ι : Type*} [DecidableEq ι] (G : OwnershipGraph ι)

/-- One object without an owning reference is destroyed. -/
def Destroys (live live' : Finset ι) : Prop :=
  ∃ x ∈ live, G.useCount live x = 0 ∧ live' = live.erase x

/-- `y` owns `x`. -/
def Owns (y x : ι) : Prop := x ∈ G.owned y

/-- The object is held from outside, or by itself. -/
def Anchored (x : ι) : Prop := 0 < G.roots x ∨ G.Owns x x

/-- Owning references lead to the object from an anchored one of `live`. -/
def Reachable (live : Finset ι) (x : ι) : Prop :=
  ∃ y ∈ live, G.Anchored y ∧ Relation.ReflTransGen G.Owns y x

variable {G} {live live' S : Finset ι} {x y : ι}

/-! ### The order of destruction -/

/-- What survives the cascade was in use all the time. -/
lemma notMem_settle_of_useCount_eq_zero (h : G.useCount live x = 0) : x ∉ G.settle live := by
  intro hx
  have hcount : 0 < G.useCount live x := (settle_supported x hx).trans_le (useCount_mono settle_subset)
  omega

/-- **One destruction does not change where the cascade ends.** -/
lemma Destroys.settle_eq (h : G.Destroys live live') : G.settle live' = G.settle live := by
  obtain ⟨x, hx, hzero, rfl⟩ := h
  apply Finset.Subset.antisymm
  · exact settle_supported.subset_settle (settle_subset.trans (Finset.erase_subset x live))
  · refine settle_supported.subset_settle fun y hy => Finset.mem_erase.mpr ⟨?_, settle_subset hy⟩
    rintro rfl
    exact notMem_settle_of_useCount_eq_zero hzero hy

lemma subset_of_destroys (h : Relation.ReflTransGen G.Destroys live live') : live' ⊆ live := by
  induction h with
  | refl => exact Finset.Subset.refl live
  | tail _ hstep ih =>
    obtain ⟨x, _, _, rfl⟩ := hstep
    exact (Finset.erase_subset x _).trans ih

lemma settle_eq_of_destroys (h : Relation.ReflTransGen G.Destroys live live') :
    G.settle live' = G.settle live := by
  induction h with
  | refl => rfl
  | tail _ hstep ih => exact hstep.settle_eq.trans ih

/-- Nothing can be destroyed exactly when every object is supported. -/
lemma supported_iff_exhausted : G.Supported live ↔ ∀ live', ¬ G.Destroys live live' := by
  constructor
  · rintro h live' ⟨x, hx, hzero, _⟩
    exact absurd (h x hx) (by omega)
  · intro h x hx
    by_contra hzero
    exact h (live.erase x) ⟨x, hx, by omega, rfl⟩

/-- **Every exhaustive sequence of destructions ends in the same objects.** -/
theorem eq_settle_of_exhausted (h : Relation.ReflTransGen G.Destroys live S)
    (hdone : ∀ S', ¬ G.Destroys S S') : S = G.settle live := by
  rw [← settle_eq_of_destroys h]
  exact (settle_eq_self (supported_iff_exhausted.mpr hdone)).symm

/-- Destroying one object after the other comes to an end. -/
theorem destroys_settle (live : Finset ι) :
    Relation.ReflTransGen G.Destroys live (G.settle live) := by
  induction live using Finset.strongInduction with
  | H live ih =>
    by_cases hdone : G.Supported live
    · rw [settle_eq_self hdone]
    · obtain ⟨live', hstep⟩ : ∃ live', G.Destroys live live' := by
        by_contra hnone
        exact hdone (supported_iff_exhausted.mpr fun live' hstep => hnone ⟨live', hstep⟩)
      have hlt : live' ⊂ live := by
        obtain ⟨x, hx, _, rfl⟩ := hstep
        exact Finset.erase_ssubset hx
      rw [← hstep.settle_eq]
      exact Relation.ReflTransGen.head hstep (ih live' hlt)

/-! ### Reference counting and tracing -/

/-- Where no reference dangles, what an anchored object leads to survives. -/
lemma mem_settle_of_reachable (hdang : G.NoDangling live) (h : G.Reachable live x) :
    x ∈ G.settle live := by
  obtain ⟨y, hy, hanchor, hpath⟩ := h
  induction hpath with
  | refl => exact hanchor.elim (mem_settle_of_root hy) (mem_settle_of_owns_self hy)
  | tail _ hown ih => exact hdang.mem_settle_of_owner ih hown

/-- Following owners of a supported set upwards leads to an anchored object, if the owners of an
object rank above it. -/
lemma Supported.reachable (h : G.Supported S) (rank : ι → ℕ)
    (hrank : ∀ y ∈ S, ∀ x, G.Owns y x → x ≠ y → rank x < rank y) (hx : x ∈ S) : G.Reachable S x := by
  -- the induction is on the distance to the highest rank in the set
  induction hn : S.sup rank - rank x using Nat.strong_induction_on generalizing x with
  | _ n ih =>
    rcases useCount_pos_iff.mp (h x hx) with hroot | ⟨y, hy, hown⟩
    · exact ⟨x, hx, Or.inl hroot, Relation.ReflTransGen.refl⟩
    by_cases hxy : x = y
    · subst hxy
      exact ⟨x, hx, Or.inr hown, Relation.ReflTransGen.refl⟩
    have hlt : rank x < rank y := hrank y hy x hown hxy
    have hle : rank y ≤ S.sup rank := Finset.le_sup hy
    obtain ⟨z, hz, hanchor, hpath⟩ := ih (S.sup rank - rank y) (by omega) hy rfl
    exact ⟨z, hz, hanchor, hpath.tail hown⟩

/-- **Reference counting keeps what tracing keeps**, where no reference dangles and the owners of an
object, itself apart, rank above it. -/
theorem mem_settle_iff_reachable (hdang : G.NoDangling live) (rank : ι → ℕ)
    (hrank : ∀ y ∈ live, ∀ x, G.Owns y x → x ≠ y → rank x < rank y) :
    x ∈ G.settle live ↔ G.Reachable live x := by
  refine ⟨fun hx => ?_, mem_settle_of_reachable hdang⟩
  obtain ⟨y, hy, hanchor, hpath⟩ :=
    settle_supported.reachable rank (fun y hy => hrank y (settle_subset hy)) hx
  exact ⟨y, settle_subset hy, hanchor, hpath⟩

/-- A set of live objects that the cascade spares ends where all of them do. -/
lemma settle_eq_of_between (hsub : S ⊆ live) (hsettle : G.settle live ⊆ S) :
    G.settle S = G.settle live := by
  apply Finset.Subset.antisymm
  · exact settle_supported.subset_settle (settle_subset.trans hsub)
  · exact settle_supported.subset_settle hsettle

/-! ### Cycles -/

/-- **What a supported set hangs on**: references lead to each of its objects from one that is held from
outside or lies on a cycle of references. -/
theorem Supported.exists_source (h : G.Supported S) (hx : x ∈ S) :
    ∃ y ∈ S, (0 < G.roots y ∨ Relation.TransGen G.Owns y y) ∧ Relation.ReflTransGen G.Owns y x := by
  by_contra hnone
  -- leading to another object that leads to `x` is well-founded
  let Before : S → S → Prop := fun y z =>
    Relation.TransGen G.Owns y.1 z.1 ∧ Relation.ReflTransGen G.Owns z.1 x
  have : IsTrans S Before := ⟨fun _ _ _ hyz hzw => ⟨hyz.1.trans hzw.1, hzw.2⟩⟩
  have : Std.Irrefl Before := ⟨fun y hcycle => hnone ⟨y.1, y.2, Or.inr hcycle.1, hcycle.2⟩⟩
  have hwf : WellFounded Before := Finite.wellFounded_of_trans_of_irrefl Before
  obtain ⟨y, hpath, hfirst⟩ :=
    hwf.has_min {y | Relation.ReflTransGen G.Owns y.1 x} ⟨⟨x, hx⟩, Relation.ReflTransGen.refl⟩
  -- but the first object to do so has an owner, like all of them
  rcases useCount_pos_iff.mp (h y.1 y.2) with hroot | ⟨z, hz, hown⟩
  · exact hnone ⟨y.1, y.2, Or.inl hroot, hpath⟩
  · exact hfirst ⟨z, hz⟩ (Relation.ReflTransGen.head hown hpath) ⟨Relation.TransGen.single hown, hpath⟩

/-- References lead from the objects that exist only to such, where none dangles. -/
lemma NoDangling.mem_of_path (h : G.NoDangling live) (hy : y ∈ live)
    (hpath : Relation.ReflTransGen G.Owns y x) : x ∈ live := by
  induction hpath with
  | refl => exact hy
  | tail _ hown ih => exact h _ (useCount_pos_iff.mpr (Or.inr ⟨_, ih, hown⟩))

omit [DecidableEq ι] in
/-- A path of references of two kinds is one of the first kind alone, or has one of the second. -/
lemma transGen_cases {r s t : ι → ι → Prop} (hkinds : ∀ y x, t y x → r y x ∨ s y x)
    (h : Relation.TransGen t y x) :
    Relation.TransGen r y x ∨
      ∃ u v, Relation.ReflTransGen t y u ∧ s u v ∧ Relation.ReflTransGen t v x := by
  induction h with
  | single hstep =>
    rcases hkinds _ _ hstep with hr | hs
    · exact Or.inl (Relation.TransGen.single hr)
    · exact Or.inr ⟨y, _, Relation.ReflTransGen.refl, hs, Relation.ReflTransGen.refl⟩
  | tail hpath hstep ih =>
    rcases hkinds _ _ hstep with hr | hs
    · rcases ih with hpath | ⟨u, v, hu, huv, hv⟩
      · exact Or.inl (hpath.tail hr)
      · exact Or.inr ⟨u, v, hu, huv, hv.tail hstep⟩
    · exact Or.inr ⟨_, _, hpath.to_reflTransGen, hs, Relation.ReflTransGen.refl⟩

omit [DecidableEq ι] in
/-- Where every reference leads down in rank or back to where it starts, a cycle is such a reference. -/
lemma rel_self_of_transGen {r : ι → ι → Prop} (rank : ι → ℕ)
    (hrank : ∀ y x, r y x → x ≠ y → rank x < rank y) (h : Relation.TransGen r x x) : r x x := by
  have hdown : ∀ y, Relation.TransGen r x y → rank y < rank x ∨ y = x ∧ r x x := by
    intro y hpath
    induction hpath with
    | @single y hstep =>
      by_cases hyx : y = x
      · exact Or.inr ⟨hyx, hyx ▸ hstep⟩
      · exact Or.inl (hrank x y hstep hyx)
    | @tail y z _ hstep ih =>
      by_cases hzy : z = y
      · exact hzy ▸ ih
      · have hlt := hrank y z hstep hzy
        rcases ih with hlt' | ⟨rfl, _⟩
        · exact Or.inl (hlt.trans hlt')
        · exact Or.inl hlt
  rcases hdown x h with hlt | ⟨_, hself⟩
  · exact absurd hlt (lt_irrefl _)
  · exact hself

end OwnershipGraph
