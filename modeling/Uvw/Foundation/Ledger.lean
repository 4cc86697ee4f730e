import Mathlib.Data.List.Nodup
import Mathlib.Data.List.Count
import Mathlib.Tactic.Common

/-!
# Ledgers of what is handed out and given back

A ledger numbers the things that were issued, such as blocks of memory, and lists those that were
released, in any order and as often as it happened.  It is sound if nothing is released twice and
nothing that was never issued.  A release keeps the ledger sound exactly if the thing is outstanding
(`sound_release_iff`), and in a sound ledger what is not outstanding any more has been released exactly
once (`count_eq_one`).  `OwnedBy owners` says more: what is outstanding is what `owners` lists, each thing
once.  Its rules are those of a transfer (`OwnedBy.perm`), an issue and a release.
-/

/-- Things numbered in the order they were issued, and the releases. -/
structure Ledger where
  /-- How many things were issued, which is also the number of the next one. -/
  issued : ℕ
  released : List ℕ
deriving DecidableEq, Repr

namespace Ledger

/-- Nothing has been issued. -/
def empty : Ledger := { issued := 0, released := [] }

/-- Issue the thing numbered `l.issued`. -/
def issue (l : Ledger) : Ledger := { l with issued := l.issued + 1 }

/-- Release a thing. -/
def release (l : Ledger) (i : ℕ) : Ledger := { l with released := i :: l.released }

/-- Release a thing, if any. -/
def releaseAny (l : Ledger) : Option ℕ → Ledger
  | none => l
  | some i => l.release i

/-- The thing was issued and not released. -/
def Outstanding (l : Ledger) (i : ℕ) : Prop := i < l.issued ∧ i ∉ l.released

instance (l : Ledger) (i : ℕ) : Decidable (l.Outstanding i) := by
  unfold Outstanding; infer_instance

/-- Nothing is released twice, nor without having been issued. -/
structure Sound (l : Ledger) : Prop where
  once : l.released.Nodup
  issued : ∀ i ∈ l.released, i < l.issued

variable {l : Ledger} {i j : ℕ}

@[simp] lemma issue_issued : l.issue.issued = l.issued + 1 := rfl
@[simp] lemma issue_released : l.issue.released = l.released := rfl
@[simp] lemma release_issued : (l.release i).issued = l.issued := rfl
@[simp] lemma release_released : (l.release i).released = i :: l.released := rfl

/-- An empty ledger is sound, -/
lemma sound_empty : empty.Sound where
  once := List.nodup_nil
  issued _ hi := absurd hi List.not_mem_nil

/-- What is issued next has not been released. -/
lemma Sound.issued_not_mem (h : l.Sound) : l.issued ∉ l.released := by
  intro hmem
  exact Nat.lt_irrefl l.issued (h.issued l.issued hmem)

/-- and it stays so when something is issued. -/
lemma Sound.issue (h : l.Sound) : l.issue.Sound where
  once := h.once
  issued _ hi := Nat.lt_succ_of_lt (h.issued _ hi)

/-- Issuing makes the new thing outstanding and no other. -/
lemma Sound.outstanding_issue (h : l.Sound) :
    l.issue.Outstanding i ↔ l.Outstanding i ∨ i = l.issued := by
  unfold Outstanding
  rw [issue_issued, issue_released, Nat.lt_succ_iff_lt_or_eq]
  constructor
  · rintro ⟨hlt | heq, hnot⟩
    · exact Or.inl ⟨hlt, hnot⟩
    · exact Or.inr heq
  · rintro (⟨hlt, hnot⟩ | rfl)
    · exact ⟨Or.inl hlt, hnot⟩
    · exact ⟨Or.inr rfl, h.issued_not_mem⟩

/-- **Releasing** keeps a ledger sound exactly if the thing is outstanding. -/
theorem sound_release_iff : (l.release i).Sound ↔ l.Sound ∧ l.Outstanding i := by
  constructor
  · rintro ⟨honce, hissued⟩
    rw [release_released, List.nodup_cons] at honce
    refine ⟨⟨honce.2, fun j hj => hissued j (List.mem_cons_of_mem i hj)⟩, ?_, honce.1⟩
    exact hissued i List.mem_cons_self
  · rintro ⟨⟨honce, hissued⟩, hlt, hnot⟩
    exact ⟨List.nodup_cons.mpr ⟨hnot, honce⟩, List.forall_mem_cons.mpr ⟨hlt, hissued⟩⟩

/-- What is released is no longer outstanding, and everything else is as before. -/
lemma outstanding_release : (l.release i).Outstanding j ↔ l.Outstanding j ∧ j ≠ i := by
  unfold Outstanding
  rw [release_issued, release_released, List.mem_cons, not_or]
  exact ⟨fun ⟨hlt, hne, hnot⟩ => ⟨⟨hlt, hnot⟩, hne⟩,
    fun ⟨⟨hlt, hnot⟩, hne⟩ => ⟨hlt, hne, hnot⟩⟩

/-- Releasing what is outstanding, or nothing, keeps a ledger sound. -/
lemma Sound.releaseAny (h : l.Sound) {o : Option ℕ} (ho : ∀ i, o = some i → l.Outstanding i) :
    (l.releaseAny o).Sound := by
  cases o with
  | none => exact h
  | some i => exact sound_release_iff.mpr ⟨h, ho i rfl⟩

/-- **Exactly once**: what a sound ledger issued is outstanding or was released exactly once. -/
theorem Sound.count_eq_one (h : l.Sound) (hi : i < l.issued) (hout : ¬ l.Outstanding i) :
    l.released.count i = 1 := by
  have hmem : i ∈ l.released := by
    by_contra hnot
    exact hout ⟨hi, hnot⟩
  exact List.count_eq_one_of_mem h.once hmem

/-! ### Owners -/

/-- The outstanding things are those listed, each once. -/
structure OwnedBy (l : Ledger) (owners : List ℕ) : Prop where
  sound : l.Sound
  nodup : owners.Nodup
  outstanding : ∀ i, l.Outstanding i ↔ i ∈ owners

variable {owners owners' : List ℕ}

/-- Nobody owns anything of an empty ledger. -/
lemma ownedBy_empty : empty.OwnedBy [] where
  sound := sound_empty
  nodup := List.nodup_nil
  outstanding _ := iff_of_false (fun h => Nat.not_lt_zero _ h.1) List.not_mem_nil

/-- What is owned may change hands. -/
lemma OwnedBy.perm (h : l.OwnedBy owners) (hperm : owners.Perm owners') : l.OwnedBy owners' where
  sound := h.sound
  nodup := hperm.nodup_iff.mp h.nodup
  outstanding i := (h.outstanding i).trans hperm.mem_iff

/-- **Issuing** gives the owners one thing more. -/
theorem OwnedBy.issue (h : l.OwnedBy owners) : l.issue.OwnedBy (l.issued :: owners) where
  sound := h.sound.issue
  nodup := List.nodup_cons.mpr
    ⟨fun hmem => Nat.lt_irrefl _ ((h.outstanding _).mpr hmem).1, h.nodup⟩
  outstanding i := by
    rw [h.sound.outstanding_issue, h.outstanding, List.mem_cons, or_comm]

/-- **Releasing** takes it from them. -/
theorem OwnedBy.release (h : l.OwnedBy (i :: owners)) : (l.release i).OwnedBy owners where
  sound := sound_release_iff.mpr ⟨h.sound, (h.outstanding i).mpr List.mem_cons_self⟩
  nodup := (List.nodup_cons.mp h.nodup).2
  outstanding j := by
    rw [outstanding_release, h.outstanding, List.mem_cons]
    constructor
    · rintro ⟨heq | hmem, hne⟩
      · exact absurd heq hne
      · exact hmem
    · intro hmem
      exact ⟨Or.inr hmem, fun heq => (List.nodup_cons.mp h.nodup).1 (heq ▸ hmem)⟩

/-- The owner of something, or of nothing, may release it. -/
lemma OwnedBy.releaseAny {o : Option ℕ} (h : l.OwnedBy (o.toList ++ owners)) :
    (l.releaseAny o).OwnedBy owners := by
  cases o with
  | none => exact h
  | some i => exact h.release

/-- What has no owner any more has been released exactly once. -/
lemma OwnedBy.count_eq_one (h : l.OwnedBy owners) (hi : i < l.issued) (hnot : i ∉ owners) :
    l.released.count i = 1 :=
  h.sound.count_eq_one hi fun hout => hnot ((h.outstanding i).mp hout)

end Ledger
