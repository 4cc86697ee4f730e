import Mathlib.Data.List.Nodup

/-!
# Shared objects made on demand

Objects are held by owning references and destroyed with the last of them.  A weak reference to the
object made last lets a new holder share it as long as it exists; if it does not, the new holder gets a
new object.  `acquire` and `release` are what happens when a holder comes and goes.

Under `Single`, which both keep, there is at most one object at a time: it is made for the first holder
(`Single.lock_eq_none_iff`) and destroyed with the last one (`Single.release_isSome_iff`).
-/

/-- The holders of objects, and a weak reference; objects are numbered as they are made. -/
structure SharedOnDemand (ι : Type*) where
  /-- The holders, each with the object it holds. -/
  holders : List (ι × ℕ)
  /-- The object made last. -/
  weak : Option ℕ
  made : ℕ
deriving DecidableEq, Repr

namespace SharedOnDemand

variable {ι : Type*}

/-- No object has been made. -/
def empty : SharedOnDemand ι := { holders := [], weak := none, made := 0 }

variable (m : SharedOnDemand ι)

/-- Who holds an object. -/
def names : List ι := m.holders.map Prod.fst

/-- The number of owning references to an object. -/
def useCount (o : ℕ) : ℕ := m.holders.countP fun p => p.2 = o

/-- The object of the weak reference, if it exists. -/
def lock : Option ℕ := m.weak.filter fun o => 0 < m.useCount o

/-- A new holder. -/
def acquire (h : ι) : SharedOnDemand ι :=
  match m.lock with
  | some o => { m with holders := (h, o) :: m.holders }
  | none => { holders := (h, m.made) :: m.holders, weak := some m.made, made := m.made + 1 }

/-- A holder goes, and the object if nobody else holds it. -/
def release [DecidableEq ι] (h : ι) : SharedOnDemand ι × Option ℕ :=
  let m' : SharedOnDemand ι := { m with holders := m.holders.filter fun p => p.1 != h }
  (m', (m.holders.lookup h).filter fun o => m'.useCount o = 0)

/-- All holders are different and hold the object made last. -/
structure Single : Prop where
  shared : ∀ p ∈ m.holders, m.weak = some p.2
  nodup : m.names.Nodup

variable {m} {h : ι}

/-- Nobody has asked yet. -/
lemma single_empty : (empty : SharedOnDemand ι).Single where
  shared _ hp := absurd hp List.not_mem_nil
  nodup := List.nodup_nil

/-- An object that somebody holds is in use. -/
lemma useCount_pos {p : ι × ℕ} (hp : p ∈ m.holders) : 0 < m.useCount p.2 :=
  List.countP_pos_iff.mpr ⟨p, hp, decide_eq_true rfl⟩

/-- **The first holder**: the object made last is gone when nobody holds it. -/
theorem Single.lock_eq_none_iff (hm : m.Single) : m.lock = none ↔ m.names = [] := by
  unfold lock names
  rw [List.map_eq_nil_iff]
  constructor
  · intro hlock
    by_contra hne
    obtain ⟨p, hp⟩ := List.exists_mem_of_ne_nil _ hne
    rw [hm.shared p hp, Option.filter_eq_none_iff] at hlock
    exact hlock p.2 rfl (decide_eq_true (useCount_pos hp))
  · intro hnil
    have hcount : ∀ o, m.useCount o = 0 := by
      intro o
      rw [useCount, hnil, List.countP_nil]
    simp [hcount]

/-! ### Coming and going -/

/-- A new holder is the latest. -/
lemma names_acquire : (m.acquire h).names = h :: m.names := by
  unfold acquire
  split <;> rfl

/-- There is one value when another holder asks, -/
lemma Single.acquire (hm : m.Single) (hh : h ∉ m.names) : (m.acquire h).Single := by
  refine ⟨?_, by rw [names_acquire]; exact List.nodup_cons.mpr ⟨hh, hm.nodup⟩⟩
  unfold SharedOnDemand.acquire
  cases hlock : m.lock with
  | some o =>
    intro p hp
    have hweak : m.weak = some o := (Option.filter_eq_some_iff.mp hlock).1
    rcases List.mem_cons.mp hp with rfl | hp
    · exact hweak
    · exact hm.shared p hp
  | none =>
    intro p hp
    have hnil : m.holders = [] := List.map_eq_nil_iff.mp (hm.lock_eq_none_iff.mp hlock)
    rw [hnil] at hp
    rw [List.mem_singleton.mp hp]

variable [DecidableEq ι]

/-- A holder that lets go is no longer one, -/
lemma Single.names_release (hm : m.Single) (h : ι) : (m.release h).1.names = m.names.erase h := by
  rw [hm.nodup.erase_eq_filter, names, names, List.filter_map]
  rfl

/-- and when a holder lets go. -/
lemma Single.release (hm : m.Single) (h : ι) : (m.release h).1.Single where
  shared p hp := hm.shared p (List.mem_of_mem_filter hp)
  nodup := by
    rw [hm.names_release]
    exact hm.nodup.erase h

/-- **The last holder**: the object is destroyed when nobody holds it any more. -/
theorem Single.release_isSome_iff (hm : m.Single) (hh : h ∈ m.names) :
    (m.release h).2.isSome = true ↔ (m.release h).1.names = [] := by
  obtain ⟨p, hp, rfl⟩ := List.mem_map.mp hh
  obtain ⟨o, ho⟩ := Option.isSome_iff_exists.mp
    (List.lookup_isSome_iff.mpr ⟨p, hp, beq_self_eq_true p.1⟩)
  -- what `p.1` holds is what every holder holds
  obtain ⟨l₁, l₂, hsplit, _⟩ := List.lookup_eq_some_iff.mp ho
  have hweak : m.weak = some o :=
    hm.shared (p.1, o) (hsplit ▸ List.mem_append_right l₁ List.mem_cons_self)
  have hdestroyed : (m.release p.1).2.isSome = true ↔ (m.release p.1).1.useCount o = 0 := by
    show (((m.holders.lookup p.1).filter _).isSome = true ↔ _)
    rw [ho, Option.isSome_filter, Option.any_some, decide_eq_true_eq]
    rfl
  rw [hdestroyed, names, List.map_eq_nil_iff]
  constructor
  · intro hcount
    by_contra hne
    obtain ⟨q, hq⟩ := List.exists_mem_of_ne_nil _ hne
    obtain rfl : o = q.2 := Option.some.inj (hweak.symm.trans ((hm.release p.1).shared q hq))
    exact absurd (useCount_pos hq) (Nat.not_lt.mpr (Nat.le_of_eq hcount))
  · intro hnil
    rw [useCount, hnil, List.countP_nil]

end SharedOnDemand
