import Mathlib.Data.Finset.Basic
import Mathlib.Data.Finset.Insert
import Uvw.Foundation.TransitionSystem

/-!
# Thread-local storage

A `thread_local_storage` object is a key of libuv: its constructor creates one, `get` and `set` use it from
whatever thread calls them, and its destructor deletes it.  Keys are shared by the process: one that was
deleted may be given to the next object.

The constructor leaves the result of `uv_key_create` alone.  If it fails, the object keeps the `uv_key_t` it
was initialised with, which is zero, and that may be the key of somebody else.  `separate_forever_iff` says
that the objects of a run are separate, now and whatever is done with them, exactly if no constructor has
failed.
-/

namespace Uvw

open TransitionSystem

/-- The thread-local storage of a process.  Objects, threads and pointers are numbers, `0` the null pointer. -/
structure Tls where
  /-- The keys libuv has created and not deleted since. -/
  keys : Finset ℕ
  /-- The values of the keys, for each thread. -/
  values : ℕ → ℕ → ℕ
  /-- The keys of the objects that exist. -/
  objects : ℕ → Option ℕ
  /-- What each thread has last set on each object since that was constructed. -/
  stored : ℕ → ℕ → ℕ

/-- What is done with it. -/
inductive TlsAction
  /-- An object is constructed; `uv_key_create` returns the code, and the key if that is `0`. -/
  | construct (o : ℕ) (code : Int) (key : ℕ)
  /-- It is destroyed. -/
  | destroy (o : ℕ)
  /-- A thread calls `set`. -/
  | set (t o : ℕ) (value : ℕ)

/-- The constructor fails to create a key. -/
def TlsAction.Fails : TlsAction → Prop
  | .construct _ code _ => code ≠ 0
  | _ => False

namespace Tls

/-- No object has been constructed. -/
def start : Tls := { keys := ∅, values := fun _ _ => 0, objects := fun _ => none, stored := fun _ _ => 0 }

variable (s : Tls)

/-- `uv_key_create`: a key that is not in use, null in all threads; `none` where the key is in use. -/
def uvKeyCreate (key : ℕ) : Option Tls :=
  if key ∈ s.keys then none
  else some { s with
    keys := insert key s.keys
    values := fun t => Function.update (s.values t) key 0 }

/-- `uv_key_delete`; `none` where it does not know the key and aborts. -/
def uvKeyDelete (key : ℕ) : Option Tls :=
  if key ∈ s.keys then some { s with keys := s.keys.erase key } else none

/-- `uv_key_get`. -/
def uvKeyGet (t key : ℕ) : ℕ := s.values t key

/-- `uv_key_set`. -/
def uvKeySet (t key value : ℕ) : Tls :=
  { s with values := Function.update s.values t (Function.update (s.values t) key value) }

/-- The object exists from now on, with nothing stored in it. -/
def enter (o key : ℕ) : Tls :=
  { s with
    objects := Function.update s.objects o (some key)
    stored := Function.update s.stored o fun _ => 0 }

/-- The constructor. -/
def construct (o : ℕ) (code : Int) (key : ℕ) : Option Tls :=
  if code = 0 then (s.uvKeyCreate key).map fun s => s.enter o key
  -- the key is what it was initialised with
  else some (s.enter o 0)

/-- The destructor. -/
def destroy (o : ℕ) : Option Tls :=
  (s.objects o).bind fun key =>
    (s.uvKeyDelete key).map fun s => { s with objects := Function.update s.objects o none }

/-- `thread_local_storage::get`, called by a thread. -/
def get (t o : ℕ) : Option ℕ := (s.objects o).map (s.uvKeyGet t)

/-- `thread_local_storage::set`, called by a thread. -/
def set (t o value : ℕ) : Option Tls :=
  (s.objects o).map fun key =>
    let s := s.uvKeySet t key value
    { s with stored := Function.update s.stored o (Function.update (s.stored o) t value) }

/-- One action. -/
def step : TlsAction → Option Tls
  | .construct o code key => if s.objects o = none then s.construct o code key else none
  | .destroy o => s.destroy o
  | .set t o value => s.set t o value

/-- Every object has a key of libuv that no other object has, and a thread gets from it what it has last
set on it. -/
def Separate : Prop :=
  ∀ o key, s.objects o = some key →
    key ∈ s.keys ∧ (∀ o', s.objects o' = some key → o' = o) ∧ ∀ t, s.get t o = some (s.stored o t)

variable {s s' : Tls} {o o' key t value : ℕ}

lemma get_eq (ho : s.objects o = some key) : s.get t o = some (s.values t key) := by
  rw [get, ho]
  rfl

/-! ## While no constructor fails -/

/-- What holds as long as no constructor fails. -/
structure Inv (s : Tls) : Prop where
  created : ∀ o key, s.objects o = some key → key ∈ s.keys
  value : ∀ o key, s.objects o = some key → ∀ t, s.values t key = s.stored o t
  /-- No two objects share a key, -/
  distinct : ∀ o o' key, s.objects o = some key → s.objects o' = some key → o = o'
  /-- and every key is that of an object. -/
  owned : ∀ key ∈ s.keys, ∃ o, s.objects o = some key

lemma Inv.separate (h : s.Inv) : s.Separate := by
  refine fun o key ho => ⟨h.created o key ho, fun o' ho' => h.distinct o' o key ho' ho, fun t => ?_⟩
  rw [get_eq ho, h.value o key ho t]

lemma inv_start : start.Inv where
  created _ _ ho := by cases ho
  value _ _ ho := by cases ho
  distinct _ _ _ ho := by cases ho
  owned _ hkey := absurd hkey (Finset.notMem_empty _)

/-- **A constructor that succeeds** gives the object a key of its own. -/
lemma Inv.construct (h : s.Inv) (hnew : s.objects o = none) (hstep : s.construct o 0 key = some s') :
    s'.Inv := by
  obtain ⟨u, hu, rfl⟩ := Option.map_eq_some_iff.mp hstep
  obtain ⟨hfree, heq⟩ := Option.ite_none_left_eq_some.mp hu
  obtain rfl := Option.some.inj heq
  -- the other objects have other keys
  have hother : ∀ x k, x ≠ o → Function.update s.objects o (some key) x = some k →
      s.objects x = some k ∧ k ≠ key := by
    intro x k hx hk
    rw [Function.update_of_ne hx] at hk
    exact ⟨hk, fun heq => hfree (heq ▸ h.created x k hk)⟩
  have hself : ∀ k, Function.update s.objects o (some key) o = some k → k = key := by
    intro k hk
    rw [Function.update_self] at hk
    exact (Option.some.inj hk).symm
  refine ⟨fun x k hk => ?_, fun x k hk t => ?_, fun x y k hx hy => ?_, fun k hk => ?_⟩
  · by_cases hxo : x = o
    · subst hxo
      exact hself k hk ▸ Finset.mem_insert_self _ _
    · exact Finset.mem_insert_of_mem (h.created x k (hother x k hxo hk).1)
  · show Function.update (s.values t) key 0 k = Function.update s.stored o (fun _ => 0) x t
    by_cases hxo : x = o
    · subst hxo
      rw [hself k hk, Function.update_self, Function.update_self]
    · obtain ⟨hold, hne⟩ := hother x k hxo hk
      rw [Function.update_of_ne hne, Function.update_of_ne hxo]
      exact h.value x k hold t
  · by_cases hxo : x = o
    · by_cases hyo : y = o
      · rw [hxo, hyo]
      · exact absurd (hself k (hxo ▸ hx)) (hother y k hyo hy).2
    · by_cases hyo : y = o
      · exact absurd (hself k (hyo ▸ hy)) (hother x k hxo hx).2
      · exact h.distinct x y k (hother x k hxo hx).1 (hother y k hyo hy).1
  · rcases Finset.mem_insert.mp hk with rfl | hold
    · exact ⟨o, Function.update_self ..⟩
    · obtain ⟨x, hx⟩ := h.owned k hold
      have hxo : x ≠ o := by
        rintro rfl
        rw [hnew] at hx
        cases hx
      exact ⟨x, (Function.update_of_ne hxo _ _).trans hx⟩

/-- **A destructor** deletes the key of its object. -/
lemma Inv.destroy (h : s.Inv) (hstep : s.destroy o = some s') : s'.Inv := by
  obtain ⟨key, ho, hdelete⟩ := Option.bind_eq_some_iff.mp hstep
  obtain ⟨u, hu, rfl⟩ := Option.map_eq_some_iff.mp hdelete
  obtain ⟨_, heq⟩ := Option.ite_none_right_eq_some.mp hu
  obtain rfl := Option.some.inj heq
  have hother : ∀ x k, Function.update s.objects o none x = some k → x ≠ o ∧ s.objects x = some k := by
    intro x k hk
    by_cases hxo : x = o
    · rw [hxo, Function.update_self] at hk
      cases hk
    · rw [Function.update_of_ne hxo] at hk
      exact ⟨hxo, hk⟩
  refine ⟨fun x k hk => ?_, fun x k hk => ?_, fun x y k hx hy => ?_, fun k hk => ?_⟩
  · obtain ⟨hxo, hold⟩ := hother x k hk
    refine Finset.mem_erase.mpr ⟨?_, h.created x k hold⟩
    rintro rfl
    exact hxo (h.distinct x o k hold ho)
  · exact h.value x k (hother x k hk).2
  · exact h.distinct x y k (hother x k hx).2 (hother y k hy).2
  · obtain ⟨hne, hold⟩ := Finset.mem_erase.mp hk
    obtain ⟨x, hx⟩ := h.owned k hold
    have hxo : x ≠ o := by
      rintro rfl
      exact hne (Option.some.inj (hx.symm.trans ho))
    exact ⟨x, (Function.update_of_ne hxo _ _).trans hx⟩

/-- **`set`** is seen by its thread on its object, and by nobody else. -/
lemma Inv.set (h : s.Inv) (hstep : s.set t o value = some s') : s'.Inv := by
  obtain ⟨key, ho, rfl⟩ := Option.map_eq_some_iff.mp hstep
  refine ⟨h.created, fun x k hx u => ?_, h.distinct, h.owned⟩
  show Function.update s.values t (Function.update (s.values t) key value) u k =
    Function.update s.stored o (Function.update (s.stored o) t value) x u
  have hold := h.value x k hx u
  by_cases hut : u = t
  · subst hut
    rw [Function.update_self]
    by_cases hxo : x = o
    · obtain rfl : k = key := Option.some.inj ((hxo ▸ hx).symm.trans ho)
      rw [hxo, Function.update_self, Function.update_self, Function.update_self]
    · have hne : k ≠ key := fun heq => hxo (h.distinct x o key (heq ▸ hx) ho)
      rw [Function.update_of_ne hne, Function.update_of_ne hxo]
      exact hold
  · rw [Function.update_of_ne hut, hold]
    by_cases hxo : x = o
    · rw [hxo, Function.update_self, Function.update_of_ne hut]
    · rw [Function.update_of_ne hxo]

/-- **Step lemma** while no constructor fails. -/
lemma Inv.step {a : TlsAction} (h : s.Inv) (ha : ¬ a.Fails) (hstep : s.step a = some s') : s'.Inv := by
  cases a with
  | construct o code key =>
    obtain ⟨hnew, hconstruct⟩ := Option.ite_none_right_eq_some.mp hstep
    obtain rfl : code = 0 := not_not.mp ha
    exact h.construct hnew hconstruct
  | destroy o => exact h.destroy hstep
  | set t o value => exact h.set hstep

/-- **A constructor that fails** leaves an object whose key is nobody's or also that of another. -/
lemma Inv.not_separate {code : Int} (h : s.Inv) (hcode : code ≠ 0)
    (hstep : s.step (.construct o code key) = some s') : ¬ s'.Separate := by
  obtain ⟨hnew, hconstruct⟩ := Option.ite_none_right_eq_some.mp hstep
  rw [Tls.construct, if_neg hcode] at hconstruct
  obtain rfl := Option.some.inj hconstruct
  intro hsep
  have hself : (s.enter o 0).objects o = some 0 := Function.update_self ..
  obtain ⟨hmem, hown, _⟩ := hsep o 0 hself
  obtain ⟨x, hx⟩ := h.owned 0 hmem
  have hxo : x ≠ o := by
    rintro rfl
    rw [hnew] at hx
    cases hx
  exact hxo (hown x ((Function.update_of_ne hxo _ _).trans hx))

/-! ## Over whole runs -/

/-- A run without a failure leaves the objects separate, and so does whatever follows without one. -/
lemma separate_of_forall_not_fails {as : List TlsAction} (h : ∀ a ∈ as, ¬ a.Fails) :
    Visits Tls.step Separate start as := by
  have hnone : Along Tls.step (fun _ a => ¬ a.Fails) start as :=
    along_of_forall_mem fun _ a ha => h a ha
  exact visits_of_invariant_along (fun _ => Inv.separate)
    (fun _ _ _ hinv ha hstep => hinv.step ha hstep) inv_start hnone

/-- No constructor fails in a run whose objects stay separate. -/
lemma Inv.forall_not_fails {as : List TlsAction} (h : s.Inv) (hvisits : Visits Tls.step Separate s as)
    (hafter : after Tls.step s as = some s') : ∀ a ∈ as, ¬ a.Fails := by
  induction as generalizing s with
  | nil => exact fun a ha => absurd ha List.not_mem_nil
  | cons a as ih =>
    obtain ⟨u, hu, hrest⟩ := after_cons_eq_some.mp hafter
    have hnext : Visits Tls.step Separate u as := hvisits.2 u hu
    have ha : ¬ a.Fails := by
      cases a with
      | construct o code key => exact fun hcode => h.not_separate hcode hu hnext.start
      | destroy o => exact not_false
      | set t o value => exact not_false
    intro b hb
    rcases List.mem_cons.mp hb with rfl | hb
    · exact ha
    · exact ih (h.step ha hu) hnext hrest b hb

/-- **Thread-local storage is separate as long as no constructor fails, and only as long**: the objects of a
run stay separate under whatever is done next without a failure, exactly if no constructor of the run has
failed. -/
theorem separate_forever_iff (as : List TlsAction) (hrun : after Tls.step start as = some s) :
    (∀ bs : List TlsAction, (∀ b ∈ bs, ¬ b.Fails) → Visits Tls.step Separate start (as ++ bs)) ↔
      ∀ a ∈ as, ¬ a.Fails := by
  constructor
  · intro hforever
    have hvisits := hforever [] fun _ hb => absurd hb List.not_mem_nil
    rw [List.append_nil] at hvisits
    exact inv_start.forall_not_fails hvisits hrun
  · intro hnone bs hbs
    refine separate_of_forall_not_fails fun a ha => ?_
    rcases List.mem_append.mp ha with ha | ha
    · exact hnone a ha
    · exact hbs a ha

/-- A key that is used again comes without what was set under it; a constructor that fails while somebody has
the key zero gives that key to two. -/
theorem separate_forever_iff_reused :
    (∀ bs : List TlsAction, (∀ b ∈ bs, ¬ b.Fails) → Visits Tls.step Separate start
      ([.construct 1 0 5, .set 7 1 3, .destroy 1, .construct 2 0 5] ++ bs)) ∧
    ¬ ∀ bs : List TlsAction, (∀ b ∈ bs, ¬ b.Fails) → Visits Tls.step Separate start
      ([.construct 1 0 0, .construct 2 (-12) 9] ++ bs) := by
  constructor
  · refine (separate_forever_iff _ rfl).mpr ?_
    simp [TlsAction.Fails]
  · refine fun hforever => ?_
    have hnone := (separate_forever_iff _ rfl).mp hforever
    exact hnone (.construct 2 (-12) 9) (by simp) (by simp [TlsAction.Fails])

end Tls

end Uvw
