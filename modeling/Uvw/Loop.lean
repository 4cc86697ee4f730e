import Uvw.Foundation.TransitionSystem
import Mathlib.Data.Finset.Basic
import Mathlib.Data.Finset.SDiff
import Mathlib.Tactic.Common

/-!
# The loop object and its `uv_loop_t`

`uvw::loop` owns a `uv_loop_t` through a `unique_ptr` whose deleter depends on where the loop comes
from: `create()` allocates and deletes it, `create(uv_loop_t *)` and `get_default()` leave the memory
alone.  The file models `loop::close`, `loop::~loop` and `loop::run` together with what libuv keeps
registered in the loop, as a transition system over one loop object.

libuv's part is `uvLoopClose`: it refuses with `UV_EBUSY` while anything is registered and closes
the loop otherwise.
-/

namespace Uvw

open TransitionSystem

/-- `UV_EBUSY`. -/
def uvEbusy : Int := -16

/-- What becomes of a `uv_loop_t`. -/
structure UvLoop where
  /-- Initialised by `uv_loop_init` and not closed by `uv_loop_close` since. -/
  opened : Bool
  /-- Its memory has not been freed. -/
  allocated : Bool
deriving DecidableEq, Repr

/-- The deleters a `unique_ptr<uv_loop_t>` is built with. -/
inductive LoopDeleter
  /-- `delete l`, of `create()`. -/
  | delete
  /-- The empty lambda of `create(uv_loop_t *)` and `get_default()`. -/
  | keep
deriving DecidableEq, Repr

/-- A loop object: its `uv_loop` pointer, null or holding a deleter, and the `uv_loop_t` it was
built with. -/
structure Loop where
  uvLoop : Option LoopDeleter
  uv : UvLoop
deriving DecidableEq, Repr

/-- Running a deleter on the `uv_loop_t`. -/
def LoopDeleter.run (d : LoopDeleter) (uv : UvLoop) : UvLoop :=
  match d with
  | .delete => { uv with allocated := false }
  | .keep => uv

/-- `uv_loop_close`: refused while handles or requests are registered. -/
def uvLoopClose (busy : Bool) (uv : UvLoop) : Int × UvLoop :=
  if busy then (uvEbusy, uv) else (0, { uv with opened := false })

namespace Loop

/-- The loop object over a successfully initialised `uv_loop_t`. -/
def fresh (d : LoopDeleter) : Loop :=
  { uvLoop := some d, uv := { opened := true, allocated := true } }

/-- `loop::close`.  The pointer is reset whatever `uv_loop_close` answers. -/
def close (busy : Bool) (l : Loop) : Int × Loop :=
  match l.uvLoop with
  | none => (0, l)
  | some d =>
    let ret := uvLoopClose busy l.uv
    (ret.1, { uvLoop := none, uv := d.run ret.2 })

/-- `loop::~loop`. -/
def dtor (busy : Bool) (l : Loop) : Loop :=
  if l.uvLoop.isSome then (l.close busy).2 else l

@[simp] lemma fresh_uvLoop (d : LoopDeleter) : (fresh d).uvLoop = some d := rfl

@[simp] lemma fresh_uv (d : LoopDeleter) :
    (fresh d).uv = { opened := true, allocated := true } := rfl

/-- Closing an already closed loop object does nothing. -/
lemma close_of_none {l : Loop} (h : l.uvLoop = none) (busy : Bool) : l.close busy = (0, l) := by
  rw [close, h]

/-- Closing an idle loop closes the `uv_loop_t` and hands its memory to the deleter. -/
lemma close_idle {l : Loop} {d : LoopDeleter} (h : l.uvLoop = some d) :
    l.close false = (0, { uvLoop := none, uv := d.run { l.uv with opened := false } }) := by
  simp [close, h, uvLoopClose]

/-- Closing a busy loop hands the still open `uv_loop_t` to the deleter. -/
lemma close_busy {l : Loop} {d : LoopDeleter} (h : l.uvLoop = some d) :
    l.close true = (uvEbusy, { uvLoop := none, uv := d.run l.uv }) := by
  simp [close, h, uvLoopClose]

/-- The pointer is null after `close`, whatever its result. -/
lemma close_uvLoop (l : Loop) (busy : Bool) : (l.close busy).2.uvLoop = none := by
  unfold close
  cases h : l.uvLoop with
  | none => exact h
  | some d => rfl

/-- The destructor does what `close` does. -/
lemma dtor_eq_close (l : Loop) (busy : Bool) : l.dtor busy = (l.close busy).2 := by
  unfold dtor
  cases h : l.uvLoop with
  | none => simp [close_of_none h]
  | some d => simp

end Loop

@[simp] lemma LoopDeleter.run_opened (d : LoopDeleter) (uv : UvLoop) :
    (d.run uv).opened = uv.opened := by
  cases d <;> rfl

/-! ## One loop and what is registered in it -/

/-- A loop object together with the handles and requests registered in its `uv_loop_t`. -/
structure LoopSystem where
  loop : Loop
  /-- The loop object has not been destroyed. -/
  alive : Bool
  /-- Handles and accepted requests registered with libuv, whoever created them. -/
  registered : Finset ℕ

/-- What can happen to a loop. -/
inductive LoopAction
  /-- A handle is initialised, or a request accepted, on the loop. -/
  | attach (i : ℕ)
  /-- `run()`: libuv closes the handles and completes the requests of `done`. -/
  | run (done : Finset ℕ)
  /-- `close()`. -/
  | close
  /-- The last `shared_ptr` to the loop object goes away. -/
  | destroy

namespace LoopSystem

/-- A new loop object, nothing registered. -/
def fresh (d : LoopDeleter) : LoopSystem :=
  { loop := .fresh d, alive := true, registered := ∅ }

/-- Something is registered in the loop. -/
def busy (s : LoopSystem) : Bool := decide (s.registered ≠ ∅)

/-- One action on the loop. -/
def step (s : LoopSystem) : LoopAction → Option LoopSystem
  | .attach i =>
    if s.loop.uv.opened ∧ s.loop.uv.allocated then
      some { s with registered := insert i s.registered }
    else none
  | .run done =>
    if s.alive ∧ s.loop.uvLoop.isSome then some { s with registered := s.registered \ done } else none
  | .close => if s.alive then some { s with loop := (s.loop.close s.busy).2 } else none
  | .destroy =>
    if s.alive then some { s with loop := s.loop.dtor s.busy, alive := false } else none

/-- What is expected of a `close()` in the state `s`: a refusal leaves the loop object as it was, and
`0` means that the `uv_loop_t` is closed. -/
def CloseSound (s : LoopSystem) (a : LoopAction) : Prop :=
  a = .close →
    ((s.loop.close s.busy).1 ≠ 0 → (s.loop.close s.busy).2 = s.loop) ∧
    ((s.loop.close s.busy).1 = 0 → (s.loop.close s.busy).2.uv.opened = false)

/-- The memory of the `uv_loop_t` is not freed under what is registered in it. -/
def NotFreedInUse (s : LoopSystem) : Prop :=
  s.loop.uv.allocated = false → s.registered = ∅

/-- `close()` and `~loop` find nothing registered, or have nothing left to do: the pointer is
already null, or, for the destructor, the deleter leaves the memory alone. -/
def ClosedIdle (s : LoopSystem) : LoopAction → Prop
  | .close => s.loop.uvLoop = none ∨ s.registered = ∅
  | .destroy => s.loop.uvLoop ≠ some .delete ∨ s.registered = ∅
  | _ => True

/-- What holds of a loop as long as it is only closed idle. -/
structure Inv (s : LoopSystem) : Prop where
  /-- A non-null pointer refers to an open loop in allocated memory. -/
  opened : s.loop.uvLoop ≠ none → s.loop.uv = { opened := true, allocated := true }
  /-- A live object with a null pointer has closed its `uv_loop_t`. -/
  closed : s.alive = true → s.loop.uvLoop = none → s.loop.uv.opened = false
  /-- Nothing is registered in freed memory. -/
  freed : s.loop.uv.allocated = false → s.registered = ∅
  /-- Nothing is registered in a closed loop. -/
  idle : s.loop.uv.opened = false → s.registered = ∅

variable {s s' : LoopSystem} {a : LoopAction}

/-- A loop is busy if something is registered with it, -/
lemma busy_eq_true_iff : s.busy = true ↔ s.registered ≠ ∅ := by
  simp [busy]

/-- and idle otherwise. -/
lemma busy_eq_false_iff : s.busy = false ↔ s.registered = ∅ := by
  simp [busy]

/-- A new loop is open and has nothing registered. -/
lemma inv_fresh (d : LoopDeleter) : (fresh d).Inv where
  opened _ := rfl
  closed _ h := by simp [fresh] at h
  freed _ := rfl
  idle _ := rfl

/-- Closing a loop under the condition closes the `uv_loop_t` behind a non-null pointer and changes
nothing behind a null one. -/
lemma close_of_closedIdle (h : s.ClosedIdle .close) :
    (s.loop.close s.busy).1 = 0 ∧
      (s.loop.uvLoop = none ∧ s.loop.close s.busy = (0, s.loop) ∨
        s.registered = ∅ ∧ (s.loop.close s.busy).2.uv.opened = false) := by
  cases hptr : s.loop.uvLoop with
  | none =>
    rw [Loop.close_of_none hptr]
    exact ⟨rfl, Or.inl ⟨rfl, rfl⟩⟩
  | some d =>
    have hidle : s.registered = ∅ := h.resolve_left (by simp [hptr])
    rw [busy_eq_false_iff.mpr hidle, Loop.close_idle hptr]
    exact ⟨rfl, Or.inr ⟨hidle, by simp⟩⟩

/-- **Step lemma**: closing only idle loops keeps the invariant. -/
lemma inv_step (hinv : s.Inv) (hC : s.ClosedIdle a) (hstep : s.step a = some s') : s'.Inv := by
  cases a with
  | attach i =>
    simp only [step, Option.ite_none_right_eq_some, Option.some.injEq] at hstep
    obtain ⟨⟨hopen, halloc⟩, rfl⟩ := hstep
    exact ⟨hinv.opened, hinv.closed, fun hf => by simp [halloc] at hf,
      fun hc => by simp [hopen] at hc⟩
  | run done =>
    simp only [step, Option.ite_none_right_eq_some, Option.some.injEq] at hstep
    obtain ⟨_, rfl⟩ := hstep
    exact ⟨hinv.opened, hinv.closed, fun hf => by simp [hinv.freed hf],
      fun hc => by simp [hinv.idle hc]⟩
  | close =>
    simp only [step, Option.ite_none_right_eq_some, Option.some.injEq] at hstep
    obtain ⟨_, rfl⟩ := hstep
    obtain ⟨_, ⟨_, hsame⟩ | ⟨hidle, hclosed⟩⟩ := close_of_closedIdle hC
    · rw [hsame]
      exact hinv
    · exact ⟨fun hne => absurd (Loop.close_uvLoop _ _) hne, fun _ _ => hclosed, fun _ => hidle,
        fun _ => hidle⟩
  | destroy =>
    simp only [step, Option.ite_none_right_eq_some, Option.some.injEq] at hstep
    obtain ⟨_, rfl⟩ := hstep
    have hnull : (s.loop.dtor s.busy).uvLoop = none := by
      rw [Loop.dtor_eq_close, Loop.close_uvLoop]
    have hkept : s.registered ≠ ∅ → (s.loop.dtor s.busy).uv = s.loop.uv := by
      intro hbusy
      have hdel : s.loop.uvLoop ≠ some .delete := hC.resolve_right hbusy
      rw [Loop.dtor_eq_close, busy_eq_true_iff.mpr hbusy]
      cases hptr : s.loop.uvLoop with
      | none => rw [Loop.close_of_none hptr]
      | some d =>
        rw [Loop.close_busy hptr]
        cases d with
        | delete => exact absurd hptr hdel
        | keep => rfl
    refine ⟨fun hne => absurd hnull hne, fun h => by simp at h, ?_, ?_⟩
    · intro hf
      by_contra hbusy
      exact hbusy (hinv.freed (by rw [← hkept hbusy]; exact hf))
    · intro hc
      by_contra hbusy
      exact hbusy (hinv.idle (by rw [← hkept hbusy]; exact hc))

/-- On the steps of the invariant, the condition is exactly what the property needs. -/
lemma sound_iff_closedIdle (hinv : s.Inv) (hstep : s.step a = some s') :
    (s.CloseSound a ∧ ∀ t, s.step a = some t → t.NotFreedInUse) ↔ s.ClosedIdle a := by
  constructor
  · rintro ⟨hsound, hsafe⟩
    have hnext : s'.NotFreedInUse := hsafe s' hstep
    cases a with
    | attach i => trivial
    | run done => trivial
    | close =>
      by_contra hcond
      obtain ⟨hptr, hbusy⟩ := not_or.mp hcond
      obtain ⟨d, hd⟩ := Option.ne_none_iff_exists'.mp hptr
      -- the refusal resets the pointer, so the loop object has changed
      have hrefused : (s.loop.close s.busy).1 ≠ 0 := by
        rw [busy_eq_true_iff.mpr hbusy, Loop.close_busy hd]
        simp [uvEbusy]
      have hsame : (s.loop.close s.busy).2 = s.loop := (hsound rfl).1 hrefused
      exact hptr (by rw [← hsame, Loop.close_uvLoop])
    | destroy =>
      by_contra hcond
      obtain ⟨hdel, hbusy⟩ := not_or.mp hcond
      simp only [step, Option.ite_none_right_eq_some, Option.some.injEq] at hstep
      obtain ⟨_, rfl⟩ := hstep
      refine hbusy (hnext ?_)
      rw [Loop.dtor_eq_close, busy_eq_true_iff.mpr hbusy, Loop.close_busy (not_not.mp hdel)]
      rfl
  · intro hC
    refine ⟨?_, fun t ht => (inv_step hinv hC ht).freed⟩
    rintro rfl
    obtain ⟨hzero, hcase⟩ := close_of_closedIdle hC
    refine ⟨fun hne => absurd hzero hne, fun _ => ?_⟩
    rcases hcase with ⟨hptr, hsame⟩ | ⟨_, hclosed⟩
    · rw [hsame]
      have halive : s.alive = true := by
        simp only [step, Option.ite_none_right_eq_some] at hstep
        exact hstep.1
      exact hinv.closed halive hptr
    · exact hclosed

/-- **`loop::close` is atomic exactly when it is called idle.**  Along a run of a new loop every
`close()` leaves the object alone when it fails and really closes the loop when it returns `0`, and
no state has a freed `uv_loop_t` with something registered in it, exactly when every `close()` of
the run finds the pointer null or nothing registered, and every destructor likewise or with a
deleter that keeps the memory. -/
theorem close_atomic_iff (d : LoopDeleter) (as : List LoopAction) :
    (Along step CloseSound (fresh d) as ∧ Visits step NotFreedInUse (fresh d) as) ↔
      Along step ClosedIdle (fresh d) as := by
  have hfresh : (fresh d).NotFreedInUse := fun _ => rfl
  rw [visits_iff_along, and_iff_right hfresh, ← along_and]
  exact along_congr (fun s a s' hinv hC ht => inv_step hinv ((sound_iff_closedIdle hinv ht).mp hC) ht)
    (fun s a s' hinv ht => sound_iff_closedIdle hinv ht) (inv_fresh d)

/-- A loop from `create()` closed with one handle registered: `close()` answers `UV_EBUSY`, and the
`uv_loop_t` is gone with the handle still in it. -/
theorem close_busy_not_atomic :
    ¬ (Along step CloseSound (fresh .delete) [.attach 0, .close] ∧
      Visits step NotFreedInUse (fresh .delete) [.attach 0, .close]) := by
  rintro ⟨hsound, -⟩
  have hclose := (((hsound _ rfl).2 _ rfl).1 rfl).1
  simp [fresh, busy, Loop.fresh, Loop.close, uvLoopClose, uvEbusy] at hclose

end LoopSystem

end Uvw
