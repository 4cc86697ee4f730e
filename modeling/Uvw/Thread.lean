import Mathlib.Tactic.Common
import Uvw.Foundation.TransitionSystem

/-!
# Joining a thread

`uvw::thread` creates a thread with `run` and joins it with `join`, which its destructor calls as well.
The member `joinable` decides whether `join` calls `uv_thread_join`: it is set by the constructor,
before any thread exists, cleared by the first `join`, and not looked at by `run`.

`ThreadLife` follows an object and the threads it creates, `Sound` says what one expects of the calls of
`uv_thread_join`, and `threads_joined_once_iff` in which sequences of calls it stays true.
-/

namespace Uvw

open TransitionSystem

/-- A `thread` and the threads it creates, numbered as they are created; `outstanding` is the one behind
`raw()` until it has been joined. -/
structure ThreadLife where
  joinable : Bool
  created : ℕ
  outstanding : Option ℕ
  /-- The threads `uv_thread_join` has been called for; `none` where there was none to be joined. -/
  joins : List (Option ℕ)
  /-- What `join` has returned, and the thread it has left unjoined. -/
  returns : List (Bool × Option ℕ)
  alive : Bool
deriving DecidableEq, Repr

/-- What a program does with a `thread`; the codes are those of libuv. -/
inductive ThreadAction
  | run (code : Int)
  | runWith (opts : UInt32) (stack : ℕ) (code : Int)
  | join (code : Int)
  | destroy (code : Int)
deriving DecidableEq, Repr

namespace ThreadLife

/-- The constructor. -/
def make : ThreadLife :=
  { joinable := true, created := 0, outstanding := none, joins := [], returns := [], alive := true }

variable (x : ThreadLife)

/-- `uv_thread_create` and `uv_thread_create_ex`, which return `code`. -/
def uvThreadCreate (code : Int) : Int × ThreadLife :=
  (code, if code = 0 then { x with created := x.created + 1, outstanding := some x.created } else x)

/-- `uv_thread_join`, which returns `code`. -/
def uvThreadJoin (code : Int) : Int × ThreadLife :=
  (code,
    { x with
      joins := x.joins ++ [x.outstanding]
      outstanding := if code = 0 then none else x.outstanding })

/-- `thread::run()`. -/
def run (code : Int) : Bool × ThreadLife :=
  let r := x.uvThreadCreate code
  (r.1 == 0, r.2)

/-- `thread::run(create_flags, std::size_t)`; only libuv reads the options. -/
def runWith (_opts : UInt32) (_stack : ℕ) (code : Int) : Bool × ThreadLife :=
  let r := x.uvThreadCreate code
  (r.1 == 0, r.2)

/-- `thread::join`. -/
def join (code : Int) : Bool × ThreadLife :=
  let wasJoinable := x.joinable
  let x := { x with joinable := false }
  if wasJoinable then
    let r := x.uvThreadJoin code
    (r.1 == 0, r.2)
  else (true, x)

/-- `thread::~thread`. -/
def destroy (code : Int) : ThreadLife := { (x.join code).2 with alive := false }

/-- One action; a thread is started only when there is none to be joined. -/
def step : ThreadAction → Option ThreadLife
  | .run code => if x.alive ∧ x.outstanding = none then some (x.run code).2 else none
  | .runWith opts stack code =>
    if x.alive ∧ x.outstanding = none then some (x.runWith opts stack code).2 else none
  | .join code =>
    if x.alive then
      let r := x.join code
      some { r.2 with returns := r.2.returns ++ [(r.1, r.2.outstanding)] }
    else none
  | .destroy code => if x.alive then some (x.destroy code) else none

/-- Every thread is joined exactly once before the object is gone, nothing else is joined, and `join`
returns true only if no thread is left. -/
structure Sound : Prop where
  joinsThread : none ∉ x.joins
  atMostOnce : ∀ t, x.joins.count (some t) ≤ 1
  onceEach : x.alive = false → ∀ t < x.created, x.joins.count (some t) = 1
  returnsTruth : ∀ r ∈ x.returns, r.1 = true → r.2 = none

/-- The object has created one thread when it is joined or destroyed, and `uv_thread_join` has not
failed when it is joined once more. -/
def CreatedOnce : ThreadAction → Prop
  | .join _ => x.created = 1 ∧ (x.joinable = true ∨ x.outstanding = none)
  | .destroy _ => x.created = 1
  | _ => True

/-! ## Phases -/

/-- What `join` has returned is true. -/
def Truthful (returns : List (Bool × Option ℕ)) : Prop := ∀ r ∈ returns, r.1 = true → r.2 = none

/-- One return more is to be truthful. -/
lemma Truthful.append {returns : List (Bool × Option ℕ)} (h : Truthful returns)
    {r : Bool × Option ℕ} (hr : r.1 = true → r.2 = none) : Truthful (returns ++ [r]) := by
  intro q hq
  rcases List.mem_append.mp hq with hq | hq
  · exact h q hq
  · rw [List.mem_singleton.mp hq]
    exact hr

/-- The states in which nothing has gone wrong yet. -/
inductive Phase : ThreadLife → Prop
  /-- No thread has been created. -/
  | fresh {returns} (h : Truthful returns) : Phase ⟨true, 0, none, [], returns, true⟩
  /-- The first thread has been created. -/
  | started {returns} (h : Truthful returns) : Phase ⟨true, 1, some 0, [], returns, true⟩
  /-- `uv_thread_join` has been called for it; the thread is still there if that has failed. -/
  | joined {returns outstanding alive} (h : Truthful returns) :
      Phase ⟨false, 1, outstanding, [some 0], returns, alive⟩
  /-- A second thread has been created, which `joinable` does not tell. -/
  | restarted {returns} (h : Truthful returns) :
      Phase ⟨false, 2, some 1, [some 0], returns, true⟩

variable {x} {y : ThreadLife} {a : ThreadAction}

/-- Only a thread object that exists is joined. -/
lemma alive_of_join {code : Int} (hstep : x.step (.join code) = some y) : x.alive = true := by
  by_contra hdead
  rw [step, if_neg hdead] at hstep
  cases hstep

/-- A new thread object is fresh. -/
lemma phase_make : make.Phase := .fresh fun _ h => absurd h List.not_mem_nil

/-- In every phase the promises are kept. -/
lemma Phase.sound (h : x.Phase) : x.Sound := by
  cases h with
  | fresh h => exact ⟨List.not_mem_nil, fun t => by simp, nofun, h⟩
  | started h => exact ⟨List.not_mem_nil, fun t => by simp, nofun, h⟩
  | joined h =>
    refine ⟨by simp, fun t => List.count_le_length, fun _ t ht => ?_, h⟩
    obtain rfl : t = 0 := Nat.lt_one_iff.mp ht
    rfl
  | restarted h => exact ⟨by simp, fun t => List.count_le_length, nofun, h⟩

/-- Creating a thread, successfully or not. -/
lemma Phase.create (h : x.Phase) (halive : x.alive = true) (hnone : x.outstanding = none) (code : Int) :
    (x.uvThreadCreate code).2.Phase := by
  unfold uvThreadCreate
  split
  · cases h with
    | fresh h => exact .started h
    | started h => cases hnone
    | joined h =>
      obtain rfl : _ = true := halive
      exact .restarted h
    | restarted h => cases hnone
  · exact h

/-- **Joining**: as long as the object has created one thread, and `uv_thread_join` has not failed, a
`join` does what one expects of it. -/
lemma Phase.join (h : x.Phase) (hcreated : x.created = 1)
    (hjoinable : x.joinable = true ∨ x.outstanding = none) {code : Int}
    (hstep : x.step (.join code) = some y) : y.Phase := by
  cases h with
  | fresh h => cases hcreated
  | started h =>
    obtain rfl := Option.some.inj hstep
    refine .joined (h.append fun hr => ?_)
    exact if_pos (beq_iff_eq.mp hr)
  | @joined returns outstanding alive h =>
    obtain rfl : alive = true := alive_of_join hstep
    obtain hfalse | rfl := hjoinable
    · cases hfalse
    · obtain rfl := Option.some.inj hstep
      exact .joined (h.append fun _ => rfl)
  | restarted h => cases hcreated

/-- **Destroying** an object that has created one thread joins it unless that has been done. -/
lemma Phase.destroy (h : x.Phase) (hcreated : x.created = 1) (code : Int) :
    (x.destroy code).Phase := by
  cases h with
  | fresh h => cases hcreated
  | started h => exact .joined h
  | joined h => exact .joined h
  | restarted h => cases hcreated

/-- **Step lemma**: the actions of an object that creates one thread. -/
lemma step_phase (h : x.Phase) (hclear : x.CreatedOnce a) (hstep : x.step a = some y) : y.Phase := by
  cases a with
  | run code =>
    rw [step] at hstep
    split at hstep
    next hguard =>
      obtain rfl := Option.some.inj hstep
      exact h.create hguard.1 hguard.2 code
    next => cases hstep
  | runWith opts stack code =>
    rw [step] at hstep
    split at hstep
    next hguard =>
      obtain rfl := Option.some.inj hstep
      exact h.create hguard.1 hguard.2 code
    next => cases hstep
  | join code =>
    exact h.join hclear.1 hclear.2 hstep
  | destroy code =>
    rw [step] at hstep
    split at hstep
    next =>
      obtain rfl := Option.some.inj hstep
      exact h.destroy hclear code
    next => cases hstep

/-- **What goes wrong otherwise**: `uv_thread_join` is called before a thread has been created, `join`
says that a thread is joined that is not, or the destructor leaves one. -/
lemma not_sound_of_not_createdOnce (h : x.Phase) (hnot : ¬ x.CreatedOnce a)
    (hstep : x.step a = some y) : ¬ y.Sound := by
  intro hsound
  cases a with
  | run code => exact hnot trivial
  | runWith opts stack code => exact hnot trivial
  | join code =>
    cases h with
    | fresh h =>
      obtain rfl := Option.some.inj hstep
      exact hsound.joinsThread (List.mem_singleton.mpr rfl)
    | started h => exact hnot ⟨rfl, Or.inl rfl⟩
    | @joined returns outstanding alive h =>
      obtain rfl : alive = true := alive_of_join hstep
      obtain rfl := Option.some.inj hstep
      have hnone : outstanding = none :=
        hsound.returnsTruth (true, outstanding) (List.mem_append_right _ (List.mem_singleton.mpr rfl)) rfl
      exact hnot ⟨rfl, Or.inr hnone⟩
    | restarted h =>
      obtain rfl := Option.some.inj hstep
      have hnone : some 1 = none :=
        hsound.returnsTruth (true, some 1) (List.mem_append_right _ (List.mem_singleton.mpr rfl)) rfl
      cases hnone
  | destroy code =>
    cases h with
    | fresh h =>
      obtain rfl := Option.some.inj hstep
      exact hsound.joinsThread (List.mem_singleton.mpr rfl)
    | started h => exact hnot rfl
    | joined h => exact hnot rfl
    | restarted h =>
      obtain rfl := Option.some.inj hstep
      have hsecond : [some 0].count (some 1) = 1 := hsound.onceEach rfl 1 Nat.one_lt_two
      cases hsecond

end ThreadLife

/-- **When threads are joined exactly once**: in any sequence of calls of `run`, `join` and the
destructor, `uv_thread_join` is called once for each thread before the object is gone and for nothing
else, and `join` returns true only if no thread is left, exactly when the object has created exactly one
thread whenever it is joined or destroyed, and is not joined again after a failure of
`uv_thread_join`. -/
theorem threads_joined_once_iff (as : List ThreadAction) :
    Visits ThreadLife.step ThreadLife.Sound .make as ↔
      Along ThreadLife.step ThreadLife.CreatedOnce .make as :=
  visits_iff_along_of_invariant (I := ThreadLife.Phase) ThreadLife.phase_make.sound ThreadLife.phase_make
    (fun _ _ _ h hclear hstep => ThreadLife.step_phase h hclear hstep)
    (fun _ _ _ h hstep => ⟨fun hsound => by_contra fun hnot =>
      ThreadLife.not_sound_of_not_createdOnce h hnot hstep hsound,
      fun hclear => (ThreadLife.step_phase h hclear hstep).sound⟩)

/-- An object that is destroyed before its thread has been created joins a thread that is not there. -/
theorem thread_joined_before_run :
    ¬ Visits ThreadLife.step ThreadLife.Sound .make [.destroy 0] := by
  intro h
  have hsound : ThreadLife.Sound _ := h.2 _ rfl
  exact hsound.joinsThread (List.mem_singleton.mpr rfl)

end Uvw
