import Uvw.Foundation.History
import Uvw.Foundation.TransitionSystem

/-!
# Waiting at a barrier

Threads that wait at a barrier pass it in rounds of `count`.  To one thread of each round, any of them,
`uv_barrier_wait` returns a positive value, to the others `0`; `barrier::wait` takes `0` for success.

`Barrier` is a barrier with the threads at it and its history, `Succeeds` says that every thread has been
told that it succeeded, and `barrier_succeeds_iff` that this is so as long as none has got the positive
value, so that in a round that all its threads have passed one of them was told the contrary.
-/

namespace Uvw

open TransitionSystem

/-! ## Histories -/

/-- What happens at a barrier. -/
inductive BarrierEntry
  | arrived (thread round : ℕ)
  /-- What `uv_barrier_wait` has returned, and what the thread is told. -/
  | returned (thread round : ℕ) (result : Int) (told : Bool)
deriving DecidableEq, Repr

namespace BarrierEntry

/-- A thread arrives for the round. -/
def isArrival (r : ℕ) : BarrierEntry → Bool
  | arrived _ r' => r' = r
  | returned .. => false

/-- A thread passes in the round. -/
def isReturn (r : ℕ) : BarrierEntry → Bool
  | arrived .. => false
  | returned _ r' _ _ => r' = r

/-- The thread that is singled out passes in the round. -/
def isSerializer (r : ℕ) : BarrierEntry → Bool
  | arrived .. => false
  | returned _ r' result _ => r' = r ∧ 0 < result

/-- A thread of the round is told that it has failed. -/
def isFailure (r : ℕ) : BarrierEntry → Bool
  | arrived .. => false
  | returned _ r' _ told => r' = r ∧ told = false

/-- A thread that passes the barrier is told so, after `n` threads have arrived in its round. -/
def Expected (n : ℕ) (past : List BarrierEntry) : BarrierEntry → Prop
  | arrived .. => True
  | returned _ r _ told => past.countP (isArrival r) = n ∧ told = true

end BarrierEntry

open BarrierEntry

/-! ## The barrier -/

/-- A `barrier` and the threads at it. -/
structure Barrier where
  count : ℕ
  /-- How many rounds are complete. -/
  round : ℕ
  /-- How many threads have arrived for the next one. -/
  inside : ℕ
  /-- The threads in `uv_barrier_wait`, with their rounds. -/
  waiting : List (ℕ × ℕ)
  alive : Bool
  log : List BarrierEntry
deriving DecidableEq, Repr

/-- What happens next: a thread calls `wait()`; `uv_barrier_wait` returns in a thread; the barrier is
destroyed. -/
inductive BarrierAction
  | wait (thread : ℕ)
  | pass (thread : ℕ) (result : Int)
  | destroy
deriving DecidableEq, Repr

namespace Barrier

/-- `barrier::barrier`. -/
def make (count : ℕ) : Barrier :=
  { count, round := 0, inside := 0, waiting := [], alive := true, log := [] }

/-- `barrier::wait`, with the result of `uv_barrier_wait`. -/
def wait (result : Int) : Bool := 0 == result

variable (s : Barrier)

/-- A thread arrives; the last one of a round completes it. -/
def arrive (thread : ℕ) : Barrier :=
  let s' : Barrier := { s with
    waiting := (thread, s.round) :: s.waiting
    log := s.log ++ [.arrived thread s.round] }
  if s.inside + 1 = s.count then { s' with round := s.round + 1, inside := 0 }
  else { s' with inside := s.inside + 1 }

/-- What `uv_barrier_wait` may return to a thread of a round: a positive value if no other thread has got
it, `0` if another one has or still can. -/
def Answers (r : ℕ) (result : Int) : Prop :=
  0 < result ∧ s.log.countP (isSerializer r) = 0 ∨
    result = 0 ∧ (0 < s.log.countP (isSerializer r) ∨ s.log.countP (isReturn r) + 1 < s.count)

instance (r : ℕ) (result : Int) : Decidable (s.Answers r result) := by
  unfold Answers; infer_instance

/-- A thread leaves. -/
def leave (thread r : ℕ) (result : Int) : Barrier :=
  { s with
    waiting := s.waiting.erase (thread, r)
    log := s.log ++ [.returned thread r result (wait result)] }

/-- One action; `uv_barrier_wait` returns only once the round is complete. -/
def step : BarrierAction → Option Barrier
  | .wait thread =>
    if s.alive ∧ s.waiting.lookup thread = none then some (s.arrive thread) else none
  | .pass thread result =>
    match s.waiting.lookup thread with
    | some r => if r < s.round ∧ s.Answers r result then some (s.leave thread r result) else none
    | none => none
  | .destroy => if s.alive ∧ s.waiting = [] then some { s with alive := false } else none

/-- Every thread that has passed the barrier was told so, and none has passed before its round was
complete. -/
def Succeeds : Prop := History.EachAfter (Expected s.count) s.log

/-- In every round that all its threads have passed, one of them was told that it has failed. -/
def FailsOne : Prop :=
  ∀ r, s.log.countP (isReturn r) = s.count → s.log.countP (isFailure r) = 1

/-- `uv_barrier_wait` does not return the positive value. -/
def NotSerializer (_ : Barrier) : BarrierAction → Prop
  | .pass _ result => ¬ 0 < result
  | _ => True

/-! ## Rounds -/

/-- How many threads have arrived in a round. -/
def arrivals (r : ℕ) : ℕ := if r < s.round then s.count else if r = s.round then s.inside else 0

/-- The invariant. -/
structure Inv : Prop where
  inside : s.inside < s.count
  arrivals : ∀ r, s.log.countP (isArrival r) = s.arrivals r
  /-- At most one thread of a round is singled out, -/
  atMostOne : ∀ r, s.log.countP (isSerializer r) ≤ 1
  /-- at least one of those of a round that all threads have passed, -/
  atLeastOne : ∀ r, s.count ≤ s.log.countP (isReturn r) → 0 < s.log.countP (isSerializer r)
  /-- and it is the one that is told that it has failed. -/
  failures : ∀ r, s.log.countP (isFailure r) = s.log.countP (isSerializer r)

variable {s} {s' : Barrier} {a : BarrierAction} {thread r : ℕ} {result : Int}

/-- Nobody has arrived yet. -/
lemma inv_make {n : ℕ} (hn : 0 < n) : (make n).Inv where
  inside := hn
  arrivals r := by
    show 0 = if r < 0 then n else if r = 0 then 0 else 0
    rw [if_neg (Nat.not_lt_zero r), ite_self]
  atMostOne _ := Nat.zero_le 1
  atLeastOne _ h := absurd hn (Nat.not_lt.mpr h)
  failures _ := rfl

/-- An arrival is logged, -/
lemma arrive_log (s : Barrier) (thread : ℕ) : (s.arrive thread).log = s.log ++ [.arrived thread s.round] := by
  unfold arrive
  dsimp only
  split <;> rfl

/-- and the number of threads stays as it is. -/
lemma arrive_count (s : Barrier) (thread : ℕ) : (s.arrive thread).count = s.count := by
  unfold arrive
  dsimp only
  split <;> rfl

/-- **Arriving** adds one thread to the round that is not complete yet. -/
lemma Inv.arrive_arrivals (h : s.Inv) (thread r : ℕ) :
    (s.arrive thread).arrivals r = s.arrivals r + if s.round = r then 1 else 0 := by
  have hlt := h.inside
  unfold arrive Barrier.arrivals
  dsimp only
  by_cases hlast : s.inside + 1 = s.count
  · rw [if_pos hlast]
    dsimp only
    split_ifs <;> omega
  · rw [if_neg hlast]
    dsimp only
    split_ifs <;> omega

/-- **Step lemma** for the invariant. -/
lemma Inv.arrive (h : s.Inv) (thread : ℕ) : (s.arrive thread).Inv := by
  have hother : ∀ p : BarrierEntry → Bool, p (.arrived thread s.round) = false →
      (s.arrive thread).log.countP p = s.log.countP p := by
    intro p hp
    rw [arrive_log, List.countP_append, List.countP_singleton, hp]
    rfl
  refine ⟨?_, fun r => ?_, fun r => ?_, fun r => ?_, fun r => ?_⟩
  · have hlt := h.inside
    unfold Barrier.arrive
    dsimp only
    split
    · exact Nat.zero_lt_of_lt hlt
    · show s.inside + 1 < s.count
      omega
  · rw [h.arrive_arrivals, arrive_log, List.countP_append, List.countP_singleton, h.arrivals]
    simp [isArrival]
  · rw [hother _ rfl]
    exact h.atMostOne r
  · rw [hother _ rfl, hother _ rfl, arrive_count]
    exact h.atLeastOne r
  · rw [hother _ rfl, hother _ rfl]
    exact h.failures r

/-- A thread that gets no negative value is told that it has failed if it gets a positive one. -/
lemma wait_eq_false_iff (hresult : 0 ≤ result) : wait result = false ↔ 0 < result := by
  rw [wait, beq_eq_false_iff_ne]
  omega

/-- libuv answers no error. -/
lemma Answers.nonneg (h : s.Answers r result) : 0 ≤ result := by
  rcases h with ⟨hpos, _⟩ | ⟨rfl, _⟩
  · exact Int.le_of_lt hpos
  · exact Int.le_refl 0

/-- **Passing**: the thread is told that it has failed if it is the one singled out. -/
lemma Inv.leave (h : s.Inv) (thread : ℕ) (hans : s.Answers r result) :
    (s.leave thread r result).Inv := by
  have hcount : ∀ p : BarrierEntry → Bool, (s.leave thread r result).log.countP p =
      s.log.countP p + if p (.returned thread r result (wait result)) then 1 else 0 := by
    intro p
    exact List.countP_append.trans (by rw [List.countP_singleton])
  refine ⟨h.inside, fun r' => ?_, fun r' => ?_, fun r' hall => ?_, fun r' => ?_⟩
  · rw [hcount]
    exact h.arrivals r'
  · rw [hcount]
    have hbefore := h.atMostOne r'
    by_cases hsingle : isSerializer r' (.returned thread r result (wait result)) = true
    · obtain ⟨rfl, hpos⟩ := decide_eq_true_iff.mp hsingle
      have hnone : s.log.countP (isSerializer r) = 0 :=
        hans.elim And.right fun hzero => absurd hzero.1 (Int.ne_of_gt hpos)
      exact Nat.le_of_eq (by rw [hnone, if_pos hsingle])
    · rwa [if_neg hsingle]
  · rw [hcount] at hall ⊢
    by_cases hr : r = r'
    · subst hr
      have hreturn : isReturn r (.returned thread r result (wait result)) = true := decide_eq_true rfl
      rw [if_pos hreturn] at hall
      rcases hans with ⟨hpos, _⟩ | ⟨_, hbefore | hlast⟩
      · have hsingle : isSerializer r (.returned thread r result (wait result)) = true :=
          decide_eq_true ⟨rfl, hpos⟩
        rw [if_pos hsingle]
        exact Nat.succ_pos _
      · exact Nat.add_pos_left hbefore _
      · exact absurd hall (Nat.not_le.mpr hlast)
    · have hreturn : isReturn r' (.returned thread r result (wait result)) = false :=
        decide_eq_false hr
      rw [hreturn] at hall
      exact Nat.add_pos_left (h.atLeastOne r' hall) _
  · have hsame : isFailure r' (.returned thread r result (wait result)) =
        isSerializer r' (.returned thread r result (wait result)) :=
      decide_eq_decide.mpr (and_congr_right fun _ => wait_eq_false_iff hans.nonneg)
    rw [hcount, hcount, h.failures, hsame]

/-- **Inversion of a step.** -/
lemma step_cases (hstep : s.step a = some s') :
    (∃ thread, a = .wait thread ∧ s' = s.arrive thread) ∨
      (∃ thread r result, a = .pass thread result ∧ r < s.round ∧ s.Answers r result ∧
        s' = s.leave thread r result) ∨
      a = .destroy ∧ s' = { s with alive := false } := by
  cases a with
  | wait thread =>
    simp only [step, Option.ite_none_right_eq_some, Option.some.injEq] at hstep
    exact Or.inl ⟨thread, rfl, hstep.2.symm⟩
  | pass thread result =>
    simp only [step] at hstep
    split at hstep
    next r _ =>
      simp only [Option.ite_none_right_eq_some, Option.some.injEq] at hstep
      obtain ⟨⟨hround, hans⟩, rfl⟩ := hstep
      exact Or.inr (Or.inl ⟨thread, r, result, rfl, hround, hans, rfl⟩)
    next => cases hstep
  | destroy =>
    simp only [step, Option.ite_none_right_eq_some, Option.some.injEq] at hstep
    exact Or.inr (Or.inr ⟨rfl, hstep.2.symm⟩)

/-- **Step lemma.** -/
lemma inv_step (h : s.Inv) (hstep : s.step a = some s') : s'.Inv := by
  rcases step_cases hstep with ⟨thread, _, rfl⟩ | ⟨thread, r, result, _, _, hans, rfl⟩ | ⟨_, rfl⟩
  · exact h.arrive thread
  · exact h.leave thread hans
  · exact ⟨h.inside, h.arrivals, h.atMostOne, h.atLeastOne, h.failures⟩

/-- In every complete round one thread is told of a failure. -/
lemma Inv.failsOne (h : s.Inv) : s.FailsOne := by
  intro r hall
  rw [h.failures]
  exact Nat.le_antisymm (h.atMostOne r) (h.atLeastOne r (Nat.le_of_eq hall.symm))

/-- **Which steps keep the barrier successful**: those in which no thread gets the positive value. -/
lemma succeeds_iff (h : s.Inv) (hbefore : s.Succeeds) (hstep : s.step a = some s') :
    s'.Succeeds ↔ s.NotSerializer a := by
  rcases step_cases hstep with ⟨thread, rfl, rfl⟩ | ⟨thread, r, result, rfl, hround, hans, rfl⟩ |
    ⟨rfl, rfl⟩
  · refine iff_of_true ?_ trivial
    rw [Succeeds, arrive_log, arrive_count]
    exact History.eachAfter_append.mpr ⟨hbefore, trivial⟩
  · have hcomplete : s.log.countP (isArrival r) = s.count := (h.arrivals r).trans (if_pos hround)
    have htold : wait result = true ↔ ¬ 0 < result := by
      rw [← wait_eq_false_iff hans.nonneg, Bool.not_eq_false]
    exact (History.eachAfter_append.trans (and_iff_right hbefore)).trans
      ((and_iff_right hcomplete).trans htold)
  · exact iff_of_true hbefore trivial

end Barrier

/-- **When threads are told that they have passed a barrier**: however threads arrive at a barrier and
leave it, in any number of rounds, none leaves before its round is complete and all are told that they
succeeded exactly as long as `uv_barrier_wait` has singled out no thread; and in every round that all its
threads have passed, it has singled out one, which has been told that it failed. -/
theorem barrier_succeeds_iff {n : ℕ} (hn : 0 < n) (as : List BarrierAction) :
    (Visits Barrier.step Barrier.Succeeds (.make n) as ↔
        Along Barrier.step Barrier.NotSerializer (.make n) as) ∧
      Visits Barrier.step Barrier.FailsOne (.make n) as := by
  have hmake : (Barrier.make n).Succeeds := History.eachAfter_nil
  refine ⟨?_, visits_of_invariant (I := Barrier.Inv) (fun _ h => h.failsOne)
    (fun _ _ _ h hstep => Barrier.inv_step h hstep) (Barrier.inv_make hn)⟩
  refine visits_iff_along_of_invariant (I := fun s => s.Inv ∧ s.Succeeds) hmake
    ⟨Barrier.inv_make hn, hmake⟩ ?_ (fun _ _ _ h hstep => Barrier.succeeds_iff h.1 h.2 hstep)
  intro s a s' h hclear hstep
  exact ⟨Barrier.inv_step h.1 hstep, (Barrier.succeeds_iff h.1 h.2 hstep).mpr hclear⟩

/-- Two threads, the first of which passes while the other is still inside. -/
theorem barrier_succeeds_iff_pair :
    Visits Barrier.step Barrier.Succeeds (.make 2) [.wait 0, .wait 1, .pass 0 0] ↔
      Along Barrier.step Barrier.NotSerializer (.make 2) [.wait 0, .wait 1, .pass 0 0] :=
  (barrier_succeeds_iff (by decide) [.wait 0, .wait 1, .pass 0 0]).1

/-- Two threads, the first of which is singled out: it is told that it has failed. -/
theorem barrier_serializer_fails :
    ¬ Visits Barrier.step Barrier.Succeeds (.make 2) [.wait 0, .wait 1, .pass 0 1] := by
  intro h
  have hlast : Barrier.Succeeds _ := ((h.2 _ rfl).2 _ rfl).2 _ rfl
  have htold := hlast [.arrived 0 0, .arrived 1 0] (.returned 0 0 1 false) [] rfl
  exact Bool.false_ne_true htold.2

end Uvw
