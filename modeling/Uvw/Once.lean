import Uvw.Foundation.History
import Uvw.Foundation.TransitionSystem

/-!
# Running a function once

`once::run` is a template and takes any callback, but it hands all of them to `uv_once` with the guard
that `once::guard` returns, a static variable of a function that is no template.

`OnceRun` is that guard with the threads that are in `once::run` and their history, `Lawful` says that
every callback has been executed once when a call with it returns, and `once_run_lawful_iff` that this is
so as long as the calls that return were made with the callback that the guard has been used for.
-/

namespace Uvw

open TransitionSystem

/-! ## Histories -/

/-- What happens to a callback. -/
inductive OnceEntry (Φ : Type*)
  | passed (f : Φ)
  | executed (f : Φ)
  | returned (f : Φ)
deriving DecidableEq, Repr

/-- A callback is not executed twice, and has been executed when a call with it returns. -/
def OnceEntry.Expected {Φ : Type*} [DecidableEq Φ] (past : List (OnceEntry Φ)) : OnceEntry Φ → Prop
  | passed _ => True
  | executed f => past.count (.executed f) = 0
  | returned f => past.count (.executed f) = 1

/-! ## The guard -/

/-- An `uv_once_t`, with the callback it is or was used for. -/
inductive UvOnce (Φ : Type*)
  | unused
  | running (f : Φ)
  | used (f : Φ)
deriving DecidableEq, Repr

/-- The program's calls of `once::run`. -/
structure OnceRun (Φ : Type*) where
  /-- The variable of `once::guard`. -/
  guard : UvOnce Φ
  /-- The threads in `once::run`, with the callbacks they have passed. -/
  calls : List (ℕ × Φ)
  log : List (OnceEntry Φ)
deriving DecidableEq, Repr

/-- What happens next: a thread calls `once::run`; its call finds the guard unused and begins to execute
the callback; the callback returns; a call returns. -/
inductive OnceAction (Φ : Type*)
  | run (thread : ℕ) (f : Φ)
  | start (thread : ℕ)
  | finish
  | ret (thread : ℕ)
deriving DecidableEq, Repr

namespace OnceRun

variable {Φ : Type*} [DecidableEq Φ]

/-- Before the first call: `UV_ONCE_INIT`. -/
def init : OnceRun Φ := { guard := .unused, calls := [], log := [] }

variable (s : OnceRun Φ)

/-- `once::run`, up to `uv_once`. -/
def run (thread : ℕ) (f : Φ) : OnceRun Φ :=
  { s with calls := (thread, f) :: s.calls, log := s.log ++ [.passed f] }

/-- `uv_once` finds the guard unused. -/
def start (f : Φ) : OnceRun Φ := { s with guard := .running f }

/-- The callback returns. -/
def finish (f : Φ) : OnceRun Φ := { s with guard := .used f, log := s.log ++ [.executed f] }

/-- `uv_once` and `once::run` return. -/
def ret (thread : ℕ) (f : Φ) : OnceRun Φ :=
  { s with calls := s.calls.erase (thread, f), log := s.log ++ [.returned f] }

/-- One action; a call waits while the guard is in use. -/
def step : OnceAction Φ → Option (OnceRun Φ)
  | .run thread f => if s.calls.lookup thread = none then some (s.run thread f) else none
  | .start thread =>
    match s.guard, s.calls.lookup thread with
    | .unused, some f => some (s.start f)
    | _, _ => none
  | .finish =>
    match s.guard with
    | .running f => some (s.finish f)
    | _ => none
  | .ret thread =>
    match s.guard, s.calls.lookup thread with
    | .used _, some f => some (s.ret thread f)
    | _, _ => none

/-- Every callback has been executed exactly once when a call with it has returned. -/
def Lawful : Prop := History.EachAfter OnceEntry.Expected s.log

/-- All calls have passed the same callback. -/
def OneCallback : Prop := ∀ f g, .passed f ∈ s.log → .passed g ∈ s.log → f = g

/-- A call that returns has passed the callback that the guard has been used for. -/
def UsedFor (s : OnceRun Φ) : OnceAction Φ → Prop
  | .ret thread => ∀ f, s.calls.lookup thread = some f → s.guard = .used f
  | _ => True

/-! ## The invariant -/

/-- The invariant. -/
structure Inv : Prop where
  /-- Only the callback that the guard has been used for has been executed, -/
  executions : ∀ f, s.log.count (.executed f) = if s.guard = .used f then 1 else 0
  /-- it has been passed, -/
  user : ∀ f, s.guard = .running f ∨ s.guard = .used f → .passed f ∈ s.log
  /-- and before that no call has returned. -/
  returns : ∀ f, .returned f ∈ s.log → ∃ g, s.guard = .used g
  passed : ∀ f, .passed f ∈ s.log ↔ (∃ thread, (thread, f) ∈ s.calls) ∨ .returned f ∈ s.log
  lawful : s.Lawful ↔ ∀ f, .returned f ∈ s.log → s.guard = .used f

variable {s} {s' : OnceRun Φ} {a : OnceAction Φ} {thread : ℕ} {f : Φ}

lemma inv_init : (init : OnceRun Φ).Inv where
  executions _ := rfl
  user f h := by rcases h with h | h <;> cases h
  returns _ h := absurd h List.not_mem_nil
  passed f := by simp [init]
  lawful := iff_of_true History.eachAfter_nil fun _ h => absurd h List.not_mem_nil

omit [DecidableEq Φ] in
/-- A call in progress is that of a thread with its callback. -/
lemma mem_of_lookup {calls : List (ℕ × Φ)} (h : calls.lookup thread = some f) :
    (thread, f) ∈ calls := by
  obtain ⟨l₁, l₂, rfl, _⟩ := List.lookup_eq_some_iff.mp h
  exact List.mem_append_right _ List.mem_cons_self

/-- **Inversion of a step.** -/
lemma step_cases (hstep : s.step a = some s') :
    (∃ thread f, a = .run thread f ∧ s' = s.run thread f) ∨
      (∃ thread f, a = .start thread ∧ s.guard = .unused ∧ (thread, f) ∈ s.calls ∧ s' = s.start f) ∨
      (∃ f, a = .finish ∧ s.guard = .running f ∧ s' = s.finish f) ∨
      ∃ thread f g, a = .ret thread ∧ s.guard = .used g ∧ s.calls.lookup thread = some f ∧
        s' = s.ret thread f := by
  cases a with
  | run thread f =>
    simp only [step, Option.ite_none_right_eq_some, Option.some.injEq] at hstep
    exact Or.inl ⟨thread, f, rfl, hstep.2.symm⟩
  | start thread =>
    simp only [step] at hstep
    split at hstep
    next f hguard hcall =>
      exact Or.inr (Or.inl ⟨thread, f, rfl, hguard, mem_of_lookup hcall, (Option.some.inj hstep).symm⟩)
    next => cases hstep
  | finish =>
    simp only [step] at hstep
    split at hstep
    next f hguard => exact Or.inr (Or.inr (Or.inl ⟨f, rfl, hguard, (Option.some.inj hstep).symm⟩))
    next => cases hstep
  | ret thread =>
    simp only [step] at hstep
    split at hstep
    next g f hguard hcall =>
      exact Or.inr (Or.inr (Or.inr ⟨thread, f, g, rfl, hguard, hcall, (Option.some.inj hstep).symm⟩))
    next => cases hstep

/-- Before the guard has been used, no call has returned -/
lemma Inv.not_returned (h : s.Inv) (hguard : ∀ g, s.guard ≠ .used g) (f : Φ) :
    .returned f ∉ s.log := by
  intro hf
  obtain ⟨g, hused⟩ := h.returns f hf
  exact hguard g hused

/-- and no callback has been executed. -/
lemma Inv.not_executed (h : s.Inv) (hguard : ∀ g, s.guard ≠ .used g) (f : Φ) :
    s.log.count (.executed f) = 0 := by
  rw [h.executions, if_neg (hguard f)]

/-- Afterwards, one has been executed if the guard has been used for it. -/
lemma Inv.executed_once_iff (h : s.Inv) : s.log.count (.executed f) = 1 ↔ s.guard = .used f := by
  rw [h.executions]
  split
  next hused => exact iff_of_true rfl hused
  next hused => exact iff_of_false Nat.zero_ne_one hused

/-- What one entry more asks for. -/
lemma lawful_run : (s.run thread f).Lawful ↔ s.Lawful :=
  History.eachAfter_append.trans (and_iff_left trivial)

lemma lawful_finish : (s.finish f).Lawful ↔ s.Lawful ∧ s.log.count (.executed f) = 0 :=
  History.eachAfter_append

lemma lawful_ret : (s.ret thread f).Lawful ↔ s.Lawful ∧ s.log.count (.executed f) = 1 :=
  History.eachAfter_append

lemma Inv.run (h : s.Inv) (thread : ℕ) (f : Φ) : (s.run thread f).Inv where
  executions g := by
    rw [OnceRun.run, List.count_append]
    simpa using h.executions g
  user g hg := List.mem_append_left _ (h.user g hg)
  returns g hg := h.returns g (by simpa [OnceRun.run] using hg)
  passed g := by
    have hbefore := h.passed g
    simp only [OnceRun.run, List.mem_append, List.mem_cons, Prod.mk.injEq]
    grind
  lawful := by
    rw [lawful_run, h.lawful]
    simp [OnceRun.run]

lemma Inv.start (h : s.Inv) (hguard : s.guard = .unused) (hcall : (thread, f) ∈ s.calls) :
    (s.start f).Inv := by
  have hbefore : ∀ g, s.guard ≠ .used g := by simp [hguard]
  have hnone : ∀ g, .returned g ∉ s.log := h.not_returned hbefore
  refine ⟨fun g => h.not_executed hbefore g, fun g hg => ?_, fun g hg => absurd hg (hnone g), h.passed, ?_⟩
  · have hfg : f = g := by
      rcases hg with hg | hg
      · exact UvOnce.running.inj hg
      · cases hg
    rw [← hfg]
    exact (h.passed f).mpr (Or.inl ⟨thread, hcall⟩)
  · have hlawful : s.Lawful := h.lawful.mpr fun g hg => absurd hg (hnone g)
    exact iff_of_true hlawful fun g hg => absurd hg (hnone g)

/-- **The callback returns**: it has been executed once, and no other has been. -/
lemma Inv.finish (h : s.Inv) (hguard : s.guard = .running f) : (s.finish f).Inv := by
  have hbefore : ∀ g, s.guard ≠ .used g := by simp [hguard]
  have hnone : ∀ g, .returned g ∉ s.log := h.not_returned hbefore
  have hnone' : ∀ g, .returned g ∉ (s.finish f).log := by
    intro g hg
    exact hnone g (by simpa [OnceRun.finish] using hg)
  refine ⟨fun g => ?_, fun g hg => ?_, fun g hg => absurd hg (hnone' g), fun g => ?_, ?_⟩
  · rw [OnceRun.finish, List.count_append, h.not_executed hbefore, Nat.zero_add, List.count_singleton]
    simp
  · have hfg : f = g := by
      rcases hg with hg | hg
      · cases hg
      · exact UvOnce.used.inj hg
    rw [← hfg]
    exact List.mem_append_left _ (h.user f (Or.inl hguard))
  · rw [OnceRun.finish]
    simpa using h.passed g
  · have hlawful : s.Lawful := h.lawful.mpr fun g hg => absurd hg (hnone g)
    exact iff_of_true (lawful_finish.mpr ⟨hlawful, h.not_executed hbefore f⟩)
      fun g hg => absurd hg (hnone' g)

/-- **A call returns**: lawfully if the guard has been used for its callback. -/
lemma Inv.ret (h : s.Inv) {g : Φ} (hguard : s.guard = .used g) (hcall : (thread, f) ∈ s.calls) :
    (s.ret thread f).Inv := by
  refine ⟨fun x => ?_, fun x hx => List.mem_append_left _ (h.user x hx), fun _ _ => ⟨g, hguard⟩,
    fun x => ?_, ?_⟩
  · rw [OnceRun.ret, List.count_append]
    simpa using h.executions x
  · have hbefore := h.passed x
    by_cases hx : x = f
    · subst hx
      have hpassed : .passed x ∈ s.log := hbefore.mpr (Or.inl ⟨thread, hcall⟩)
      exact iff_of_true (List.mem_append_left _ hpassed) (Or.inr (by simp [OnceRun.ret]))
    · have hcalls : ∀ t, (t, x) ∈ s.calls.erase (thread, f) ↔ (t, x) ∈ s.calls :=
        fun t => List.mem_erase_of_ne fun heq => hx (Prod.mk.inj heq).2
      simp only [OnceRun.ret, hcalls]
      simpa [hx] using hbefore
  · rw [lawful_ret, h.lawful, h.executed_once_iff]
    simp only [OnceRun.ret, List.mem_append, List.mem_singleton, OnceEntry.returned.injEq]
    grind

/-- **Step lemma.** -/
lemma inv_step (h : s.Inv) (hstep : s.step a = some s') : s'.Inv := by
  rcases step_cases hstep with ⟨thread, f, _, rfl⟩ | ⟨thread, f, _, hguard, hcall, rfl⟩ |
    ⟨f, _, hguard, rfl⟩ | ⟨thread, f, g, _, hguard, hcall, rfl⟩
  · exact h.run thread f
  · exact h.start hguard hcall
  · exact h.finish hguard
  · exact h.ret hguard (mem_of_lookup hcall)

/-- **Which steps keep the calls lawful**: those in which no call returns with a callback other than
the one that the guard has been used for. -/
lemma lawful_iff (h : s.Inv) (hbefore : s.Lawful) (hstep : s.step a = some s') :
    s'.Lawful ↔ s.UsedFor a := by
  rcases step_cases hstep with ⟨thread, f, rfl, rfl⟩ | ⟨thread, f, rfl, hguard, hcall, rfl⟩ |
    ⟨f, rfl, hguard, rfl⟩ | ⟨thread, f, g, rfl, hguard, hcall, rfl⟩
  · exact iff_of_true (lawful_run.mpr hbefore) trivial
  · exact iff_of_true hbefore trivial
  · have hnone : s.log.count (.executed f) = 0 := h.not_executed (by simp [hguard]) f
    exact iff_of_true (lawful_finish.mpr ⟨hbefore, hnone⟩) trivial
  · have hused : s.UsedFor (.ret thread) ↔ s.guard = .used f := by
      show (∀ x, s.calls.lookup thread = some x → s.guard = .used x) ↔ _
      rw [hcall]
      simp
    rw [hused, lawful_ret, and_iff_right hbefore, h.executed_once_iff]

/-- **When all calls have returned**: they were lawful if they all passed one callback. -/
lemma Inv.lawful_iff_oneCallback (h : s.Inv) (hcalls : s.calls = []) : s.Lawful ↔ s.OneCallback := by
  have hreturned : ∀ f, .passed f ∈ s.log ↔ .returned f ∈ s.log := by
    intro f
    simpa [hcalls] using h.passed f
  rw [h.lawful]
  constructor
  · intro hused f g hf hg
    have hsame : UvOnce.used f = .used g :=
      (hused f ((hreturned f).mp hf)).symm.trans (hused g ((hreturned g).mp hg))
    exact UvOnce.used.inj hsame
  · intro hone f hf
    obtain ⟨g, hguard⟩ := h.returns f hf
    have hfg : f = g := hone f g ((hreturned f).mpr hf) (h.user g (Or.inr hguard))
    rw [hguard, hfg]

end OnceRun

/-- **When callbacks are run once**: however threads call `once::run`, with any callbacks, every callback
has been executed exactly once when a call with it has returned, exactly as long as all calls that have
returned were made with the callback that the guard has been used for; so once no thread is in
`once::run` any more, exactly if all of them have passed the same callback. -/
theorem once_run_lawful_iff {Φ : Type*} [DecidableEq Φ] (as : List (OnceAction Φ)) :
    (Visits OnceRun.step OnceRun.Lawful .init as ↔ Along OnceRun.step OnceRun.UsedFor .init as) ∧
      Visits OnceRun.step (fun s => s.calls = [] → (s.Lawful ↔ s.OneCallback)) .init as := by
  have hinit : (OnceRun.init : OnceRun Φ).Lawful := History.eachAfter_nil
  refine ⟨?_, visits_of_invariant (I := OnceRun.Inv) (fun _ h => h.lawful_iff_oneCallback)
    (fun _ _ _ h hstep => OnceRun.inv_step h hstep) OnceRun.inv_init⟩
  refine visits_iff_along_of_invariant (I := fun s => s.Inv ∧ s.Lawful) hinit
    ⟨OnceRun.inv_init, hinit⟩ ?_ (fun _ _ _ h hstep => OnceRun.lawful_iff h.1 h.2 hstep)
  intro s a s' h hused hstep
  exact ⟨OnceRun.inv_step h.1 hstep, (OnceRun.lawful_iff h.1 h.2 hstep).mpr hused⟩

/-- One thread runs two callbacks, one after the other: the second is never executed. -/
theorem once_run_second_callback :
    ¬ Visits OnceRun.step OnceRun.Lawful .init
      [.run 0 false, .start 0, .finish, .ret 0, .run 0 true, .ret 0] := by
  intro h
  have hlast : OnceRun.Lawful _ :=
    ((((((h.2 _ rfl).2 _ rfl).2 _ rfl).2 _ rfl).2 _ rfl).2 _ rfl)
  have hreturned := hlast [.passed false, .executed false, .returned false, .passed true]
    (.returned true) [] rfl
  cases hreturned

end Uvw
