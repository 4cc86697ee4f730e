import Mathlib.Logic.Function.Basic
import Uvw.Foundation.History
import Uvw.Foundation.TransitionSystem

/-!
# Listeners that rewire their emitter

An emitter has one slot for the listener of each event type.  `publish` calls the listener through a
reference into its slot, and while the listener runs it may call `on`, `reset`, `has` and, indirectly,
`publish` on the same emitter: the calls in progress are a stack.  Assigning to a slot destroys what it
held, also when that is running.

`EmitterRun` is an emitter with this stack and its history, `Lawful` what one expects of it, and
`emitter_lawful_iff` says in which runs it stays true: those in which no running listener is replaced or
reset.
-/

namespace Uvw

open TransitionSystem

/-- The types of the events an emitter publishes: `error_event`, and those it is declared with. -/
class EventTypes (ε : Type) where
  all : List ε
  complete : ∀ t, t ∈ all

variable {ε : Type} [DecidableEq ε]

/-- An emitter; the callables put into it are numbered, each being an object of its own. -/
structure Emitter (ε : Type) where
  handlers : ε → Option ℕ
  /-- The callables that have been destroyed. -/
  destroyed : List ℕ

namespace Emitter

/-- The assignment to a slot, which destroys what it held. -/
def assign (e : Emitter ε) (t : ε) (f : Option ℕ) : Emitter ε :=
  { handlers := Function.update e.handlers t f
    destroyed := (e.handlers t).toList ++ e.destroyed }

/-- `emitter::on`. -/
def on (e : Emitter ε) (t : ε) (f : ℕ) : Emitter ε := e.assign t (some f)

/-- `emitter::reset<Type>`. -/
def reset (e : Emitter ε) (t : ε) : Emitter ε := e.assign t none

/-- `emitter::reset`. -/
def resetAll [EventTypes ε] (e : Emitter ε) : Emitter ε := EventTypes.all.foldl reset e

/-- `emitter::has`. -/
def has (e : Emitter ε) (t : ε) : Bool := (e.handlers t).isSome

end Emitter

/-- What happens on an emitter. -/
inductive EmitterEntry (ε : Type)
  | registered (t : ε) (f : ℕ)
  | reset (t : ε)
  | resetAll
  /-- `has`, and its answer. -/
  | asked (t : ε) (answer : Bool)
  /-- `publish`, and the callable it invokes. -/
  | published (t : ε) (invoked : Option ℕ)
  | returned (t : ε) (f : ℕ)
deriving DecidableEq, Repr

/-- What an entry makes of the listener for a type. -/
def EmitterEntry.listener (t : ε) : EmitterEntry ε → Option (Option ℕ)
  | registered t' f => if t' = t then some (some f) else none
  | reset t' => if t' = t then some none else none
  | resetAll => some none
  | _ => none

/-- The listener installed for a type: the last one registered, unless it has been reset. -/
def installed (t : ε) (log : List (EmitterEntry ε)) : Option ℕ :=
  (History.latest (EmitterEntry.listener t) log).join

/-- `publish` invokes the installed listener, and `has` tells whether there is one. -/
def EmitterEntry.Expected (past : List (EmitterEntry ε)) : EmitterEntry ε → Prop
  | published t invoked => invoked = installed t past
  | asked t answer => answer = (installed t past).isSome
  | _ => True

/-- What is done with an emitter next, by the listener that runs or from outside; `done` is the return of
the listener that runs. -/
inductive EmitterAction (ε : Type)
  | on (t : ε)
  | reset (t : ε)
  | resetAll
  | has (t : ε)
  | publish (t : ε)
  | done
deriving DecidableEq, Repr

/-- An emitter that is used. -/
structure EmitterRun (ε : Type) where
  emitter : Emitter ε
  /-- The number of the next callable. -/
  next : ℕ
  /-- The listeners that run, the innermost first. -/
  running : List (ε × ℕ)
  log : List (EmitterEntry ε)

namespace EmitterRun

/-- A new emitter. -/
def start : EmitterRun ε :=
  { emitter := { handlers := fun _ => none, destroyed := [] }, next := 0, running := [], log := [] }

variable [EventTypes ε]

/-- One action. -/
def step (s : EmitterRun ε) : EmitterAction ε → Option (EmitterRun ε)
  | .on t => some { s with
      emitter := s.emitter.on t s.next
      next := s.next + 1
      log := s.log ++ [.registered t s.next] }
  | .reset t => some { s with emitter := s.emitter.reset t, log := s.log ++ [.reset t] }
  | .resetAll => some { s with emitter := s.emitter.resetAll, log := s.log ++ [.resetAll] }
  | .has t => some { s with log := s.log ++ [.asked t (s.emitter.has t)] }
  | .publish t =>
    let log := s.log ++ [.published t (s.emitter.handlers t)]
    match s.emitter.handlers t with
    | some f => some { s with running := (t, f) :: s.running, log }
    | none => some { s with log }
  | .done =>
    match s.running with
    | (t, f) :: rest => some { s with running := rest, log := s.log ++ [.returned t f] }
    | [] => none

omit [EventTypes ε]

/-- What is expected of an emitter. -/
structure Lawful (s : EmitterRun ε) : Prop where
  /-- The slots hold the listeners installed, -/
  handlers : ∀ t, s.emitter.handlers t = installed t s.log
  /-- `publish` has invoked those and `has` has told of them, -/
  entries : History.EachAfter EmitterEntry.Expected s.log
  /-- and no listener is destroyed while it runs. -/
  running : ∀ t f, (t, f) ∈ s.running → f ∉ s.emitter.destroyed

/-- The listener for a type, if any, does not run. -/
def Idle (s : EmitterRun ε) (t : ε) : Prop :=
  ∀ f, s.emitter.handlers t = some f → ∀ t', (t', f) ∉ s.running

/-- The action replaces or resets no running listener. -/
def SparesRunning (s : EmitterRun ε) : EmitterAction ε → Prop
  | .on t | .reset t => s.Idle t
  | .resetAll => ∀ t, s.Idle t
  | _ => True

end EmitterRun

/-! ## Slots -/

namespace Emitter

variable {e : Emitter ε} {t t' : ε} {f : ℕ} {g : Option ℕ} {n : ℕ}

/-- An assignment changes one slot, -/
lemma assign_handlers :
    (e.assign t g).handlers t' = if t = t' then g else e.handlers t' := by
  by_cases heq : t = t'
  · subst heq
    rw [if_pos rfl]
    exact Function.update_self t g e.handlers
  · rw [if_neg heq]
    exact Function.update_of_ne (Ne.symm heq) g e.handlers

/-- and destroys what was in it. -/
lemma mem_assign_destroyed :
    f ∈ (e.assign t g).destroyed ↔ e.handlers t = some f ∨ f ∈ e.destroyed := by
  rw [assign, List.mem_append, Option.mem_toList]

/-- Of the callables with a number less than `n`, each is in one slot or has been destroyed. -/
structure Sound (e : Emitter ε) (n : ℕ) : Prop where
  lt : ∀ t f, e.handlers t = some f → f < n
  apart : ∀ t t' f, e.handlers t = some f → e.handlers t' = some f → t = t'
  destroyed : ∀ f, f ∈ e.destroyed ↔ f < n ∧ ∀ t, e.handlers t ≠ some f

omit [DecidableEq ε] in
/-- What is in a slot has not been destroyed. -/
lemma Sound.not_destroyed (h : e.Sound n) (hf : e.handlers t = some f) : f ∉ e.destroyed :=
  fun hmem => ((h.destroyed f).mp hmem).2 t hf

/-- Nothing is left in the slot, and nothing else happens to the others. -/
lemma reset_handlers_eq_some : (e.reset t).handlers t' = some f ↔ t' ≠ t ∧ e.handlers t' = some f := by
  rw [reset, assign_handlers]
  by_cases heq : t = t' <;> simp [heq, Ne.symm]

/-- A reset keeps the emitter sound, -/
lemma Sound.reset (h : e.Sound n) (t : ε) : (e.reset t).Sound n where
  lt t' f hf := h.lt t' f (reset_handlers_eq_some.mp hf).2
  apart t₁ t₂ f hf hf' :=
    h.apart t₁ t₂ f (reset_handlers_eq_some.mp hf).2 (reset_handlers_eq_some.mp hf').2
  destroyed f := by
    rw [Emitter.reset, mem_assign_destroyed, h.destroyed]
    constructor
    · rintro (hf | ⟨hlt, hnone⟩)
      · refine ⟨h.lt t f hf, fun t' hf' => ?_⟩
        obtain ⟨hne, hf'⟩ := reset_handlers_eq_some.mp hf'
        exact hne (h.apart t' t f hf' hf)
      · exact ⟨hlt, fun t' hf' => hnone t' (reset_handlers_eq_some.mp hf').2⟩
    · rintro ⟨hlt, hnone⟩
      by_cases hf : e.handlers t = some f
      · exact Or.inl hf
      · refine Or.inr ⟨hlt, fun t' hf' => ?_⟩
        exact hnone t' (reset_handlers_eq_some.mpr ⟨fun heq => hf (heq ▸ hf'), hf'⟩)

/-- `on` is a `reset`, after which the slot is filled. -/
lemma on_handlers_eq_some : (e.on t n).handlers t' = some f ↔
    t' = t ∧ f = n ∨ (e.reset t).handlers t' = some f := by
  rw [reset_handlers_eq_some, on, assign_handlers]
  by_cases heq : t = t' <;> simp [heq, Ne.symm, eq_comm]

/-- and so does a new listener, -/
lemma Sound.on (h : e.Sound n) (t : ε) : (e.on t n).Sound (n + 1) where
  lt t' f hf := by
    rcases on_handlers_eq_some.mp hf with ⟨_, rfl⟩ | hold
    · exact Nat.lt_succ_self f
    · exact Nat.lt_succ_of_lt ((h.reset t).lt t' f hold)
  apart t₁ t₂ f hf hf' := by
    rcases on_handlers_eq_some.mp hf with ⟨rfl, rfl⟩ | hold
    · rcases on_handlers_eq_some.mp hf' with ⟨rfl, _⟩ | hold'
      · rfl
      · exact absurd ((h.reset t₁).lt t₂ f hold') (Nat.lt_irrefl f)
    · rcases on_handlers_eq_some.mp hf' with ⟨rfl, rfl⟩ | hold'
      · exact absurd ((h.reset t₂).lt t₁ f hold) (Nat.lt_irrefl f)
      · exact (h.reset t).apart t₁ t₂ f hold hold'
  destroyed f := by
    have hreset : f ∈ (e.on t n).destroyed ↔ f < n ∧ ∀ t', (e.reset t).handlers t' ≠ some f :=
      (h.reset t).destroyed f
    rw [hreset]
    constructor
    · rintro ⟨hlt, hnone⟩
      refine ⟨Nat.lt_succ_of_lt hlt, fun t' hf => ?_⟩
      rcases on_handlers_eq_some.mp hf with ⟨_, rfl⟩ | hold
      · exact Nat.lt_irrefl f hlt
      · exact hnone t' hold
    · rintro ⟨hlt, hnone⟩
      have hne : f ≠ n := fun heq => hnone t (on_handlers_eq_some.mpr (Or.inl ⟨rfl, heq⟩))
      refine ⟨Nat.lt_of_le_of_ne (Nat.le_of_lt_succ hlt) hne, fun t' hold => ?_⟩
      exact hnone t' (on_handlers_eq_some.mpr (Or.inr hold))

/-- Resetting some of the types. -/
lemma foldl_reset (ts : List ε) (e : Emitter ε) (h : e.Sound n) :
    (ts.foldl Emitter.reset e).Sound n ∧
      ∀ t f, (ts.foldl Emitter.reset e).handlers t = some f ↔ t ∉ ts ∧ e.handlers t = some f := by
  induction ts generalizing e with
  | nil => simpa using h
  | cons t ts ih =>
    obtain ⟨hsound, hhandlers⟩ := ih (e.reset t) (h.reset t)
    refine ⟨hsound, fun t' f => ?_⟩
    rw [List.foldl_cons, hhandlers, reset_handlers_eq_some, List.mem_cons, not_or]
    tauto

variable [EventTypes ε]

/-- or a reset of all types. -/
lemma Sound.resetAll (h : e.Sound n) : e.resetAll.Sound n := (foldl_reset _ e h).1

/-- `reset` leaves no listener. -/
lemma Sound.resetAll_handlers (h : e.Sound n) (t : ε) : e.resetAll.handlers t = none := by
  refine Option.eq_none_iff_forall_ne_some.mpr fun f hf => ?_
  exact (((foldl_reset _ e h).2 t f).mp hf).1 (EventTypes.complete t)

end Emitter

/-! ## Histories -/

/-- **One entry more.** -/
lemma installed_append (t : ε) (log : List (EmitterEntry ε)) (e : EmitterEntry ε) :
    installed t (log ++ [e]) = (e.listener t).getD (installed t log) := by
  rw [installed, installed, History.latest_append]
  cases e.listener t <;> rfl

/-- What the installed listener is: it has been registered, and the type neither reset nor given another
one since. -/
lemma installed_eq_some_iff {t : ε} {log : List (EmitterEntry ε)} {f : ℕ} :
    installed t log = some f ↔ ∃ past rest, log = past ++ .registered t f :: rest ∧
      ∀ e ∈ rest, e.listener t = none := by
  rw [installed, Option.join_eq_some_iff, History.latest_eq_some_iff]
  constructor
  · rintro ⟨past, x, rest, rfl, hx, hsince⟩
    cases x with
    | registered t' g =>
      obtain ⟨rfl, hg⟩ := Option.ite_none_right_eq_some.mp hx
      obtain rfl := Option.some.inj (Option.some.inj hg)
      exact ⟨past, rest, rfl, hsince⟩
    | reset t' => cases (Option.ite_none_right_eq_some.mp hx).2
    | _ => cases hx
  · rintro ⟨past, rest, rfl, hsince⟩
    exact ⟨past, _, rest, rfl, if_pos rfl, hsince⟩

/-! ## Runs -/

namespace EmitterRun

variable {s s' : EmitterRun ε} {t : ε} {a : EmitterAction ε}

/-- The invariant: the listeners that run are in their slots. -/
structure Inv (s : EmitterRun ε) : Prop where
  sound : s.emitter.Sound s.next
  handlers : ∀ t, s.emitter.handlers t = installed t s.log
  entries : History.EachAfter EmitterEntry.Expected s.log
  running : ∀ t f, (t, f) ∈ s.running → s.emitter.handlers t = some f

/-- No listener has been installed yet. -/
lemma inv_start : (start : EmitterRun ε).Inv where
  sound :=
    { lt := nofun
      apart := nofun
      destroyed := fun f => iff_of_false List.not_mem_nil fun h => Nat.not_lt_zero f h.1 }
  handlers _ := rfl
  entries := History.eachAfter_nil
  running := nofun

/-- **What is promised of a run** follows from the invariant. -/
lemma Inv.lawful (h : s.Inv) : s.Lawful where
  handlers := h.handlers
  entries := h.entries
  running t f hf := h.sound.not_destroyed (h.running t f hf)

/-- The slots follow the history if one entry more says what became of each. -/
lemma handlers_append {e : Emitter ε} {entry : EmitterEntry ε} (h : s.Inv)
    (he : ∀ t, e.handlers t = (entry.listener t).getD (s.emitter.handlers t)) (t : ε) :
    e.handlers t = installed t (s.log ++ [entry]) := by
  rw [installed_append, ← h.handlers, he]

/-- Entries that ask nothing of the history. -/
lemma entries_append {entry : EmitterEntry ε} (h : s.Inv) (he : entry.Expected s.log) :
    History.EachAfter EmitterEntry.Expected (s.log ++ [entry]) :=
  History.eachAfter_append.mpr ⟨h.entries, he⟩

/-- A running listener stays in its slot when another slot is reset. -/
lemma running_reset (h : s.Inv) (hidle : s.Idle t) {t' : ε} {f : ℕ} (hf : (t', f) ∈ s.running) :
    (s.emitter.reset t).handlers t' = some f := by
  have hslot : s.emitter.handlers t' = some f := h.running t' f hf
  refine Emitter.reset_handlers_eq_some.mpr ⟨?_, hslot⟩
  rintro rfl
  exact hidle f hslot t' hf

variable [EventTypes ε]

/-- **Step lemma**: the actions that spare the listeners that run. -/
lemma step_inv (h : s.Inv) (hspares : s.SparesRunning a) (hstep : s.step a = some s') : s'.Inv := by
  cases a with
  | on t =>
    obtain rfl := Option.some.inj hstep
    refine ⟨h.sound.on t, handlers_append h fun t' => ?_, entries_append h trivial, fun t' f hf => ?_⟩
    · show (s.emitter.assign t (some s.next)).handlers t' = _
      rw [Emitter.assign_handlers, EmitterEntry.listener]
      split <;> rfl
    · exact Emitter.on_handlers_eq_some.mpr (Or.inr (running_reset h hspares hf))
  | reset t =>
    obtain rfl := Option.some.inj hstep
    refine ⟨h.sound.reset t, handlers_append h fun t' => ?_, entries_append h trivial, fun t' f hf => ?_⟩
    · show (s.emitter.assign t none).handlers t' = _
      rw [Emitter.assign_handlers, EmitterEntry.listener]
      split <;> rfl
    · exact running_reset h hspares hf
  | resetAll =>
    obtain rfl := Option.some.inj hstep
    refine ⟨h.sound.resetAll, handlers_append h h.sound.resetAll_handlers, entries_append h trivial,
      fun t' f hf => ?_⟩
    exact absurd hf (hspares t' f (h.running t' f hf) t')
  | has t =>
    obtain rfl := Option.some.inj hstep
    refine ⟨h.sound, handlers_append h fun _ => rfl, entries_append h ?_, h.running⟩
    exact congrArg Option.isSome (h.handlers t)
  | publish t =>
    have hinvoked : (EmitterEntry.published t (s.emitter.handlers t)).Expected s.log := h.handlers t
    have hentries := entries_append h hinvoked
    have hhandlers : ∀ t', s.emitter.handlers t' =
        installed t' (s.log ++ [.published t (s.emitter.handlers t)]) :=
      handlers_append h fun _ => rfl
    simp only [step] at hstep
    split at hstep
    next f hslot =>
      obtain rfl := Option.some.inj hstep
      refine ⟨h.sound, hhandlers, hentries, fun t' f' hf => ?_⟩
      rcases List.mem_cons.mp hf with heq | hf
      · obtain ⟨rfl, rfl⟩ := Prod.ext_iff.mp heq
        exact hslot
      · exact h.running t' f' hf
    next =>
      obtain rfl := Option.some.inj hstep
      exact ⟨h.sound, hhandlers, hentries, h.running⟩
  | done =>
    simp only [step] at hstep
    split at hstep
    next t f rest hrunning =>
      obtain rfl := Option.some.inj hstep
      refine ⟨h.sound, handlers_append h fun _ => rfl, entries_append h trivial, fun t' f' hf => ?_⟩
      exact h.running t' f' (hrunning ▸ List.mem_cons_of_mem _ hf)
    next => cases hstep

/-- **What goes wrong otherwise**: the listener is destroyed while it runs. -/
lemma not_lawful_of_not_sparesRunning (h : s.Inv) (hnot : ¬ s.SparesRunning a)
    (hstep : s.step a = some s') : ¬ s'.Lawful := by
  intro hlawful
  cases a with
  | on t =>
    obtain rfl := Option.some.inj hstep
    refine hnot fun f hf t' hrun => hlawful.running t' f hrun ?_
    exact Emitter.mem_assign_destroyed.mpr (Or.inl hf)
  | reset t =>
    obtain rfl := Option.some.inj hstep
    refine hnot fun f hf t' hrun => hlawful.running t' f hrun ?_
    exact Emitter.mem_assign_destroyed.mpr (Or.inl hf)
  | resetAll =>
    obtain rfl := Option.some.inj hstep
    refine hnot fun t f hf t' hrun => hlawful.running t' f hrun ?_
    refine (h.sound.resetAll.destroyed f).mpr ⟨h.sound.lt t f hf, fun t' hf' => ?_⟩
    rw [h.sound.resetAll_handlers] at hf'
    cases hf'
  | has t => exact hnot trivial
  | publish t => exact hnot trivial
  | done => exact hnot trivial

end EmitterRun

/-- **When listeners may rewire their emitter**: whatever is done with an emitter, by its listeners to any
depth or from outside, every `publish` invokes the listener that is installed at that time, changes to a
type affect no other, and no listener is destroyed while it runs, exactly as long as `on`, `reset<Type>`
and `reset` replace or reset no listener that runs. -/
theorem emitter_lawful_iff [EventTypes ε] (as : List (EmitterAction ε)) :
    Visits EmitterRun.step EmitterRun.Lawful .start as ↔
      Along EmitterRun.step EmitterRun.SparesRunning .start as :=
  visits_iff_along_of_invariant (I := EmitterRun.Inv) EmitterRun.inv_start.lawful EmitterRun.inv_start
    (fun _ _ _ h hspares hstep => EmitterRun.step_inv h hspares hstep)
    (fun _ _ _ h hstep =>
      ⟨fun hlawful => by_contra fun hnot =>
        EmitterRun.not_lawful_of_not_sparesRunning h hnot hstep hlawful,
      fun hspares => (EmitterRun.step_inv h hspares hstep).lawful⟩)

/-- The event types of an emitter that is declared with none: `error_event` alone. -/
instance : EventTypes Unit where
  all := [()]
  complete _ := List.mem_singleton.mpr rfl

/-- A listener that replaces itself. -/
theorem emitter_listener_replaces_itself :
    ¬ Visits EmitterRun.step EmitterRun.Lawful .start
      [EmitterAction.on (), .publish (), .on ()] := by
  intro h
  have hlawful : EmitterRun.Lawful _ := ((h.2 _ rfl).2 _ rfl).2 _ rfl
  exact hlawful.running () 0 (List.mem_singleton.mpr rfl) (List.mem_singleton.mpr rfl)

end Uvw
