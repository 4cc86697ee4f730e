import Uvw.Runtime.Drain
import Uvw.Runtime.Reclamation

/-!
# Tasks on the thread pool

`work_req::queue` hands the request to libuv's thread pool.  A worker thread calls `work_callback`,
which calls the task through the raw request, while the loop thread goes on; when the task has returned,
`after_work_callback` publishes the event on the loop thread.  `request::cancel` succeeds as long as no
worker has taken the request, also when it was cancelled before.

`WorkPool` adds the pool to a `World`: where it has the work of every request, and what happened there.
Everything is interleaved with everything a program can do in its loops, so a request may be queued,
forgotten, cancelled and queued again from its own listener.  `tasks_run_once` says that what happens to a
request falls into rounds, one for every accepted `queue`: the task is called once and returns, or it is
never called as the request is cancelled, and the event at the end of the round tells which is the case.

### Outline

* `WorkPool.step`;
* `World.WorkChange`, what one action does to a work request;
* `WorkPool.Accounted`, the invariant, and its step lemma.
-/

namespace Uvw

/-- `UV_ECANCELED`. -/
def uvEcanceled : Int := -125

/-- Where the thread pool has the work of a request. -/
inductive Work
  /-- It does not have it. -/
  | absent
  /-- No worker has taken it. -/
  | queued
  /-- A worker is executing `work_callback`. -/
  | running
  /-- The task has returned. -/
  | finished
  /-- `uv_cancel` took it off the queue. -/
  | cancelled
deriving DecidableEq, Repr

/-- What happens between the program, the pool and the tasks. -/
inductive WorkEntry
  /-- `uv_queue_work` accepted the request. -/
  | queued (r : ℕ)
  /-- `uv_cancel` succeeded. -/
  | cancelled (r : ℕ)
  /-- A worker calls the task; `alive` tells whether the request existed. -/
  | called (r : ℕ) (alive : Bool)
  /-- The task returns to `work_callback`. -/
  | returned (r : ℕ) (alive : Bool)
deriving DecidableEq, Repr

/-- The request an entry is about. -/
def WorkEntry.request : WorkEntry → ℕ
  | .queued r | .cancelled r | .called r _ | .returned r _ => r

/-- A program with the thread pool. -/
structure WorkPool where
  world : World
  work : ℕ → Work
  log : List WorkEntry

/-- What happens next. -/
inductive WorkAction
  /-- An action of the program, or of libuv on a loop thread. -/
  | loop (a : Action)
  /-- A worker takes the request and calls `work_callback`. -/
  | call (r : ℕ)
  /-- The task returns. -/
  | ret (r : ℕ)
deriving DecidableEq, Repr

namespace WorkPool

/-- Nothing has been created. -/
def init : WorkPool := { world := .init, work := fun _ => .absent, log := [] }

variable (s : WorkPool)

/-- The object of a request exists. -/
def alive (r : ℕ) : Bool := decide (.resource r ∈ s.world.live)

/-- What the pool does with an action that leads the program to `w`. -/
def after (a : Action) (w : World) : WorkPool :=
  match a with
  | .submit r code =>
    if s.world.requestClass? r = some .work ∧ code = 0 then
      { world := w, work := Function.update s.work r .queued, log := s.log ++ [.queued r] }
    else { s with world := w }
  | .cancel r =>
    -- `uv_cancel` fails when a worker has taken the request, and when the pool does not have it
    if s.work r = .queued ∨ s.work r = .cancelled then
      { world := w, work := Function.update s.work r .cancelled, log := s.log ++ [.cancelled r] }
    else { s with world := w }
  | .complete r _ => { s with world := w, work := Function.update s.work r .absent }
  | _ => { s with world := w }

/-- The events published on a request. -/
def events (r : ℕ) : List Event := eventsOn s.world.log r

/-- What libuv promises of the completion of a work request: its task has returned, or it was
cancelled, and the status tells which.  And what it asks for in return: once its cancellation has been
told, a request is not cancelled before it is queued again, as `uv_cancel` would still take it for
queued. -/
def Promised : Action → Prop
  | .complete r status => s.world.requestClass? r = some .work →
    s.work r = .finished ∧ status = 0 ∨ s.work r = .cancelled ∧ status = uvEcanceled
  | .cancel r => s.world.requestClass? r = some .work → s.work r = .absent →
    (s.events r).getLast? ≠ some (.error uvEcanceled)
  | _ => True

instance (a : Action) : Decidable (s.Promised a) := by
  unfold Promised
  split <;> infer_instance

/-- One step of the program or of a worker. -/
def step : WorkAction → Option WorkPool
  | .loop a => if s.Promised a then (s.world.step a).map (s.after a) else none
  | .call r =>
    if s.work r = .queued then
      some { s with work := Function.update s.work r .running, log := s.log ++ [.called r (s.alive r)] }
    else none
  | .ret r =>
    if s.work r = .running then
      some { s with work := Function.update s.work r .finished, log := s.log ++ [.returned r (s.alive r)] }
    else none

/-- What happened to a request in the pool. -/
def entries (r : ℕ) : List WorkEntry := s.log.filter fun e => e.request = r

/-- What happens to a request from an accepted `queue` to the event that answers it: its task is called
and returns, or it is cancelled, once or more often, and the task is not called. -/
inductive Round (r : ℕ) : Event → List WorkEntry → Prop
  | work : Round r .work [.queued r, .called r true, .returned r true]
  | error (n : ℕ) : Round r (.error uvEcanceled) (.queued r :: List.replicate (n + 1) (.cancelled r))

/-- What has happened so far to a request whose event is still to come. -/
inductive Underway (r : ℕ) : Work → List WorkEntry → Prop
  | absent : Underway r .absent []
  | queued : Underway r .queued [.queued r]
  | running : Underway r .running [.queued r, .called r true]
  | finished : Underway r .finished [.queued r, .called r true, .returned r true]
  | cancelled (n : ℕ) :
    Underway r .cancelled (.queued r :: List.replicate (n + 1) (.cancelled r))

/-- What the owner of a work request is promised. -/
structure TaskOnce (r : ℕ) : Prop where
  /-- The pool has the work exactly while libuv holds an accepted request, which exists then. -/
  work_iff : s.work r ≠ .absent ↔ s.world.pending r = true
  work_alive : s.work r ≠ .absent → .resource r ∈ s.world.live
  /-- Every event ends the round of one accepted `queue`, and these rounds are all that has happened to
  the request, up to the one that is underway. -/
  rounds : ∃ rounds current, s.entries r = rounds.flatten ++ current ∧
    List.Forall₂ (Round r) (s.events r) rounds ∧ Underway r (s.work r) current

end WorkPool

/-! ## Work requests in the program -/

namespace World

variable {w w' : World} {a : Action} {r : ℕ}

/-- What an action does to a work request: it is accepted, it is completed, or nothing happens to
it. -/
inductive WorkChange (w w' : World) (a : Action) (r : ℕ) : Prop
  | same (hsub : a ≠ .submit r 0) (hcomp : ∀ status, a ≠ .complete r status)
      (hev : eventsOn w'.log r = eventsOn w.log r) (hpend : w'.pending r = w.pending r)
  | queued (ha : a = .submit r 0) (hev : eventsOn w'.log r = eventsOn w.log r)
      (hold : w.pending r = false) (hnew : w'.pending r = true)
  | completed (status : Int) (ha : a = .complete r status)
      (hev : eventsOn w'.log r = eventsOn w.log r ++ [afterWorkCallback status])
      (hold : w.pending r = true) (hnew : w'.pending r = false)

/-- What is in flight stays so when another request is submitted, -/
lemma uvSubmit_pending_of_ne {t : ℕ} {code : Int} (h : t = r → code ≠ 0) :
    (w.uvSubmit t code).pending r = w.pending r := by
  unfold World.uvSubmit
  split
  · exact Function.update_of_ne (fun hrt => h hrt.symm ‹code = 0›) _ _
  · rfl

/-- when an operation creates a request, -/
lemma operate_pending_of_lt {t : ℕ} {op : StreamOp} {data : Option DataDeleter} {code : Int}
    (hr : r < w.next) : (w.operate t op data code).pending r = w.pending r :=
  uvSubmit_pending_of_ne (w := w.allocate _) fun hrt => absurd hrt hr.ne'

/-- when a handle is initialised -/
lemma initHandle_pending (w : World) (t : ℕ) (code : Int) :
    (w.initHandle t code).pending = w.pending := by
  rcases initHandle_cases w t code with h | h <;> rw [h]
  rfl

/-- and when an object is created. -/
lemma resource_pending (w : World) (cls : ResourceClass) (l : ℕ) (code : Int) :
    (w.resource cls l code).1.pending = w.pending := by
  rcases resource_cases w cls l code with h | ⟨c, rfl, h | h⟩ <;> rw [h]
  · rfl
  · exact initHandle_pending _ _ _
  · exact initHandle_pending (w.uninitializedResource (.handle c) l) _ _

/-- Whether a request is in flight changes when it is submitted and when it is completed. -/
lemma exec_pending (hexec : w.exec a = some w') (hr : r < w.next) (hsub : a ≠ .submit r 0)
    (hcomp : ∀ status, a ≠ .complete r status) : w'.pending r = w.pending r := by
  cases a with
  | createLoop d =>
    obtain rfl := Option.some.inj hexec
    rfl
  | init t code =>
    obtain ⟨_, rfl⟩ := by simpa [World.exec] using hexec
    rw [initHandle_pending]
  | resource cls l code =>
    obtain ⟨_, rfl⟩ := by simpa [World.exec] using hexec
    rw [resource_pending]
  | start t code =>
    obtain ⟨_, rfl⟩ := by simpa [World.exec] using hexec
    rcases start_cases w t code with heq | ⟨_, _, heq⟩ <;> rw [heq]
  | close t =>
    obtain ⟨_, rfl⟩ := by simpa [World.exec] using hexec
    unfold World.close
    split <;> rfl
  | closeReset t code =>
    obtain ⟨_, rfl⟩ := by simpa [World.exec] using hexec
    unfold World.closeReset
    split <;> rfl
  | submit t code =>
    obtain ⟨_, rfl⟩ := by simpa [World.exec] using hexec
    refine uvSubmit_pending_of_ne ?_
    rintro rfl rfl
    exact hsub rfl
  | write | shutdown | connect | send =>
    obtain ⟨_, rfl⟩ := by simpa [World.exec] using hexec
    exact operate_pending_of_lt hr
  | complete t status =>
    obtain ⟨c, _, _, rfl⟩ := exec_complete hexec
    have hne : r ≠ t := fun hrt => hcomp status (hrt ▸ rfl)
    unfold World.complete World.completionCallback
    dsimp only
    split <;> exact Function.update_of_ne hne _ _
  | callback t cb =>
    obtain ⟨_, rfl⟩ := exec_callback hexec
    unfold World.handleCallback
    split <;> rfl
  | closeCallback t =>
    obtain ⟨_, rfl⟩ := by simpa [World.exec] using hexec
    unfold World.closeCallback
    dsimp only
    split <;> rfl
  | _ =>
    obtain ⟨_, rfl⟩ := by simpa [World.exec] using hexec
    rfl

/-- A completion adds its entries to the history. -/
lemma Inv.complete_log (hinv : w.Inv) (hpend : w.pending r = true) (c : RequestClass)
    (status : Int) : (w.complete r c status).log = w.log ++ w.completionEntries r c status := by
  have hlive := (hinv.pending_self r hpend).1
  simp [World.complete, World.completionCallback, World.record, World.reserve, World.push,
    World.modify, World.publishCompletion, World.completionEntries, hlive]
  exact fun t ht => decide_eq_true (hinv.target_live r t hlive ht)

/-- **Step lemma** for a work request. -/
lemma Consistent.workChange (h : w.Consistent) (hcls : (w.resources r).cls = .request .work)
    (hstep : w.step a = some w') : w.WorkChange w' a r := by
  have hlt : r < w.next := h.toInv.request_lt hcls
  have hreq : (w.resources r).isHandle = false := by rw [Resource.isHandle, hcls]
  obtain ⟨v, hexec, rfl⟩ := Option.map_eq_some_iff.mp hstep
  by_cases hsub : a = .submit r 0
  · subst hsub
    obtain ⟨⟨_, hold, _⟩, rfl⟩ := by simpa [World.exec] using hexec
    refine .queued rfl rfl hold ?_
    show Function.update w.pending r true r = true
    exact Function.update_self ..
  by_cases hcomp : ∃ status, a = .complete r status
  · obtain ⟨status, rfl⟩ := hcomp
    obtain ⟨c, hc, hpend, rfl⟩ := exec_complete hexec
    obtain rfl : c = .work := ResourceClass.request.inj (hc.symm.trans hcls)
    refine .completed status rfl ?_ hpend ?_
    · rw [settle_log, h.toInv.complete_log hpend, eventsOn_append,
        h.toInv.eventsOn_completionEntries .work status hreq, if_pos rfl]
      rfl
    · have hlive := (h.pending_self r hpend).1
      simp [World.complete, World.completionCallback, hlive, World.publishCompletion, World.record,
        World.reserve, World.push, World.modify]
  · have hcomp' : ∀ status, a ≠ .complete r status := fun status ha => hcomp ⟨status, ha⟩
    have hpend := exec_pending hexec hlt hsub hcomp'
    obtain ⟨statuses, hans⟩ := (h.toInv.change hexec).answers h.toInv hcls (by rw [hpend]; exact id)
    have hnone : statuses = [] := by
      have hflight := hans.in_flight
      rw [hpend] at hflight
      exact List.eq_nil_of_length_eq_zero (by omega)
    refine .same hsub hcomp' ?_ hpend
    rw [settle_log, hans.events, hnone]
    simp

end World

/-! ## The invariant -/

namespace WorkPool

open World

variable {s s' : WorkPool} {a : Action} {w : World} {e : WorkEntry} {r : ℕ}

/-- The invariant: what holds of the program, and what every request is promised. -/
structure Accounted (s : WorkPool) : Prop where
  consistent : s.world.Consistent
  /-- The history is about resources that have been created. -/
  created : ∀ e ∈ s.world.log, ∀ r ∈ e.resources, r < s.world.next
  /-- The pool has nothing of other requests. -/
  other : ∀ r, (s.world.resources r).cls ≠ .request .work →
    s.work r = .absent ∧ s.entries r = []
  task : ∀ r, (s.world.resources r).cls = .request .work → s.TaskOnce r

/-! ### What the pool does with one request -/

@[simp] lemma after_world (s : WorkPool) (a : Action) (w : World) : (s.after a w).world = w := by
  cases a <;> simp only [after] <;> split <;> rfl

/-- An entry is added to the entries of its request, -/
lemma entries_of_log (hlog : s'.log = s.log ++ [e]) (he : e.request = r) :
    s'.entries r = s.entries r ++ [e] := by
  rw [entries, hlog, List.filter_append, List.filter_cons_of_pos (by simpa using he)]
  rfl

/-- and not to those of another. -/
lemma entries_of_log_ne (hlog : s'.log = s.log ++ [e]) (he : e.request ≠ r) :
    s'.entries r = s.entries r := by
  rw [entries, hlog, List.filter_append, List.filter_cons_of_neg (by simpa using he),
    List.filter_nil, List.append_nil]
  rfl

/-- What becomes of one request: it is queued, cancelled or taken out, or the pool does nothing with
it. -/
inductive PoolChange (s : WorkPool) (a : Action) (s' : WorkPool) (r : ℕ) : Prop
  | same (hwork : s'.work r = s.work r) (hentries : s'.entries r = s.entries r)
      (hsub : s.world.requestClass? r = some .work → a ≠ .submit r 0)
      (hcomp : ∀ status, a ≠ .complete r status)
  | queued (ha : a = .submit r 0) (hclass : s.world.requestClass? r = some .work)
      (hwork : s'.work r = .queued) (hentries : s'.entries r = s.entries r ++ [.queued r])
  | cancelled (ha : a = .cancel r) (hold : s.work r = .queued ∨ s.work r = .cancelled)
      (hwork : s'.work r = .cancelled) (hentries : s'.entries r = s.entries r ++ [.cancelled r])
  | completed (status : Int) (ha : a = .complete r status) (hwork : s'.work r = .absent)
      (hentries : s'.entries r = s.entries r)

/-- What one action on a loop thread does with a request. -/
lemma poolChange_after (s : WorkPool) (a : Action) (w : World) (r : ℕ) :
    s.PoolChange a (s.after a w) r := by
  cases a with
  | submit t code =>
    by_cases hif : s.world.requestClass? t = some .work ∧ code = 0
    · have heq : s.after (.submit t code) w =
          { world := w, work := Function.update s.work t .queued, log := s.log ++ [.queued t] } :=
        if_pos hif
      rw [heq]
      by_cases hrt : r = t
      · subst hrt
        exact .queued (by rw [hif.2]) hif.1 (Function.update_self ..) (entries_of_log rfl rfl)
      · refine .same (Function.update_of_ne hrt _ _) (entries_of_log_ne rfl (Ne.symm hrt)) ?_ ?_
        · rintro _ ⟨⟩
          exact hrt rfl
        · rintro _ ⟨⟩
    · have heq : s.after (.submit t code) w = { s with world := w } := if_neg hif
      rw [heq]
      refine .same rfl rfl ?_ ?_
      · rintro hwork ⟨⟩
        exact hif ⟨hwork, rfl⟩
      · rintro _ ⟨⟩
  | cancel t =>
    by_cases hqueued : s.work t = .queued ∨ s.work t = .cancelled
    · have heq : s.after (.cancel t) w =
          { world := w, work := Function.update s.work t .cancelled, log := s.log ++ [.cancelled t] } :=
        if_pos hqueued
      rw [heq]
      by_cases hrt : r = t
      · subst hrt
        exact .cancelled rfl hqueued (Function.update_self ..) (entries_of_log rfl rfl)
      · refine .same (Function.update_of_ne hrt _ _) (entries_of_log_ne rfl (Ne.symm hrt)) ?_ ?_
        · rintro _ ⟨⟩
        · rintro _ ⟨⟩
    · have heq : s.after (.cancel t) w = { s with world := w } := if_neg hqueued
      rw [heq]
      refine .same rfl rfl ?_ ?_
      · rintro _ ⟨⟩
      · rintro _ ⟨⟩
  | complete t status =>
    by_cases hrt : r = t
    · subst hrt
      exact .completed status rfl (Function.update_self ..) rfl
    · refine .same (Function.update_of_ne hrt _ _) rfl ?_ ?_
      · rintro _ ⟨⟩
      · rintro _ ⟨⟩
        exact hrt rfl
  | _ =>
    refine .same rfl rfl ?_ ?_
    · rintro _ ⟨⟩
    · rintro _ ⟨⟩

/-- The class of a request is in its record. -/
lemma requestClass?_eq_some {c : RequestClass} :
    s.world.requestClass? r = some c ↔ (s.world.resources r).cls = .request c := by
  unfold requestClass?
  cases (s.world.resources r).cls <;> simp

/-- A request the pool has nothing of, and that is no work request, stays that way. -/
lemma PoolChange.idle (h : s.PoolChange a s' r) (hcls : (s.world.resources r).cls ≠ .request .work)
    (hwork : s.work r = .absent) (hnone : s.entries r = []) :
    s'.work r = .absent ∧ s'.entries r = [] := by
  cases h with
  | same hwork' hentries => exact ⟨hwork'.trans hwork, hentries.trans hnone⟩
  | queued _ hclass => exact absurd (requestClass?_eq_some.mp hclass) hcls
  | cancelled _ hold => simp [hwork] at hold
  | completed _ _ hwork' hentries => exact ⟨hwork', hentries.trans hnone⟩

/-! ### The life of one task -/

/-- A move of the work of a request, with the event and the entries that go with it. -/
inductive Moves (r : ℕ) : Work → Work → List Event → List WorkEntry → Prop
  | queue : Moves r .absent .queued [] [.queued r]
  | cancel : Moves r .queued .cancelled [] [.cancelled r]
  | again : Moves r .cancelled .cancelled [] [.cancelled r]
  | call : Moves r .queued .running [] [.called r true]
  | ret : Moves r .running .finished [] [.returned r true]
  | work : Moves r .finished .absent [.work] []
  | error : Moves r .cancelled .absent [.error uvEcanceled] []

/-- A move either goes on with the round that is underway or ends it with its event. -/
lemma Moves.underway {old new : Work} {evs : List Event} {entries current : List WorkEntry}
    (h : Moves r old new evs entries) (hunder : Underway r old current) :
    evs = [] ∧ Underway r new (current ++ entries) ∨
      ∃ ev, evs = [ev] ∧ Round r ev current ∧ entries = [] ∧ Underway r new [] := by
  cases h with
  | queue =>
    cases hunder
    exact Or.inl ⟨rfl, .queued⟩
  | cancel =>
    cases hunder
    exact Or.inl ⟨rfl, .cancelled 0⟩
  | again =>
    cases hunder with
    | cancelled n =>
      refine Or.inl ⟨rfl, ?_⟩
      rw [List.cons_append, ← List.replicate_succ']
      exact .cancelled (n + 1)
  | call =>
    cases hunder
    exact Or.inl ⟨rfl, .running⟩
  | ret =>
    cases hunder
    exact Or.inl ⟨rfl, .finished⟩
  | work =>
    cases hunder
    exact Or.inr ⟨_, rfl, .work, rfl, .absent⟩
  | error =>
    cases hunder with
    | cancelled n => exact Or.inr ⟨_, rfl, .error n, rfl, .absent⟩

/-- A request that the pool has exists. -/
lemma alive_of_work (hinv : s.world.Inv) (hiff : s.work r ≠ .absent ↔ s.world.pending r = true)
    (hwork : s.work r ≠ .absent) : .resource r ∈ s.world.live :=
  (hinv.pending_self r (hiff.mp hwork)).1

/-- **Every move keeps the rounds.** -/
lemma TaskOnce.moves (h : s.TaskOnce r) {evs : List Event} {entries : List WorkEntry}
    (hmove : Moves r (s.work r) (s'.work r) evs entries) (hinv : s'.world.Inv)
    (hiff : s'.work r ≠ .absent ↔ s'.world.pending r = true)
    (hev : s'.events r = s.events r ++ evs) (hentries : s'.entries r = s.entries r ++ entries) :
    s'.TaskOnce r where
  work_iff := hiff
  work_alive := alive_of_work hinv hiff
  rounds := by
    obtain ⟨rounds, current, heq, hrounds, hunder⟩ := h.rounds
    rcases hmove.underway hunder with ⟨rfl, hunder'⟩ | ⟨ev, rfl, hround, rfl, hunder'⟩
    · refine ⟨rounds, current ++ entries, ?_, ?_, hunder'⟩
      · rw [hentries, heq, List.append_assoc]
      · rwa [hev, List.append_nil]
    · refine ⟨rounds ++ [current], [], ?_, ?_, hunder'⟩
      · rw [hentries, heq, List.flatten_append, List.flatten_singleton]
      · rw [hev]
        exact List.rel_append hrounds (.cons hround .nil)

/-- Nothing happens to the request. -/
lemma TaskOnce.same (h : s.TaskOnce r) (hinv : s'.world.Inv) (hev : s'.events r = s.events r)
    (hpend : s'.world.pending r = s.world.pending r) (hwork : s'.work r = s.work r)
    (hentries : s'.entries r = s.entries r) : s'.TaskOnce r where
  work_iff := by rw [hwork, hpend]; exact h.work_iff
  work_alive := alive_of_work hinv (by rw [hwork, hpend]; exact h.work_iff)
  rounds := by rw [hev, hwork, hentries]; exact h.rounds

/-- Before a request exists, nothing has happened to it. -/
lemma taskOnce_absent (hwork : s.work r = .absent) (hpend : s.world.pending r = false)
    (hev : s.events r = []) (hentries : s.entries r = []) : s.TaskOnce r where
  work_iff := by simp [hwork, hpend]
  work_alive hne := absurd hwork hne
  rounds := ⟨[], [], by rw [hentries]; rfl, by rw [hev]; exact .nil, by rw [hwork]; exact .absent⟩

/-! ### Steps -/

/-- **Step lemma** for the actions on the loop threads and one work request. -/
lemma Accounted.task_loop (h : s.Accounted) (hpromised : s.Promised a)
    (hstep : s.world.step a = some w) (hcls : (s.world.resources r).cls = .request .work) :
    (s.after a w).TaskOnce r := by
  have hclass : s.world.requestClass? r = some .work := by rw [requestClass?, hcls]
  have hinv : (s.after a w).world.Inv := by
    rw [after_world]
    exact inv_step h.consistent.toInv hstep
  have htask := h.task r hcls
  have hworld := after_world s a w
  have hevents : (s.after a w).events r = eventsOn w.log r := by rw [events, hworld]
  have hpool := poolChange_after s a w r
  generalize s.after a w = s' at *
  cases h.consistent.workChange hcls hstep with
  | same hsub hcomp hev hpend =>
    have hpend' : s'.world.pending r = s.world.pending r := by rw [hworld, hpend]
    cases hpool with
    | same hwork hentries => exact htask.same hinv (hevents.trans hev) hpend' hwork hentries
    | queued ha => exact absurd ha hsub
    | cancelled ha hold hwork hentries =>
      have hmove : Moves r (s.work r) (s'.work r) [] [.cancelled r] := by
        rcases hold with hold | hold <;> rw [hold, hwork]
        · exact .cancel
        · exact .again
      refine htask.moves hmove hinv ?_ ?_ hentries
      · rw [hpend', ← htask.work_iff]
        rcases hold with hold | hold <;> simp [hold, hwork]
      · rw [hevents, hev, List.append_nil]
        rfl
    | completed status ha => exact absurd ha (hcomp status)
  | queued ha hev hold hnew =>
    have habsent : s.work r = .absent := by
      by_contra hne
      exact absurd (hold.symm.trans (htask.work_iff.mp hne)) (by decide)
    subst ha
    cases hpool with
    | same _ _ hsub => exact absurd rfl (hsub hclass)
    | queued _ _ hwork hentries =>
      have hmove : Moves r (s.work r) (s'.work r) [] [.queued r] := habsent ▸ hwork ▸ .queue
      refine htask.moves hmove hinv ?_ ?_ hentries
      · rw [hworld, hnew, hwork]
        simp
      · rw [hevents, hev, List.append_nil]
        rfl
    | cancelled ha => cases ha
    | completed status ha => cases ha
  | completed status ha hev hold hnew =>
    subst ha
    cases hpool with
    | same _ _ _ hcomp => exact absurd rfl (hcomp status)
    | queued ha => cases ha
    | cancelled ha => cases ha
    | completed _ ha hwork hentries =>
      have hiff : s'.work r ≠ .absent ↔ s'.world.pending r = true := by
        rw [hworld, hnew, hwork]
        simp
      have hentries' : s'.entries r = s.entries r ++ [] := by rw [hentries, List.append_nil]
      rcases hpromised hclass with ⟨hfin, rfl⟩ | ⟨hcan, rfl⟩
      · exact htask.moves (hfin ▸ hwork ▸ .work) hinv hiff (hevents.trans hev) hentries'
      · exact htask.moves (hcan ▸ hwork ▸ .error) hinv hiff (hevents.trans hev) hentries'

/-- A work request comes into existence idle, and with nothing published on it. -/
lemma Accounted.task_created (h : s.Accounted) (hstep : s.world.step a = some w)
    (hcls : (w.resources r).cls = .request .work)
    (hnew : (s.world.resources r).cls ≠ .request .work) : (s.after a w).TaskOnce r := by
  obtain ⟨v, hexec, rfl⟩ := Option.map_eq_some_iff.mp hstep
  rw [settle_resources] at hcls
  have hext := extends_exec hexec
  have hinv' := h.consistent.toInv.exec hexec
  have hchange := h.consistent.toInv.change hexec
  have hle : s.world.next ≤ r := by
    by_contra hlt
    exact hnew (hext.cls r (by omega) ▸ hcls)
  have hlt : r < v.next := hinv'.request_lt hcls
  obtain rfl : r = s.world.next := by
    have := hext.next_succ
    omega
  obtain ⟨hwork, hnone⟩ := h.other _ hnew
  -- nobody has put it in flight
  have hpend : v.pending s.world.next = false := by
    have hfresh := h.consistent.fresh_pending _ le_rfl
    cases hchange with
    | operate _ op _ _ _ hop =>
      rw [hop] at hcls
      cases op <;> cases hcls
    | submit t ht _ _ _ hp => rw [hp, Function.update_of_ne ht.ne', hfresh]
    | complete t _ _ hold _ _ hp =>
      have ht : t < s.world.next := h.consistent.live_lt _ (h.consistent.pending_self t hold).1
      rw [hp, Function.update_of_ne ht.ne', hfresh]
    | quiet _ hp | init _ _ _ _ _ hp | close _ _ _ hp | closeReset _ _ _ hp
    | callback _ _ _ _ _ _ hp | dangling _ _ _ _ hp | closeCallback _ _ _ _ _ hp => rw [hp, hfresh]
  -- and what is published is published on older resources
  obtain ⟨es, hes, hold⟩ := hchange.log_resources h.consistent.toInv hinv' hext
  have hevents : eventsOn v.log s.world.next = [] := by
    refine List.eq_nil_iff_forall_not_mem.mpr fun ev hev => ?_
    obtain ⟨via, alive, he⟩ := mem_eventsOn.mp hev
    rcases List.mem_append.mp (hes ▸ he) with he | he
    · exact absurd (h.created _ he _ List.mem_cons_self) (lt_irrefl _)
    · rcases hold _ he _ List.mem_cons_self with hlive | hlate | ⟨_, _, _, _, _, _, heq⟩
      · exact absurd (h.consistent.live_lt _ hlive) (lt_irrefl _)
      · exact absurd (h.consistent.late_lt hlate) (lt_irrefl _)
      · cases heq
  have hsame := (poolChange_after s a v.settle s.world.next).idle hnew hwork hnone
  refine taskOnce_absent hsame.1 ?_ ?_ hsame.2
  · rw [after_world]
    exact hpend
  · rw [events, after_world]
    exact hevents

/-- The pool gets nothing of other requests. -/
lemma Accounted.other_loop (h : s.Accounted) (hstep : s.world.step a = some w)
    (hcls : (w.resources r).cls ≠ .request .work) :
    (s.after a w).work r = .absent ∧ (s.after a w).entries r = [] := by
  have hold : (s.world.resources r).cls ≠ .request .work := by
    obtain ⟨v, hexec, rfl⟩ := Option.map_eq_some_iff.mp hstep
    intro hwork
    exact hcls ((extends_exec hexec).cls r (h.consistent.toInv.request_lt hwork) ▸ hwork)
  exact (poolChange_after s a w r).idle hold (h.other r hold).1 (h.other r hold).2

/-- The history stays about resources that have been created. -/
lemma Accounted.created_loop (h : s.Accounted) (hstep : s.world.step a = some w) :
    ∀ e ∈ w.log, ∀ r ∈ e.resources, r < w.next := by
  have hle := next_le_step hstep
  obtain ⟨v, hexec, rfl⟩ := Option.map_eq_some_iff.mp hstep
  have hinv' := h.consistent.toInv.exec hexec
  obtain ⟨es, hes, hnew⟩ := (h.consistent.toInv.change hexec).log_resources h.consistent.toInv hinv'
    (extends_exec hexec)
  intro e he r hr
  rcases List.mem_append.mp (hes ▸ he) with he | he
  · exact (h.created e he r hr).trans_le hle
  · rcases hnew e he r hr with hlive | hlate | ⟨rfl, hlt, _⟩
    · exact (h.consistent.live_lt _ hlive).trans_le hle
    · exact (h.consistent.late_lt hlate).trans_le hle
    · exact hlt

/-- **Step lemma** for the actions on the loop threads. -/
lemma Accounted.loop (h : s.Accounted) (hpromised : s.Promised a)
    (hstep : s.world.step a = some w) : (s.after a w).Accounted where
  consistent := by
    rw [after_world]
    exact consistent_step h.consistent hstep
  created := by
    rw [after_world]
    exact h.created_loop hstep
  other r hcls := h.other_loop hstep (by rwa [after_world] at hcls)
  task r hcls := by
    rw [after_world] at hcls
    by_cases hold : (s.world.resources r).cls = .request .work
    · exact h.task_loop hpromised hstep hold
    · exact h.task_created hstep hcls hold

/-- A request that the pool has is a work request. -/
lemma Accounted.cls_of_work (h : s.Accounted) (hwork : s.work r ≠ .absent) :
    (s.world.resources r).cls = .request .work := by
  by_contra hne
  exact hwork (h.other r hne).1

/-- A request that the pool has exists. -/
lemma Accounted.alive_of_work (h : s.Accounted) (hwork : s.work r ≠ .absent) : s.alive r = true :=
  decide_eq_true ((h.task r (h.cls_of_work hwork)).work_alive hwork)

/-- **Step lemma** for the workers. -/
lemma Accounted.worker (h : s.Accounted) {t : Work} (hwork : s.work r ≠ .absent)
    (hmove : Moves r (s.work r) t [] [e]) (ht : t ≠ .absent) (he : e.request = r) :
    Accounted { s with work := Function.update s.work r t, log := s.log ++ [e] } where
  consistent := h.consistent
  created := h.created
  other u hu := by
    have hne : u ≠ r := by
      rintro rfl
      exact hu (h.cls_of_work hwork)
    refine ⟨(Function.update_of_ne hne _ _).trans (h.other u hu).1, ?_⟩
    exact (entries_of_log_ne rfl (he.trans_ne hne.symm)).trans (h.other u hu).2
  task u hu := by
    by_cases hne : u = r
    · subst hne
      have htask := h.task u hu
      refine htask.moves ?_ h.consistent.toInv ?_ (List.append_nil _).symm (entries_of_log rfl he)
      · show Moves u (s.work u) (Function.update s.work u t u) [] [e]
        rw [Function.update_self]
        exact hmove
      · show Function.update s.work u t u ≠ .absent ↔ s.world.pending u = true
        rw [Function.update_self, ← htask.work_iff]
        exact ⟨fun _ => hwork, fun _ => ht⟩
    · exact (h.task u hu).same h.consistent.toInv rfl rfl (Function.update_of_ne hne _ _)
        (entries_of_log_ne rfl (he.trans_ne (Ne.symm hne)))

/-- **Step lemma.** -/
theorem accounted_step (s : WorkPool) (a : WorkAction) (s' : WorkPool) (h : s.Accounted)
    (hstep : s.step a = some s') : s'.Accounted := by
  cases a with
  | loop a =>
    obtain ⟨hpromised, hmap⟩ := Option.ite_none_right_eq_some.mp hstep
    obtain ⟨w, hw, rfl⟩ := Option.map_eq_some_iff.mp hmap
    exact h.loop hpromised hw
  | call r =>
    obtain ⟨hwork, heq⟩ := Option.ite_none_right_eq_some.mp hstep
    obtain rfl := Option.some.inj heq
    have hne : s.work r ≠ .absent := by simp [hwork]
    rw [h.alive_of_work hne]
    exact h.worker hne (hwork ▸ .call) (by decide) rfl
  | ret r =>
    obtain ⟨hwork, heq⟩ := Option.ite_none_right_eq_some.mp hstep
    obtain rfl := Option.some.inj heq
    have hne : s.work r ≠ .absent := by simp [hwork]
    rw [h.alive_of_work hne]
    exact h.worker hne (hwork ▸ .ret) (by decide) rfl

/-- Nothing has been queued yet. -/
lemma accounted_init : init.Accounted where
  consistent := consistent_init
  created e he := absurd he List.not_mem_nil
  other _ _ := ⟨rfl, rfl⟩
  task r hcls := by cases hcls

/-- **Tasks run once**: in every interleaving of what the program does, of the loop threads and of the
workers, what happens to a work request falls into rounds, one for every accepted `queue`.  Its task is
called once, on an existing request, and a `work_event` is published after it has returned, or it is
not called, as the request was cancelled, and an `error_event` with `UV_ECANCELED` is published.  Nothing
else is published on it. -/
theorem tasks_run_once (as : List WorkAction) :
    TransitionSystem.Visits WorkPool.step
      (fun s => ∀ r, (s.world.resources r).cls = .request .work → s.TaskOnce r) init as :=
  TransitionSystem.visits_of_invariant (fun _ h => h.task) accounted_step accounted_init

end WorkPool

end Uvw
