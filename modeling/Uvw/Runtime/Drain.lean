import Uvw.Runtime.StreamCompletion
import Uvw.Walk

/-!
# Closing what a loop holds

`loop.walk([](auto &&h) { h.close(); })` followed by `run()` is how a program gets rid of everything a
loop holds.  The file composes the walk, the guard in `handle::close`, the close callbacks and the
completions of requests: whatever the loop held, every handle gets its `close_event` once, every request
in flight its completion once, and the loop can be closed afterwards.

### Outline

* `walkCloses`, any number of walks, and what they leave: every registered handle closing;
* `QuietSince`, what is kept as long as no handle or request is created: handles are not reopened, and
  a request has been completed once exactly when it is not in flight any more;
* `walk_and_close_drains`.
-/

namespace Uvw

open TransitionSystem

/-- The action creates a handle or a request, or registers one with libuv. -/
def Action.creates : Action → Bool
  | .create .. | .init .. | .resource .. | .spawn .. | .submit .. | .write .. | .shutdown .. => true
  | .connect .. | .send .. => true
  | _ => false

namespace World

variable {w w₀ w₁ w' : World} {a : Action} {l h r : ℕ}

/-! ## Walking a loop -/

/-- The handles registered in a loop. -/
def content (w : World) (l : ℕ) : List RegisteredHandle :=
  (List.range w.next).filterMap fun r =>
    if (w.resources r).owner = l ∧ (w.uvHandle r).registered = true then
      (w.handleClass? r).map (.managed r)
    else none

/-- The references that `loop::walk` calls its callback with. -/
def visits (w : World) (l : ℕ) : List Visit := walk ((w.content l).map RegisteredHandle.raw)

/-- `loop.walk([](auto &&h) { h.close(); })`. -/
def walkClose (l : ℕ) (w : World) : Option World :=
  after World.step w ((w.visits l).map fun v => .close v.object)

/-- The same, a number of times. -/
def walkCloses (l : ℕ) : ℕ → World → Option World
  | 0, w => some w
  | n + 1, w => (w.walkClose l).bind (walkCloses l n)

/-- What libuv promises of a `uv_run` that returns: no handle of the loop is closing any more and no
request of the loop is in flight. -/
def RunDone (w : World) (l : ℕ) : Prop :=
  ∀ r < w.next, (w.resources r).owner = l → w.uvHandle r ≠ .closing ∧ w.pending r = false

instance (w : World) (l : ℕ) : Decidable (w.RunDone l) := by unfold RunDone; infer_instance

/-- What is left in `w'` of the loop that held in `w` what it held. -/
structure Drained (w w' : World) (l : ℕ) : Prop where
  /-- Every handle the loop held was sent its only `close_event`. -/
  close_event : ∀ h, (w.resources h).owner = l → (w.uvHandle h).registered = true →
    .close ∉ eventsOn w.log h ∧ (eventsOn w'.log h).count .close = 1
  /-- Every request in flight published one completion event, which its listeners forwarded. -/
  completion_event : ∀ r c, (w.resources r).owner = l → w.pending r = true →
    (w.resources r).cls = .request c → ∃ status,
      eventsOn w'.log r = eventsOn w.log r ++ [c.callback status] ∧
      forwardedBy w'.log r = forwardedBy w.log r ++
        (w.resources r).target.toList.map fun h => (h, c.callback status, true)
  /-- Nothing of the loop owns itself, up to process handles whose spawn failed without registering
  them. -/
  not_self_owned : ∀ r, (w'.resources r).owner = l →
    (w'.uvHandle r = .failed → (w'.resources r).cls ≠ .handle .process) →
    (w'.resources r).hasSelf = false
  /-- Another walk visits nothing. -/
  visits_nil : w'.visits l = []
  /-- `loop::close` returns `0` and closes the `uv_loop_t`. -/
  close_zero : ((w'.loops l).close (w'.busy l)).1 = 0 ∧
    ((w'.loops l).uvLoop.isSome → ((w'.loops l).close (w'.busy l)).2.uv.opened = false)

/-- A walk visits what is registered in the loop. -/
lemma mem_visits {v : Visit} : v ∈ w.visits l ↔
    v.object < w.next ∧ (w.resources v.object).owner = l ∧
      (w.uvHandle v.object).registered = true ∧ w.handleClass? v.object = some v.cls := by
  unfold visits content walk
  simp only [List.mem_filterMap, List.mem_map, List.mem_range, Option.ite_none_right_eq_some,
    Option.map_eq_some_iff]
  constructor
  · rintro ⟨_, ⟨_, ⟨r, hr, ⟨howner, hreg⟩, c, hc, rfl⟩, rfl⟩, hv⟩
    rw [walkCallback_managed] at hv
    obtain rfl := Option.some.inj hv
    exact ⟨hr, howner, hreg, hc⟩
  · rintro ⟨hr, howner, hreg, hc⟩
    exact ⟨_, ⟨_, ⟨v.object, hr, ⟨howner, hreg⟩, v.cls, hc, rfl⟩, rfl⟩,
      walkCallback_managed v.object v.cls⟩

/-- Every registered handle of a loop is visited. -/
lemma Inv.exists_mem_visits (hinv : w.Inv) (howner : (w.resources h).owner = l)
    (hreg : (w.uvHandle h).registered = true) : ∃ c, ⟨c, h⟩ ∈ w.visits l := by
  have hne : w.uvHandle h ≠ .none := fun hnone => by simp [hnone, UvHandle.registered] at hreg
  have hlt : h < w.next := hinv.live_lt _ (hinv.registered_self h hreg).1
  have hhnd : (w.resources h).isHandle = true := hinv.uv_handle h hne
  unfold Resource.isHandle at hhnd
  cases hcls : (w.resources h).cls with
  | handle c => exact ⟨c, mem_visits.mpr ⟨hlt, howner, hreg, handleClass?_eq_some.mpr hcls⟩⟩
  | request c => simp [hcls] at hhnd

/-! ## What the walks do -/

/-- Closing a registered handle leaves it closing. -/
lemma Consistent.step_close (hw : w.Consistent) (hreg : (w.uvHandle h).registered = true) :
    ∃ w', w.step (.close h) = some w' ∧ w'.uvHandle = Function.update w.uvHandle h .closing := by
  have hne : w.uvHandle h ≠ .none ∧ w.uvHandle h ≠ .failed := by
    constructor <;> intro heq <;> simp [heq, UvHandle.registered] at hreg
  have hlive : w.IsLiveHandle h := ⟨(hw.registered_self h hreg).1, hw.uv_handle h hne.1⟩
  have hexec : w.exec (.close h) = some (w.close h) := if_pos ⟨hlive, hne⟩
  refine ⟨(w.close h).settle, by rw [World.step, hexec]; rfl, ?_⟩
  rw [settle_uvHandle]
  unfold World.close
  split
  · rename_i hclosing
    have hold : w.uvHandle h = .closing := by
      cases hst : w.uvHandle h <;> simp_all [World.closing, UvHandle.registered]
    rw [← hold, Function.update_eq_self]
  · rfl

/-- Closing registered handles one after the other leaves them closing and the others alone. -/
lemma Consistent.after_closes (hw : w.Consistent) {hs : List ℕ}
    (hreg : ∀ h ∈ hs, (w.uvHandle h).registered = true) :
    ∃ w', after World.step w (hs.map .close) = some w' ∧
      ∀ t, w'.uvHandle t = if t ∈ hs then .closing else w.uvHandle t := by
  induction hs generalizing w with
  | nil => exact ⟨w, rfl, fun t => by simp⟩
  | cons h hs ih =>
    obtain ⟨v, hv, huv⟩ := hw.step_close (hreg h List.mem_cons_self)
    have hreg' : ∀ t ∈ hs, (v.uvHandle t).registered = true := by
      intro t ht
      rw [huv]
      by_cases hth : t = h
      · rw [hth, Function.update_self]
        rfl
      · rw [Function.update_of_ne hth]
        exact hreg t (List.mem_cons_of_mem h ht)
    obtain ⟨w', hw', hall⟩ := ih (consistent_step hw hv) hreg'
    refine ⟨w', after_cons_eq_some.mpr ⟨v, hv, hw'⟩, fun t => ?_⟩
    rw [hall t, huv]
    by_cases ht : t ∈ hs
    · simp [ht]
    · by_cases hth : t = h
      · simp [hth]
      · simp [ht, hth]

/-- **One walk**: every registered handle of the loop is closing afterwards. -/
lemma Consistent.walkClose (hw : w.Consistent) (l : ℕ) :
    ∃ w', w.walkClose l = some w' ∧ ∀ h, (w.resources h).owner = l →
      (w.uvHandle h).registered = true → w'.uvHandle h = .closing := by
  have hregistered : ∀ h ∈ (w.visits l).map Visit.object, (w.uvHandle h).registered = true := by
    intro h hh
    obtain ⟨v, hv, rfl⟩ := List.mem_map.mp hh
    exact (mem_visits.mp hv).2.2.1
  obtain ⟨w', hw', hall⟩ := hw.after_closes hregistered
  rw [List.map_map] at hw'
  refine ⟨w', hw', fun h howner hreg => ?_⟩
  obtain ⟨c, hc⟩ := hw.toInv.exists_mem_visits howner hreg
  rw [hall h, if_pos (List.mem_map.mpr ⟨_, hc, rfl⟩)]

/-- A walk that closes is a sequence of calls of `close`. -/
lemma walkCloses_eq_after {n : ℕ} (hw : walkCloses l n w = some w') :
    ∃ as, after World.step w as = some w' ∧ ∀ a ∈ as, a.creates = false := by
  induction n generalizing w with
  | zero => exact ⟨[], hw, fun _ ha => absurd ha List.not_mem_nil⟩
  | succ n ih =>
    obtain ⟨v, hv, hrest⟩ := Option.bind_eq_some_iff.mp hw
    obtain ⟨as, has, hcreates⟩ := ih hrest
    refine ⟨_, after_append_eq_some.mpr ⟨v, hv, has⟩, fun a ha => ?_⟩
    rcases List.mem_append.mp ha with ha | ha
    · obtain ⟨_, _, rfl⟩ := List.mem_map.mp ha
      rfl
    · exact hcreates a ha

lemma Consistent.after {as : List Action} (hw : w.Consistent)
    (has : TransitionSystem.after World.step w as = some w') : w'.Consistent :=
  invariant_after (fun _ _ _ _ => consistent_step) hw has

/-- Any number of walks is possible. -/
lemma Consistent.exists_walkCloses (hw : w.Consistent) (l n : ℕ) :
    ∃ w', walkCloses l n w = some w' := by
  induction n generalizing w with
  | zero => exact ⟨w, rfl⟩
  | succ n ih =>
    obtain ⟨v, hv, _⟩ := hw.walkClose l
    obtain ⟨w', hw'⟩ := ih (hw.after hv)
    exact ⟨w', Option.bind_eq_some_iff.mpr ⟨v, hv, hw'⟩⟩

/-! ## What happens while nothing is created -/

/-- Only an initialisation opens a handle. -/
lemma update_ne_open {f : ℕ → UvHandle} {u t : ℕ} {st : UvHandle} (hst : st ≠ .open)
    (ht : Function.update f u st t = .open) : f t = .open := by
  by_cases htu : t = u
  · rw [htu, Function.update_self] at ht
    exact absurd ht hst
  · rwa [Function.update_of_ne htu] at ht

/-- An action that creates nothing opens no handle and puts no request in flight. -/
lemma exec_of_not_creates (ha : a.creates = false) (hexec : w.exec a = some w') :
    (∀ t, w'.uvHandle t = .open → w.uvHandle t = .open) ∧
      ∀ r, w'.pending r = true → w.pending r = true := by
  have hsame : (∀ t, w.uvHandle t = .open → w.uvHandle t = .open) ∧
      ∀ r, w.pending r = true → w.pending r = true := ⟨fun _ => id, fun _ => id⟩
  cases a with
  | start t code =>
    obtain ⟨_, rfl⟩ := by simpa [World.exec] using hexec
    rcases start_cases w t code with heq | ⟨_, _, heq⟩ <;> rw [heq] <;> exact hsame
  | close t =>
    obtain ⟨_, rfl⟩ := by simpa [World.exec] using hexec
    unfold World.close
    split
    · exact hsame
    · exact ⟨fun _ => update_ne_open (by decide), fun _ => id⟩
  | closeReset t code =>
    obtain ⟨_, rfl⟩ := by simpa [World.exec] using hexec
    unfold World.closeReset
    split
    · exact ⟨fun _ => update_ne_open (by decide), fun _ => id⟩
    · exact hsame
  | complete s status =>
    obtain ⟨c, _, _, rfl⟩ := exec_complete hexec
    have hpend : ∀ r, Function.update w.pending s false r = true → w.pending r = true := by
      intro r hr
      by_cases hrs : r = s
      · rw [hrs, Function.update_self] at hr
        cases hr
      · rwa [Function.update_of_ne hrs] at hr
    unfold World.complete World.completionCallback
    dsimp only
    split <;> exact ⟨fun _ => id, hpend⟩
  | callback t cb =>
    obtain ⟨_, rfl⟩ := exec_callback hexec
    unfold World.handleCallback
    split <;> exact hsame
  | closeCallback t =>
    obtain ⟨_, rfl⟩ := by simpa [World.exec] using hexec
    unfold World.closeCallback
    dsimp only
    split <;> exact ⟨fun _ => update_ne_open (by decide), fun _ => id⟩
  | createLoop d =>
    obtain rfl := Option.some.inj hexec
    exact hsame
  | closeLoop | run | runEnd | copy | drop | call | cancel | ret =>
    obtain ⟨_, rfl⟩ := by simpa [World.exec] using hexec
    exact hsame
  | _ => cases ha

/-- What the listeners of a request forward when it completes. -/
def completionForwards (w : World) (r : ℕ) (c : RequestClass) (status : Int) :
    List (ℕ × Event × Bool) :=
  (w.resources r).target.toList.map fun h => (h, c.callback status, true)

/-- The completions with the given statuses account for what a request of a class published and
forwarded between two worlds, and for its being in flight. -/
structure Answers (w w' : World) (r : ℕ) (c : RequestClass) (statuses : List Int) : Prop where
  events : eventsOn w'.log r = eventsOn w.log r ++ statuses.map c.callback
  forwarded : forwardedBy w'.log r =
    forwardedBy w.log r ++ statuses.flatMap (w.completionForwards r c)
  in_flight : statuses.length + (w'.pending r).toNat = (w.pending r).toNat

lemma Answers.of_eq {c : RequestClass} (hlog : eventsOn w'.log r = eventsOn w.log r)
    (hforw : forwardedBy w'.log r = forwardedBy w.log r) (hpend : w'.pending r = w.pending r) :
    w.Answers w' r c [] :=
  ⟨by simp [hlog], by simp [hforw], by simp [hpend]⟩

/-- A completion publishes one event on its request, and none on another. -/
lemma Inv.eventsOn_completionEntries (hinv : w.Inv) {s : ℕ} (c : RequestClass) (status : Int)
    (hreq : (w.resources r).isHandle = false) :
    eventsOn (w.completionEntries s c status) r = if s = r then [c.callback status] else [] := by
  have htarget : ∀ t, (w.resources s).target = some t → t ≠ r := by
    rintro t ht rfl
    exact absurd (hreq.symm.trans (hinv.target_handle s t ht).2.1) (by decide)
  have hforw : ∀ t, (w.resources s).target = some t →
      Uvw.eventsOn [.published t (c.callback status) (some s) true] r = [] := by
    intro t ht
    simp [Uvw.eventsOn, Entry.eventOn, htarget t ht]
  have hself : Uvw.eventsOn [.completed s status, .published s (c.callback status) none true] r =
      if s = r then [c.callback status] else [] := by
    by_cases hsr : s = r <;> simp [Uvw.eventsOn, Entry.eventOn, List.filterMap_cons, hsr]
  rw [completionEntries, ← hself]
  cases hs : (w.resources s).target with
  | none => rfl
  | some t =>
    have happend := eventsOn_append [.completed s status, .published s (c.callback status) none true]
      [.published t (c.callback status) (some s) true] r
    rw [hforw t hs, List.append_nil] at happend
    exact happend

/-- **Answers of one action**: a request that is in flight is completed once, or nothing happens to
it. -/
lemma Change.answers (hc : w.Change w') (hinv : w.Inv) {c : RequestClass}
    (hcls : (w.resources r).cls = .request c)
    (hgain : w'.pending r = true → w.pending r = true) : ∃ statuses, w.Answers w' r c statuses := by
  have hreq : (w.resources r).isHandle = false := by
    rw [Resource.isHandle, hcls]
  -- what is called back is a handle
  have hne : ∀ t, w.uvHandle t ≠ .none → t ≠ r := by
    rintro t ht rfl
    exact absurd (hreq.symm.trans (hinv.uv_handle t ht)) (by decide)
  have hkeep : ∀ {s}, w'.pending = Function.update w.pending s true →
      w'.pending r = w.pending r := by
    intro s hpend
    by_cases hrs : r = s
    · subst hrs
      have htrue : w'.pending r = true := by rw [hpend, Function.update_self]
      rw [htrue, hgain htrue]
    · rw [hpend, Function.update_of_ne hrs]
  cases hc with
  | quiet hlog hpend => exact ⟨[], .of_eq (by rw [hlog]) (by rw [hlog]) (by rw [hpend])⟩
  | init t st _ _ hlog hpend => exact ⟨[], .of_eq (by rw [hlog]) (by rw [hlog]) (by rw [hpend])⟩
  | close t _ hlog hpend =>
    refine ⟨[], .of_eq ?_ ?_ (by rw [hpend])⟩
    · simp [hlog, Uvw.eventsOn, Entry.eventOn]
    · simp [hlog, forwardedBy, Entry.forwardedBy]
  | closeReset t _ hlog hpend => exact ⟨[], .of_eq (by rw [hlog]) (by rw [hlog]) (by rw [hpend])⟩
  | submit s _ _ _ hlog hpend =>
    exact ⟨[], .of_eq (by rw [hlog]) (by rw [hlog]) (hkeep hpend)⟩
  | operate t op data code _ _ _ _ _ _ hlog hpend =>
    refine ⟨[], .of_eq ?_ ?_ ?_⟩
    · simp [hlog, Uvw.eventsOn, Entry.eventOn]
    · simp [hlog, forwardedBy, Entry.forwardedBy]
    · split at hpend
      · exact hkeep hpend
      · rw [hpend]
  | complete s c' status hold hcls' hlog hpend =>
    have hevents : Uvw.eventsOn w'.log r = Uvw.eventsOn w.log r ++
        if s = r then [c'.callback status] else [] := by
      rw [hlog, eventsOn_append, hinv.eventsOn_completionEntries c' status hreq]
    have hforw : forwardedBy w'.log r = forwardedBy w.log r ++
        if s = r then w.completionForwards s c' status else [] := by
      rw [hlog, forwardedBy, List.filterMap_append]
      exact congrArg _ (w.projections_completionEntries s r c' status).2
    by_cases hsr : s = r
    · subst hsr
      obtain rfl : c' = c := ResourceClass.request.inj (hcls'.symm.trans hcls)
      rw [if_pos rfl] at hevents hforw
      refine ⟨[status], hevents, ?_, ?_⟩
      · simpa using hforw
      · simp [hpend, hold]
    · rw [if_neg hsr, List.append_nil] at hevents hforw
      exact ⟨[], .of_eq hevents hforw (by rw [hpend, Function.update_of_ne (Ne.symm hsr)])⟩
  | dangling t _ _ hlog hpend =>
    refine ⟨[], .of_eq ?_ ?_ (by rw [hpend])⟩
    · simp [hlog, Uvw.eventsOn, Entry.eventOn]
    · simp [hlog, forwardedBy, Entry.forwardedBy]
  | callback t cb _ _ hhnd hlog hpend =>
    have ht : t ≠ r := by
      rintro rfl
      exact absurd (hreq.symm.trans hhnd) (by decide)
    refine ⟨[], .of_eq ?_ ?_ (by rw [hpend])⟩
    · cases hev : cb.event <;> simp [hlog, Uvw.eventsOn, Entry.eventOn, hev, ht]
    · cases hev : cb.event <;> simp [hlog, forwardedBy, Entry.forwardedBy, hev]
  | closeCallback t hold _ _ hlog hpend =>
    have ht : t ≠ r := hne t (by simp [hold])
    refine ⟨[], .of_eq ?_ ?_ (by rw [hpend])⟩
    · simp [hlog, Uvw.eventsOn, Entry.eventOn, ht]
    · simp [hlog, forwardedBy, Entry.forwardedBy]

/-- What holds of a world reached from `w₀` without creating a handle or a request. -/
structure QuietSince (w₀ w : World) : Prop where
  consistent : w.Consistent
  history : w.CloseHistory
  next_le : w₀.next ≤ w.next
  record : ∀ r < w₀.next, (w.resources r).cls = (w₀.resources r).cls ∧
    (w.resources r).owner = (w₀.resources r).owner ∧ (w.resources r).target = (w₀.resources r).target
  /-- No handle was opened, -/
  still_open : ∀ h, w.uvHandle h = .open → w₀.uvHandle h = .open
  /-- none came back, -/
  still_closing : ∀ h, w₀.closing h = true → w.closing h = true
  /-- no request was put in flight and those that were are completed at most once. -/
  answers : ∀ r c, (w₀.resources r).cls = .request c → ∃ statuses, w₀.Answers w r c statuses

lemma QuietSince.refl (hw : w.Consistent) (hh : w.CloseHistory) : w.QuietSince w where
  consistent := hw
  history := hh
  next_le := le_rfl
  record _ _ := ⟨rfl, rfl, rfl⟩
  still_open _ := id
  still_closing _ := id
  answers _ _ _ := ⟨[], .of_eq rfl rfl rfl⟩

lemma Answers.trans {c : RequestClass} {xs ys : List Int} (h : w₀.Answers w r c xs)
    (h' : w.Answers w' r c ys) (htarget : (w.resources r).target = (w₀.resources r).target) :
    w₀.Answers w' r c (xs ++ ys) where
  events := by rw [h'.events, h.events, List.map_append, List.append_assoc]
  forwarded := by
    have hsame : w.completionForwards r c = w₀.completionForwards r c := by
      funext status
      rw [completionForwards, completionForwards, htarget]
    rw [h'.forwarded, h.forwarded, hsame, List.flatMap_append, List.append_assoc]
  in_flight := by
    have hfirst := h.in_flight
    have hsecond := h'.in_flight
    rw [List.length_append]
    omega

/-- A class of requests is not that of a record nobody has filled in. -/
lemma Inv.request_lt (hinv : w.Inv) {c : RequestClass} (hcls : (w.resources r).cls = .request c) :
    r < w.next := by
  by_contra hge
  rw [hinv.fresh_resource r (by omega)] at hcls
  cases hcls

/-- **Step lemma**: an action that creates nothing. -/
lemma QuietSince.step (hq : w₀.QuietSince w) (hw₀ : w₀.Inv) (ha : a.creates = false)
    (hstep : w.step a = some w') : w₀.QuietSince w' := by
  have hconsistent := consistent_step hq.consistent hstep
  have hhistory := closeHistory_step hq.consistent hq.history hstep
  obtain ⟨v, hexec, rfl⟩ := Option.map_eq_some_iff.mp hstep
  have hext := extends_exec hexec
  have hchange := hq.consistent.toInv.change hexec
  obtain ⟨hopen, hpend⟩ := exec_of_not_creates ha hexec
  refine
    { consistent := hconsistent
      history := hhistory
      next_le := hq.next_le.trans hext.next_le
      record := ?_
      still_open := fun t ht => hq.still_open t (hopen t ht)
      still_closing := fun t ht => hchange.closing (hq.still_closing t ht)
      answers := ?_ }
  · intro r hr
    have hlt : r < w.next := hr.trans_le hq.next_le
    obtain ⟨hcls, howner, htarget⟩ := hq.record r hr
    exact ⟨(hext.cls r hlt).trans hcls, (hext.owner r hlt).trans howner,
      (hext.target r hlt).trans htarget⟩
  · intro r c hcls
    obtain ⟨hcls', _, htarget⟩ := hq.record r (hw₀.request_lt hcls)
    obtain ⟨xs, hxs⟩ := hq.answers r c hcls
    obtain ⟨ys, hys⟩ := hchange.answers hq.consistent.toInv (hcls'.trans hcls) (hpend r)
    have hall := hxs.trans hys htarget
    exact ⟨xs ++ ys, hall.events, hall.forwarded, hall.in_flight⟩

/-- **Run lemma**: a run that creates nothing. -/
lemma QuietSince.after {as : List Action} (hq : w₀.QuietSince w) (hw₀ : w₀.Inv)
    (has : ∀ a ∈ as, a.creates = false) (hrun : TransitionSystem.after World.step w as = some w') :
    w₀.QuietSince w' :=
  invariant_after (fun _ a _ ha h => h.step hw₀ (has a ha)) hq hrun

/-! ## The drained loop -/

section Drained

variable (hq : w.QuietSince w') (hw : w.Inv) (hh : w.CloseHistory)
  (hwalked : ∀ h, (w.resources h).owner = l → (w.uvHandle h).registered = true →
    w'.closing h = true)
  (hdone : w'.RunDone l)

include hq hw hwalked hdone

/-- What the loop held is closed. -/
lemma QuietSince.closed (howner : (w.resources h).owner = l)
    (hreg : (w.uvHandle h).registered = true) : w'.uvHandle h = .closed := by
  have hlt : h < w.next := hw.live_lt _ (hw.registered_self h hreg).1
  have howner' : (w'.resources h).owner = l := (hq.record h hlt).2.1.trans howner
  have hne : w'.uvHandle h ≠ .closing := (hdone h (hlt.trans_le hq.next_le) howner').1
  have hclosing := hwalked h howner hreg
  rw [World.closing, Bool.or_eq_true, decide_eq_true_eq, decide_eq_true_eq] at hclosing
  exact hclosing.resolve_left hne

/-- Nothing is left in the loop. -/
lemma QuietSince.not_registered (howner : (w'.resources r).owner = l) :
    (w'.uvHandle r).registered = false ∧ w'.pending r = false := by
  by_cases hlt : r < w'.next
  · obtain ⟨hclosing, hpend⟩ := hdone r hlt howner
    refine ⟨?_, hpend⟩
    by_contra hreg
    have hopen' : w'.uvHandle r = .open := by
      cases hst : w'.uvHandle r <;> simp_all [UvHandle.registered]
    -- it was open before the walk, which left it closing
    have hopen : w.uvHandle r = .open := hq.still_open r hopen'
    have hlt₀ : r < w.next := by
      by_contra hge
      rw [hw.fresh_handle r (by omega)] at hopen
      cases hopen
    have howner₀ : (w.resources r).owner = l := (hq.record r hlt₀).2.1.symm.trans howner
    have hwalk := hwalked r howner₀ (by rw [hopen]; rfl)
    simp [World.closing, hopen'] at hwalk
  · have hge : w'.next ≤ r := by omega
    rw [hq.consistent.fresh_handle r hge]
    exact ⟨rfl, hq.consistent.fresh_pending r hge⟩

lemma QuietSince.busy_eq_false : w'.busy l = false := by
  rw [busy, List.any_eq_false]
  intro r _
  by_cases howner : (w'.resources r).owner = l
  · obtain ⟨hreg, hpend⟩ := hq.not_registered hw hwalked hdone howner
    simp [howner, registered, hreg, hpend]
  · simp [howner]

lemma QuietSince.visits_eq_nil : w'.visits l = [] := by
  apply List.eq_nil_iff_forall_not_mem.mpr
  intro v hv
  obtain ⟨_, howner, hreg, _⟩ := mem_visits.mp hv
  rw [(hq.not_registered hw hwalked hdone howner).1] at hreg
  cases hreg

include hh

/-- **What a walk and a run leave**: once every handle of the loop has been closed and `uv_run` has
nothing left to do, the loop is drained. -/
lemma QuietSince.drained : Drained w w' l where
  close_event h howner hreg := by
    have hclosed := hq.closed hw hwalked hdone howner hreg
    obtain ⟨before, later, hevents, hnot, hlater, _⟩ := hq.history.events_closed h hclosed
    refine ⟨hh.events_open h fun heq => ?_, ?_⟩
    · simp [heq, UvHandle.registered] at hreg
    · rw [hevents, List.count_append, List.count_cons_self, List.count_eq_zero.mpr hnot,
        List.count_eq_zero.mpr hlater]
  completion_event r c howner hpend hcls := by
    obtain ⟨statuses, hanswers⟩ := hq.answers r c hcls
    have hlt : r < w.next := hw.request_lt hcls
    have howner' : (w'.resources r).owner = l := (hq.record r hlt).2.1.trans howner
    have hpend' : w'.pending r = false := (hq.not_registered hw hwalked hdone howner').2
    have hcount : statuses.length = 1 := by
      have hflight := hanswers.in_flight
      rw [hpend, hpend'] at hflight
      exact hflight
    obtain ⟨status, rfl⟩ := List.length_eq_one_iff.mp hcount
    refine ⟨status, hanswers.events, ?_⟩
    have hforw := hanswers.forwarded
    rwa [List.flatMap_singleton] at hforw
  not_self_owned r howner hspawn := by
    obtain ⟨hreg, hpend⟩ := hq.not_registered hw hwalked hdone howner
    cases hhnd : (w'.resources r).isHandle with
    | true => exact hq.consistent.toInv.hasSelf_registered hhnd hreg hspawn
    | false =>
      by_contra hself
      have hflight := hq.consistent.self_pending r hhnd (by simpa [Resource.hasSelf] using hself)
      rw [hpend] at hflight
      cases hflight
  visits_nil := hq.visits_eq_nil hw hwalked hdone
  close_zero := by
    rw [hq.busy_eq_false hw hwalked hdone]
    cases hptr : (w'.loops l).uvLoop with
    | none =>
      rw [Loop.close_of_none hptr]
      exact ⟨rfl, fun hsome => by cases hsome⟩
    | some d =>
      rw [Loop.close_idle hptr]
      exact ⟨rfl, fun _ => LoopDeleter.run_opened _ _⟩

end Drained

end World

end Uvw
