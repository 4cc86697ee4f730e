import Mathlib.Algebra.Order.BigOperators.Group.Finset
import Uvw.Foundation.Progress
import Uvw.Runtime.Isolation

/-!
# Taking a program apart

Whatever a program has got itself into, it can get out of: from every state of a run that closes no busy
loop, it can return from the calls it is in, close its handles, run its loops until libuv has completed the
requests and closed the handles, and drop its references.  Nothing is left then but the process handles
whose spawn failed, with their loops: `spawn` makes a handle own itself before it knows, and nothing else
gives that reference back.

### Outline

* `step_ret`, `step_close_open`, `step_complete`, ...: the actions that are used, and what they do;
* `Windable.idle`, `Windable.unregister`, `Windable.unreference`: one phase after the other, each by the
  variant rule;
* `BusyOpen`: a loop in which something is registered can be run;
* `programs_can_be_taken_apart`.
-/

namespace Uvw

open TransitionSystem

/-- The actions that take a program apart. -/
def Action.TakesApart : Action → Prop
  | .run _ | .runEnd | .copy _ | .drop _ | .close _ | .complete _ _ | .closeCallback _ | .ret => True
  | _ => False

/-- How many actions libuv and the program need to get rid of a handle. -/
def UvHandle.load : UvHandle → ℕ
  | .open => 2
  | .closing => 1
  | _ => 0

namespace World

/-- Taking the program apart can leave nothing but the handles of failed spawns and their loops. -/
def CanBeTakenApart (w : World) : Prop :=
  ∃ w', Reaches World.step (fun _ => Action.TakesApart) w w' ∧
    ∀ x, x ∈ w'.live ↔ ∃ r, w.SpawnFailed r ∧ (x = .resource r ∨ x = .loop (w.resources r).owner)

variable {w v w' : World} {a : Action} {l r : ℕ}

/-- `libuv` has the same registered. -/
structure SameUv (w w' : World) : Prop where
  next : w'.next = w.next
  resources : w'.resources = w.resources
  uvHandle : w'.uvHandle = w.uvHandle
  pending : w'.pending = w.pending

lemma SameUv.trans (h : w.SameUv v) (h' : v.SameUv w') : w.SameUv w' where
  next := h'.next.trans h.next
  resources := h'.resources.trans h.resources
  uvHandle := h'.uvHandle.trans h.uvHandle
  pending := h'.pending.trans h.pending

/-- What is left to do for libuv. -/
def load (w : World) : ℕ :=
  ∑ r ∈ Finset.range w.next, ((w.uvHandle r).load + (w.pending r).toNat)

lemma SameUv.load_eq (h : w.SameUv w') : w'.load = w.load := by
  unfold load
  rw [h.next, h.uvHandle, h.pending]

/-- Less is left after something happened to one handle or request. -/
lemma load_lt (hnext : w'.next = w.next) (hr : r < w.next)
    (hsame : ∀ s ≠ r, w'.uvHandle s = w.uvHandle s ∧ w'.pending s = w.pending s)
    (hlt : (w'.uvHandle r).load + (w'.pending r).toNat < (w.uvHandle r).load + (w.pending r).toNat) :
    w'.load < w.load := by
  unfold load
  rw [hnext]
  refine Finset.sum_lt_sum (fun s _ => ?_) ⟨r, Finset.mem_range.mpr hr, hlt⟩
  by_cases hs : s = r
  · exact hs ▸ hlt.le
  · rw [(hsame s hs).1, (hsame s hs).2]

/-! ## The actions -/

/-- A callback returns. -/
lemma step_ret {f : Frame} {rest : List Frame} (hst : w.stack = f :: rest) (hf : f.isCallback = true) :
    ∃ w', w.step .ret = some w' ∧ w'.stack = rest ∧ w.SameUv w' := by
  have hcall : w.InCallback := ⟨f, by rw [hst]; rfl, hf⟩
  have hexec : w.exec .ret = some w.pop := if_pos hcall
  refine ⟨w.pop.settle, by rw [World.step, hexec]; rfl, ?_, ⟨rfl, rfl, rfl, rfl⟩⟩
  rw [settle_stack, World.pop, hst, List.tail_cons]

/-- `uv_run` returns. -/
lemma Inv.step_runEnd (h : w.Inv) {rest : List Frame} (hst : w.stack = .running l :: rest) :
    ∃ w', w.step .runEnd = some w' ∧ w'.stack = rest ∧ w.SameUv w' := by
  have hlive : .loop l ∈ w.live :=
    h.held_live (.running l) (by rw [hst]; exact List.mem_cons_self) _ (List.mem_singleton_self _)
  have hrun : ∃ m ∈ List.range w.next, w.InRun m :=
    ⟨l, List.mem_range.mpr (h.live_lt _ hlive), by rw [InRun, hst]; rfl⟩
  have hexec : w.exec .runEnd = some w.pop := if_pos hrun
  refine ⟨w.pop.settle, by rw [World.step, hexec]; rfl, ?_, ⟨rfl, rfl, rfl, rfl⟩⟩
  rw [settle_stack, World.pop, hst, List.tail_cons]

/-- The program takes a reference to a loop. -/
lemma step_copy (hl : .loop l ∈ w.live) :
    ∃ w', w.step (.copy (.loop l)) = some w' ∧ w'.stack = w.stack ∧ w.SameUv w' ∧
      0 < w'.refs (.loop l) := by
  have hexec : w.exec (.copy (.loop l)) = some (w.acquire (.loop l)) := if_pos hl
  refine ⟨(w.acquire (.loop l)).settle, by rw [World.step, hexec]; rfl, rfl, ⟨rfl, rfl, rfl, rfl⟩, ?_⟩
  show 0 < Function.update w.refs (.loop l) (w.refs (.loop l) + 1) (.loop l)
  rw [Function.update_self]
  exact Nat.succ_pos _

/-- The program runs a loop. -/
lemma step_run (hrefs : 0 < w.refs (.loop l)) (hopen : (w.loops l).uvLoop.isSome = true)
    (hst : w.stack = []) :
    ∃ w', w.step (.run l) = some w' ∧ w'.stack = [.running l] ∧ w.SameUv w' := by
  have hnot : .running l ∉ w.stack := by
    rw [hst]
    exact List.not_mem_nil
  have hexec : w.exec (.run l) = some (w.push (.running l)) := if_pos ⟨hrefs, hopen, hnot⟩
  refine ⟨(w.push (.running l)).settle, by rw [World.step, hexec]; rfl, ?_, ⟨rfl, rfl, rfl, rfl⟩⟩
  rw [settle_stack, push, hst]

/-- libuv completes a request. -/
lemma Inv.step_complete (h : w.Inv) (hpend : w.pending r = true) (hrun : w.InRun (w.resources r).owner) :
    ∃ w', w.step (.complete r 0) = some w' ∧ w'.load < w.load := by
  obtain ⟨hlive, _, hreq⟩ := h.pending_self r hpend
  obtain ⟨c, hc⟩ : ∃ c, w.requestClass? r = some c := by
    unfold requestClass?
    unfold Resource.isHandle at hreq
    cases hcls : (w.resources r).cls with
    | handle c => simp [hcls] at hreq
    | request c => exact ⟨c, rfl⟩
  have hexec : w.exec (.complete r 0) = some (w.complete r c 0) := by
    simp only [World.exec, hc]
    exact if_pos ⟨hpend, hrun⟩
  have hfields : (w.complete r c 0).next = w.next ∧ (w.complete r c 0).uvHandle = w.uvHandle ∧
      (w.complete r c 0).pending = Function.update w.pending r false := by
    unfold World.complete World.completionCallback
    dsimp only
    split <;> exact ⟨rfl, rfl, rfl⟩
  obtain ⟨hnext, huv, hpending⟩ := hfields
  refine ⟨(w.complete r c 0).settle, by rw [World.step, hexec]; rfl, ?_⟩
  refine load_lt (r := r) hnext (h.live_lt _ hlive) (fun s hs => ?_) ?_
  · rw [settle_uvHandle, settle_pending, huv, hpending, Function.update_of_ne hs]
    exact ⟨rfl, rfl⟩
  · rw [settle_uvHandle, settle_pending, huv, hpending, Function.update_self, hpend]
    exact Nat.lt_succ_self _

/-- The program closes an open handle. -/
lemma Inv.step_close_open (h : w.Inv) (hopen : w.uvHandle r = .open) :
    ∃ w', w.step (.close r) = some w' ∧ w'.load < w.load := by
  have hlive : .resource r ∈ w.live := (h.registered_self r (by rw [hopen]; rfl)).1
  have hhnd : (w.resources r).isHandle = true := h.uv_handle r (by rw [hopen]; decide)
  have hexec : w.exec (.close r) = some (w.close r) :=
    if_pos ⟨⟨hlive, hhnd⟩, by rw [hopen]; decide, by rw [hopen]; decide⟩
  have hclose : w.close r = (w.uvClose r).record [.uvClose r .open] := by
    rw [World.close, if_neg (by simp [World.closing, hopen]), hopen]
  refine ⟨(w.close r).settle, by rw [World.step, hexec]; rfl, ?_⟩
  rw [hclose]
  refine load_lt (r := r) rfl (h.live_lt _ hlive) (fun s hs => ?_) ?_
  · exact ⟨Function.update_of_ne hs _ _, rfl⟩
  · show (Function.update w.uvHandle r .closing r).load + _ < _
    rw [Function.update_self, hopen]
    exact Nat.add_lt_add_right (Nat.lt_succ_self _) _

/-- libuv calls a close callback. -/
lemma Inv.step_closeCallback (h : w.Inv) (hclosing : w.uvHandle r = .closing)
    (hrun : w.InRun (w.resources r).owner) (hidle : w.hasPending r = false) :
    ∃ w', w.step (.closeCallback r) = some w' ∧ w'.load < w.load := by
  have hlive : .resource r ∈ w.live := (h.registered_self r (by rw [hclosing]; rfl)).1
  have hexec : w.exec (.closeCallback r) = some (w.closeCallback r) := if_pos ⟨hclosing, hrun, hidle⟩
  have hfields : (w.closeCallback r).next = w.next ∧ (w.closeCallback r).pending = w.pending ∧
      (w.closeCallback r).uvHandle = Function.update w.uvHandle r .closed := by
    unfold World.closeCallback
    dsimp only
    split <;> exact ⟨rfl, rfl, rfl⟩
  obtain ⟨hnext, hpending, huv⟩ := hfields
  refine ⟨(w.closeCallback r).settle, by rw [World.step, hexec]; rfl, ?_⟩
  refine load_lt (r := r) hnext (h.live_lt _ hlive) (fun s hs => ?_) ?_
  · rw [settle_uvHandle, settle_pending, huv, hpending, Function.update_of_ne hs]
    exact ⟨rfl, rfl⟩
  · rw [settle_uvHandle, settle_pending, huv, hpending, Function.update_self, hclosing]
    exact Nat.add_lt_add_right (Nat.lt_succ_self _) _

/-! ## Loops that are busy are open -/

/-- What is registered after one handle changed was registered before. -/
lemma registered_update (st : UvHandle) {t : ℕ}
    (hst : st.registered = true → (w.uvHandle t).registered = true) (hv : v.pending = w.pending)
    (huv : v.uvHandle = Function.update w.uvHandle t st) (hr : v.registered r = true) :
    w.registered r = true := by
  rw [registered, Bool.or_eq_true] at hr ⊢
  rw [hv, huv] at hr
  refine hr.imp_left fun hreg => ?_
  by_cases hrt : r = t
  · subst hrt
    rw [Function.update_self] at hreg
    exact hst hreg
  · rwa [Function.update_of_ne hrt] at hreg

lemma update_ne_failed {f : ℕ → UvHandle} {t : ℕ} {st : UvHandle} (hst : st ≠ .failed)
    (hr : Function.update f t st r = .failed) : f r = .failed := by
  by_cases hrt : r = t
  · subst hrt
    rw [Function.update_self] at hr
    exact absurd hr hst
  · rwa [Function.update_of_ne hrt] at hr

/-- Taking apart registers nothing and fails no initialisation. -/
lemma exec_takesApart (ha : a.TakesApart) (hexec : w.exec a = some v) (r : ℕ) :
    (v.registered r = true → w.registered r = true) ∧
      (v.uvHandle r = .failed → w.uvHandle r = .failed) := by
  cases a with
  | close t =>
    obtain ⟨⟨_, hnone, hfailed⟩, rfl⟩ := by simpa [World.exec] using hexec
    unfold World.close
    split
    · exact ⟨id, id⟩
    · rename_i hnot
      have hopen : w.uvHandle t = .open := by
        cases hst : w.uvHandle t <;> simp_all [World.closing]
      exact ⟨registered_update .closing (fun _ => by rw [hopen]; rfl) rfl rfl,
        update_ne_failed (by decide)⟩
  | complete s status =>
    obtain ⟨c, _, _, rfl⟩ := exec_complete hexec
    have hreg : (w.uvHandle r).registered = true ∨ Function.update w.pending s false r = true →
        w.registered r = true := by
      intro hr
      rw [registered, Bool.or_eq_true]
      refine hr.imp_right fun hpend => ?_
      by_cases hrs : r = s
      · rw [hrs, Function.update_self] at hpend
        cases hpend
      · rwa [Function.update_of_ne hrs] at hpend
    unfold World.complete World.completionCallback
    dsimp only
    split <;> exact ⟨fun hr => hreg ((Bool.or_eq_true _ _).mp hr), id⟩
  | closeCallback t =>
    obtain ⟨_, rfl⟩ := by simpa [World.exec] using hexec
    unfold World.closeCallback
    dsimp only
    split <;> exact ⟨registered_update .closed (fun h => by cases h) rfl rfl,
      update_ne_failed (by decide)⟩
  | run | runEnd | copy | drop | ret =>
    obtain ⟨_, rfl⟩ := by simpa [World.exec] using hexec
    exact ⟨id, id⟩
  | _ => exact ha.elim

/-- A loop that libuv has something registered in can be run. -/
def BusyOpen (w : World) : Prop := ∀ l, w.busy l = true → (w.loops l).uvLoop.isSome = true

/-- The action closes no loop in which libuv has something registered. -/
def ClosesIdle (w : World) (a : Action) : Prop := ∀ l, a = .closeLoop l → w.busy l = false

/-- What is registered was so before, or is registered in a loop that is open, or belongs to a loop in
which something was registered. -/
def FromOpen (w v : World) (r : ℕ) : Prop :=
  w.registered r = true ∨ (w.loops (v.resources r).owner).uvLoop.isSome = true ∨
    ∃ s, w.registered s = true ∧ (w.resources s).owner = (v.resources r).owner

lemma initHandle_registered {t : ℕ} {code : Int} (hr : (v.initHandle t code).registered r = true)
    (hne : r ≠ t) : v.registered r = true := by
  rcases initHandle_cases v t code with hinit | hinit <;> rw [hinit] at hr
  · exact hr
  · have hsame : ((v.uvInit t code).modify t (·.leakIf code)).uvHandle r = v.uvHandle r :=
      Function.update_of_ne hne _ _
    rw [registered, hsame] at hr
    exact hr

lemma submit_registered {s : ℕ} {code : Int} (hr : (v.submit s code).registered r = true) (hne : r ≠ s) :
    v.registered r = true := by
  have hsame : (v.submit s code).pending r = v.pending r := by
    unfold submit uvSubmit
    split
    · exact Function.update_of_ne hne _ _
    · rfl
  rw [registered, submit_uvHandle, hsame] at hr
  exact hr

lemma Inv.fromOpen_operate (h : w.Inv) {t : ℕ} {op : StreamOp} {data : Option DataDeleter} {code : Int}
    (hop : w.CanOperate t op code) (hr : (w.operate t op data code).registered r = true) :
    w.FromOpen (w.operate t op data code) r := by
  by_cases hnew : r = w.next
  · subst hnew
    by_cases hcode : code = 0
    · have hreg := hop.2.2.resolve_right fun hclosed => hclosed.2 hcode
      refine Or.inr (Or.inr ⟨t, by rw [registered, hreg, Bool.true_or], ?_⟩)
      have howner : ((w.operate t op data code).resources w.next).owner = (w.resources t).owner := by
        refine (sameRecord_submit _ w.next code w.next).2.1.trans ?_
        rw [allocate_resources_next]
        rfl
      exact howner.symm
    · have hsub : w.operate t op data code = (w.allocate _).record _ :=
        congrArg (World.record · _) (submit_of_ne_zero hcode)
      rw [hsub] at hr
      have hfree : w.registered w.next = false := by
        rw [registered, h.fresh_handle w.next le_rfl, h.fresh_pending w.next le_rfl]
        rfl
      exact absurd (hfree.symm.trans hr) (by decide)
  · exact Or.inl (submit_registered (v := w.allocate _) hr hnew)

lemma resource_owner (w : World) (cls : ResourceClass) (m : ℕ) (code : Int) :
    ((w.resource cls m code).1.resources w.next).owner = m := by
  have hnew : ((w.uninitializedResource cls m).resources w.next).owner = m := by
    rw [uninitializedResource_resources]
    rfl
  have hinit := (sameRecord_initHandle (w.uninitializedResource cls m) w.next code w.next).2.1
  rcases resource_cases w cls m code with hres | ⟨c, rfl, hres | hres⟩ <;> rw [hres]
  · exact hnew
  · exact hinit.trans hnew
  · exact hinit.trans hnew

lemma resource_registered {cls : ResourceClass} {m : ℕ} {code : Int}
    (hr : (w.resource cls m code).1.registered r = true) (hne : r ≠ w.next) : w.registered r = true := by
  rcases resource_cases w cls m code with hres | ⟨c, rfl, hres | hres⟩ <;> rw [hres] at hr
  · exact hr
  · exact initHandle_registered (v := w.uninitializedResource (.handle c) m) hr hne
  · exact initHandle_registered (v := w.uninitializedResource (.handle c) m) hr hne

/-- Handles and requests are registered in open loops. -/
lemma Inv.fromOpen (h : w.Inv) (hexec : w.exec a = some v) (hr : v.registered r = true) :
    w.FromOpen v r := by
  by_cases ha : a.TakesApart
  · exact Or.inl ((exec_takesApart ha hexec r).1 hr)
  cases a with
  | createLoop d =>
    obtain rfl := Option.some.inj hexec
    exact Or.inl hr
  | init t code =>
    obtain ⟨⟨_, _, hopen⟩, rfl⟩ := by simpa [World.exec] using hexec
    by_cases hrt : r = t
    · subst hrt
      refine Or.inr (Or.inl ?_)
      rw [(sameRecord_initHandle w r code r).2.1]
      exact hopen
    · exact Or.inl (initHandle_registered hr hrt)
  | resource cls l code =>
    obtain ⟨⟨_, hopen⟩, rfl⟩ := by simpa [World.exec] using hexec
    by_cases hrn : r = w.next
    · subst hrn
      refine Or.inr (Or.inl ?_)
      rw [resource_owner]
      exact hopen
    · exact Or.inl (resource_registered hr hrn)
  | spawn t code reg =>
    obtain ⟨⟨_, _, _, hopen⟩, rfl⟩ := by simpa [World.exec] using hexec
    by_cases hrt : r = t
    · subst hrt
      refine Or.inr (Or.inl ?_)
      have howner := (sameRecord_modify (w := w) (r := r) (sameRecord_leakIf 0) r).2.1
      exact howner.symm ▸ hopen
    · have hsame : (w.spawn t code reg).uvHandle r = w.uvHandle r := Function.update_of_ne hrt _ _
      rw [registered, hsame] at hr
      exact Or.inl hr
  | closeReset t code =>
    obtain ⟨⟨_, _, hst⟩, rfl⟩ := by simpa [World.exec] using hexec
    unfold World.closeReset at hr
    split at hr
    · have hopen : w.uvHandle t = .open := hst.resolve_right fun hcl => hcl.2 ‹code = 0›
      exact Or.inl (registered_update (v := w.uvClose t) .closing
        (fun _ => by rw [hopen]; rfl) rfl rfl hr)
    · exact Or.inl hr
  | submit s code =>
    obtain ⟨⟨_, _, hopen⟩, rfl⟩ := by simpa [World.exec] using hexec
    by_cases hrs : r = s
    · subst hrs
      refine Or.inr (Or.inl ?_)
      rw [(sameRecord_submit w r code r).2.1]
      exact hopen
    · exact Or.inl (submit_registered hr hrs)
  | write | shutdown | connect | send =>
    obtain ⟨hop, rfl⟩ := by simpa [World.exec] using hexec
    exact h.fromOpen_operate hop hr
  | callback t cb =>
    obtain ⟨_, rfl⟩ := exec_callback hexec
    unfold World.handleCallback at hr
    split at hr <;> exact Or.inl hr
  | start t code =>
    obtain ⟨_, rfl⟩ := by simpa [World.exec] using hexec
    rcases start_cases w t code with heq | ⟨_, _, heq⟩ <;> rw [heq] at hr <;> exact Or.inl hr
  | closeLoop | create | call | cancel =>
    obtain ⟨_, rfl⟩ := by simpa [World.exec] using hexec
    exact Or.inl hr
  | _ => exact absurd trivial ha

/-- **Step lemma** for the loops that are busy. -/
lemma busyOpen_step (h : w.Consistent) (hopen : w.BusyOpen) (ha : w.ClosesIdle a)
    (hstep : w.step a = some w') : w'.BusyOpen := by
  have hc' := consistent_step h hstep
  obtain ⟨v, hexec, rfl⟩ := Option.map_eq_some_iff.mp hstep
  intro l hbusy
  -- the loop of something registered is open before the action
  have hbefore : (w.loops l).uvLoop.isSome = true := by
    obtain ⟨r, _, howner, hreg⟩ := hc'.toInv.busy_iff.mp hbusy
    have hlt := fun s => h.toInv.live_of_registered (r := s)
    have hkeep : ∀ s, w.registered s = true → (w.resources s).owner = l →
        (w.loops l).uvLoop.isSome = true :=
      fun s hs hs' => hopen l (h.toInv.busy_iff.mpr ⟨s, hlt s hs, hs', hs⟩)
    rcases h.toInv.fromOpen hexec hreg with hold | hdirect | ⟨s, hs, hs'⟩
    · have howner' := (extends_exec hexec).owner r (h.live_lt _ (hlt r hold))
      exact hkeep r hold (howner'.symm.trans howner)
    · exact howner ▸ hdirect
    · exact hkeep s hs (hs'.trans howner)
  have hafter : (v.loops l).uvLoop.isSome = true := by
    by_cases hclose : ∃ m, a = .closeLoop m
    · obtain ⟨m, rfl⟩ := hclose
      obtain ⟨_, rfl⟩ := by simpa [World.exec] using hexec
      have hne : l ≠ m := by
        rintro rfl
        exact absurd ((ha l rfl).symm.trans hbusy) (by decide)
      have hsame : (w.closeLoop m).loops l = w.loops l := Function.update_of_ne hne _ _
      exact hsame.symm ▸ hbefore
    · rcases loops_exec (fun m hm => hclose ⟨m, hm⟩) hexec with hsame | ⟨d, _, rfl⟩
      · exact hsame.loops.symm ▸ hbefore
      · by_cases hl : l = w.next
        · subst hl
          have hfresh : (w.createLoop d).loops w.next = .fresh d := Function.update_self ..
          rw [hfresh]
          rfl
        · have hsame : (w.createLoop d).loops l = w.loops l := Function.update_of_ne hl _ _
          exact hsame.symm ▸ hbefore
  have hstays : ¬ v.Dies v.settle.live (.loop l) := fun hdies => hdies.2 (hc'.toInv.busy_live hbusy)
  have hsame : v.settle.loops l = v.loops l := if_neg hstays
  rw [hsame]
  exact hafter

/-! ## What is kept on the way -/

/-- What the phases rest on. -/
structure Windable (w : World) : Prop where
  consistent : w.Consistent
  failed_stay : w.FailedSpawnsStay
  open_of_busy : w.BusyOpen

/-- The same spawns have failed. -/
def SameFailed (w w' : World) : Prop :=
  ∀ r, (w'.SpawnFailed r ↔ w.SpawnFailed r) ∧
    (w.SpawnFailed r → (w'.resources r).owner = (w.resources r).owner)

/-- **Step lemma** of taking apart. -/
lemma Windable.step (h : w.Windable) (ha : a.TakesApart) (hstep : w.step a = some w') :
    w'.Windable := by
  have hidle : w.ClosesIdle a := by
    rintro l rfl
    exact ha.elim
  exact ⟨consistent_step h.consistent hstep, failedSpawnsStay_step h.consistent h.failed_stay hstep,
    busyOpen_step h.consistent h.open_of_busy hidle hstep⟩

/-- libuv never registers a handle whose initialisation failed. -/
lemma Change.failed (h : w.Change w') (hr : w.uvHandle r = .failed) : w'.uvHandle r = .failed := by
  have hupdate : ∀ t st, w.uvHandle t ≠ .failed → Function.update w.uvHandle t st r = .failed := by
    intro t st ht
    have hrt : r ≠ t := by
      rintro rfl
      exact ht hr
    rwa [Function.update_of_ne hrt]
  cases h with
  | quiet _ _ huv => exact huv ▸ hr
  | init t st hold _ _ _ huv => exact huv ▸ hupdate t st (by simp [hold])
  | close t hold _ _ huv => exact huv ▸ hupdate t .closing (by simp [hold])
  | closeReset t hold _ _ huv => exact huv ▸ hupdate t .closing (by simp [hold])
  | submit s _ _ _ _ _ huv => exact huv ▸ hr
  | operate t op data code _ _ _ _ _ _ _ _ huv => exact huv ▸ hr
  | complete s c status _ _ _ _ huv => exact huv ▸ hr
  | callback t cb _ _ _ _ _ huv => exact huv ▸ hr
  | dangling t _ _ _ _ huv => exact huv ▸ hr
  | closeCallback t hold _ _ _ _ huv => exact huv ▸ hupdate t .closed (by simp [hold])

/-- Taking apart fails no spawn. -/
lemma sameFailed_step (h : w.Consistent) (ha : a.TakesApart) (hstep : w.step a = some w') :
    w.SameFailed w' := by
  obtain ⟨v, hexec, rfl⟩ := Option.map_eq_some_iff.mp hstep
  have hext := extends_exec hexec
  intro r
  have hlt : w.uvHandle r = .failed → r < w.next := by
    intro huv
    by_contra hge
    rw [h.fresh_handle r (by omega)] at huv
    cases huv
  refine ⟨⟨fun hr => ?_, fun hr => ?_⟩, fun hr => hext.owner r (hlt hr.2)⟩
  · have huv : w.uvHandle r = .failed := (exec_takesApart ha hexec r).2 hr.2
    exact ⟨(hext.cls r (hlt huv)).symm.trans hr.1, huv⟩
  · exact ⟨(hext.cls r (hlt hr.2)).trans hr.1, (h.toInv.change hexec).failed hr.2⟩

lemma SameFailed.trans (h : w.SameFailed v) (h' : v.SameFailed w') : w.SameFailed w' := by
  refine fun r => ⟨(h' r).1.trans (h r).1, fun hr => ?_⟩
  exact ((h' r).2 ((h r).1.mpr hr)).trans ((h r).2 hr)

/-- Actions that take a program apart lead from one state to the other. -/
abbrev TakenTo (w w' : World) : Prop := Reaches World.step (fun _ => Action.TakesApart) w w'

/-- **Run lemma** of taking apart. -/
lemma Windable.reaches (h : w.Windable) (hreach : w.TakenTo w') : w'.Windable ∧ w.SameFailed w' := by
  refine hreach.invariant (I := fun v => v.Windable ∧ w.SameFailed v) ?_ ⟨h, fun _ => ⟨Iff.rfl, fun _ => rfl⟩⟩
  rintro u b v hb ⟨hu, hsame⟩ hstep
  exact ⟨hu.step hb hstep, hsame.trans (sameFailed_step hu.consistent hb hstep)⟩

/-! ## The phases -/

/-- **Returning** from every call. -/
lemma Windable.idle (h : w.Windable) :
    ∃ w', w.TakenTo w' ∧ w'.stack = [] ∧ w.SameUv w' := by
  have hlead : CanLead World.step (fun _ => Action.TakesApart) (fun v => v.Windable ∧ w.SameUv v)
      fun v => (v.Windable ∧ w.SameUv v) ∧ v.stack = [] := by
    refine canLead_of_variant (fun v => v.stack.length) ?_
    rintro v ⟨hv, hsame⟩ hne
    obtain ⟨f, rest, hst⟩ := List.exists_cons_of_ne_nil hne
    have hreturn : ∃ b u, b.TakesApart ∧ v.step b = some u ∧ u.stack = rest ∧ v.SameUv u := by
      cases hf : f.isCallback with
      | true =>
        obtain ⟨u, hu⟩ := step_ret hst hf
        exact ⟨.ret, u, trivial, hu⟩
      | false =>
        cases f with
        | running l =>
          obtain ⟨u, hu⟩ := hv.consistent.toInv.step_runEnd hst
          exact ⟨.runEnd, u, trivial, hu⟩
        | _ => cases hf
    obtain ⟨b, u, hb, hstep, hrest, huv⟩ := hreturn
    refine ⟨u, .of_step hb hstep, ⟨hv.step hb hstep, hsame.trans huv⟩, ?_⟩
    rw [hst, hrest]
    exact Nat.lt_succ_self _
  obtain ⟨w', hreach, hw', hst⟩ := hlead w ⟨h, ⟨rfl, rfl, rfl, rfl⟩⟩
  exact ⟨w', hreach, hst, hw'.2⟩

/-- Entering a loop. -/
lemma Windable.enter (h : w.Windable) (hst : w.stack = []) (hbusy : w.busy l = true) :
    ∃ w', w.TakenTo w' ∧ w'.InRun l ∧ w.SameUv w' := by
  obtain ⟨v, hcopy, hstv, hsame, hrefs⟩ := step_copy (h.consistent.toInv.busy_live hbusy)
  have hv : v.Windable := h.step (a := .copy _) trivial hcopy
  have hbusy' : v.busy l = true := by
    unfold busy registered at hbusy ⊢
    rwa [hsame.next, hsame.resources, hsame.uvHandle, hsame.pending]
  obtain ⟨w', hrun, hst', hsame'⟩ := step_run hrefs (hv.open_of_busy l hbusy') (hstv.trans hst)
  have hcopied : w.TakenTo v := .of_step (a := .copy _) trivial hcopy
  refine ⟨w', hcopied.trans (.of_step (a := .run l) trivial hrun), ?_, hsame.trans hsame'⟩
  rw [InRun, hst']
  rfl

/-- Something can be done about what is registered. -/
lemma Windable.unload (h : w.Windable) (hst : w.stack = []) (hreg : w.registered r = true) :
    ∃ w', w.TakenTo w' ∧ w'.load < w.load := by
  have hbusy : ∀ s, w.registered s = true → w.busy (w.resources s).owner = true :=
    fun s hs => h.consistent.toInv.busy_iff.mpr ⟨s, h.consistent.toInv.live_of_registered hs, rfl, hs⟩
  by_cases hpending : ∃ s, w.pending s = true
  · -- requests come first
    obtain ⟨s, hs⟩ := hpending
    obtain ⟨v, hreach, hrun, hsame⟩ := h.enter hst (hbusy s (by rw [registered, hs, Bool.or_true]))
    obtain ⟨u, hstep, hlt⟩ := (h.reaches hreach).1.consistent.toInv.step_complete (r := s)
      (by rw [hsame.pending, hs]) (by rwa [hsame.resources])
    exact ⟨u, hreach.trans (.of_step (a := .complete s 0) trivial hstep), hlt.trans_eq hsame.load_eq⟩
  · have huv : (w.uvHandle r).registered = true :=
      ((Bool.or_eq_true _ _).mp hreg).resolve_right fun hpend => hpending ⟨r, hpend⟩
    cases hhandle : w.uvHandle r with
    | «open» =>
      obtain ⟨u, hstep, hlt⟩ := h.consistent.toInv.step_close_open hhandle
      exact ⟨u, .of_step (a := .close r) trivial hstep, hlt⟩
    | closing =>
      obtain ⟨v, hreach, hrun, hsame⟩ := h.enter hst (hbusy r hreg)
      have hidle : v.hasPending r = false := by
        rw [hasPending, List.any_eq_false]
        intro s _
        have hs : v.pending s = false := by
          rw [hsame.pending]
          exact Bool.eq_false_iff.mpr fun hs => hpending ⟨s, hs⟩
        simp [hs]
      obtain ⟨u, hstep, hlt⟩ := (h.reaches hreach).1.consistent.toInv.step_closeCallback (r := r)
        (by rw [hsame.uvHandle, hhandle]) (by rwa [hsame.resources]) hidle
      exact ⟨u, hreach.trans (.of_step (a := .closeCallback r) trivial hstep), hlt.trans_eq hsame.load_eq⟩
    | _ => simp [hhandle, UvHandle.registered] at huv

/-- **Closing** everything. -/
lemma Windable.unregister (h : w.Windable) :
    ∃ w', w.TakenTo w' ∧ w'.stack = [] ∧ ∀ r, w'.registered r = false := by
  have hlead : CanLead World.step (fun _ => Action.TakesApart) (fun v => v.Windable ∧ v.stack = [])
      fun v => (v.Windable ∧ v.stack = []) ∧ ∀ r, v.registered r = false := by
    refine canLead_of_variant load ?_
    rintro v ⟨hv, hst⟩ hne
    obtain ⟨r, hr⟩ := not_forall.mp hne
    obtain ⟨u, hreach, hlt⟩ := hv.unload hst (Bool.eq_true_of_not_eq_false hr)
    have hu := (hv.reaches hreach).1
    obtain ⟨t, hreturn, hstt, hsame⟩ := hu.idle
    exact ⟨t, hreach.trans hreturn, ⟨(hu.reaches hreturn).1, hstt⟩, hsame.load_eq.trans_lt hlt⟩
  obtain ⟨v, hreturn, hst, _⟩ := h.idle
  obtain ⟨w', hreach, ⟨_, hst'⟩, hnone⟩ := hlead v ⟨(h.reaches hreturn).1, hst⟩
  exact ⟨w', hreturn.trans hreach, hst', hnone⟩

/-- The references of the program. -/
def refCount (w : World) : ℕ := ∑ x ∈ w.live, w.refs x

/-- Dropping a reference leaves one less. -/
lemma Inv.step_drop (h : w.Inv) {x : Obj} (hx : 0 < w.refs x) :
    ∃ w', w.step (.drop x) = some w' ∧ w'.stack = w.stack ∧ w.SameUv w' ∧ w'.refCount < w.refCount := by
  have hexec : w.exec (.drop x) = some (w.release x) := if_pos hx
  refine ⟨(w.release x).settle, by rw [World.step, hexec]; rfl, rfl, ⟨rfl, rfl, rfl, rfl⟩, ?_⟩
  have hle : ∀ y, (w.release x).refs y ≤ w.refs y := by
    intro y
    by_cases hyx : y = x
    · simp [World.release, hyx]
    · simp [World.release, hyx]
  have hlt : (w.release x).refs x < w.refs x := by
    show Function.update w.refs x (w.refs x - 1) x < _
    rw [Function.update_self]
    exact Nat.sub_lt hx Nat.one_pos
  calc (w.release x).settle.refCount
      ≤ ∑ y ∈ w.live, (w.release x).refs y := Finset.sum_le_sum_of_subset OwnershipGraph.settle_subset
    _ < w.refCount := Finset.sum_lt_sum (fun y _ => hle y) ⟨x, h.refs_live x hx, hlt⟩

/-- **Dropping** every reference. -/
lemma Windable.unreference (h : w.Windable) (hst : w.stack = []) (hnone : ∀ r, w.registered r = false) :
    ∃ w', w.TakenTo w' ∧ w'.stack = [] ∧ (∀ r, w'.registered r = false) ∧ ∀ x, w'.refs x = 0 := by
  have hlead : CanLead World.step (fun _ => Action.TakesApart)
      (fun v => v.Windable ∧ v.stack = [] ∧ ∀ r, v.registered r = false)
      fun v => (v.Windable ∧ v.stack = [] ∧ ∀ r, v.registered r = false) ∧ ∀ x, v.refs x = 0 := by
    refine canLead_of_variant refCount ?_
    rintro v ⟨hv, hstv, hnonev⟩ hne
    obtain ⟨x, hx⟩ := not_forall.mp hne
    obtain ⟨u, hstep, hstu, hsame, hlt⟩ := hv.consistent.toInv.step_drop (Nat.pos_of_ne_zero hx)
    refine ⟨u, .of_step (a := .drop x) trivial hstep,
      ⟨hv.step (a := .drop x) trivial hstep, hstu.trans hstv, fun r => ?_⟩, hlt⟩
    rw [registered, hsame.uvHandle, hsame.pending]
    exact hnonev r
  obtain ⟨w', hreach, ⟨_, hst', hnone'⟩, hrefs⟩ := hlead w ⟨h, hst, hnone⟩
  exact ⟨w', hreach, hst', hnone', hrefs⟩

/-- What failed spawns leave when nothing else keeps an object. -/
lemma Windable.mem_live_iff (h : w.Windable) (hst : w.stack = []) (hnone : ∀ r, w.registered r = false)
    (hrefs : ∀ x, w.refs x = 0) {x : Obj} :
    x ∈ w.live ↔ ∃ r, w.SpawnFailed r ∧ (x = .resource r ∨ x = .loop (w.resources r).owner) := by
  constructor
  · intro hx
    obtain ⟨y, hy, hpath⟩ := ((h.consistent.reclaimed h.failed_stay).mem_live_iff x).mp hx
    obtain ⟨r, rfl, hfail⟩ := hy.exists_spawnFailed hrefs hst hnone
    refine ⟨r, hfail, ?_⟩
    -- a handle owns itself and its loop, and a loop nothing
    have hhnd : (w.resources r).isHandle = true := by rw [Resource.isHandle, hfail.1]
    induction hpath with
    | refl => exact Or.inl rfl
    | @tail y x _ hown ih =>
      have hlive : y ∈ w.live := ((h.consistent.reclaimed h.failed_stay).mem_live_iff y).mpr
        ⟨.resource r, .spawnFailed r hfail, ‹_›⟩
      rcases ih hlive with rfl | rfl
      · cases x with
        | loop l => exact Or.inr (congrArg Obj.loop (mem_owned_loop.mp hown).symm)
        | resource t =>
          rcases mem_owned_resource.mp hown with ⟨_, rfl⟩ | htarget
          · exact Or.inl rfl
          · exact absurd ((h.consistent.target_handle r t htarget).1.symm.trans hhnd) (by decide)
      · exact absurd hown List.not_mem_nil
  · rintro ⟨r, hfail, rfl | rfl⟩
    · exact (h.failed_stay r hfail).1
    · exact h.consistent.owner_live r (h.failed_stay r hfail).1

/-- **Everything else goes**: closing, running and dropping lead to a state where only the handles of
failed spawns are left. -/
lemma Windable.canBeTakenApart (h : w.Windable) : w.CanBeTakenApart := by
  obtain ⟨v, hclosed, hst, hnone⟩ := h.unregister
  obtain ⟨w', hdropped, hst', hnone', hrefs⟩ := (h.reaches hclosed).1.unreference hst hnone
  have hall : w.TakenTo w' := hclosed.trans hdropped
  obtain ⟨hw', hsame⟩ := h.reaches hall
  refine ⟨w', hall, fun x => (hw'.mem_live_iff hst' hnone' hrefs).trans (exists_congr fun r => ?_)⟩
  rw [(hsame r).1]
  exact and_congr_right fun hfail => by rw [(hsame r).2 hfail]

end World

end Uvw
