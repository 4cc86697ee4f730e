import Uvw.Runtime.WindDown

/-!
# The loops of a program refine the loop alone

`LoopSystem` is one loop by itself: things are registered in it, a run completes them, it is closed and
destroyed.  `World` is a whole program with its references and its destructions.  `World.loopSystem` is what
a world says of one of its loops, and `worlds_refine_loopSystem` that every loop object of a program, from
its creation past its destruction, behaves like a `LoopSystem`: what `close_atomic_iff` and `LoopSystem.Inv`
say of the loop alone holds of the loops of every program that closes them idle.

One action of the program can be several of the loop, or none: a reference that is dropped may destroy the
loop, and most actions do not concern it.
-/

namespace Uvw

open TransitionSystem

namespace LoopSystem

variable {s : LoopSystem}

/-- Runs that close the loop when it is idle only. -/
abbrev LeadsTo (s t : LoopSystem) : Prop := Reaches step ClosedIdle s t

/-- Registering a number of things. -/
lemma leadsTo_attach (hopen : s.loop.uv.opened = true) (halloc : s.loop.uv.allocated = true)
    (new : Finset ℕ) : s.LeadsTo { s with registered := s.registered ∪ new } := by
  induction new using Finset.induction_on with
  | empty =>
    rw [Finset.union_empty]
    exact .refl
  | insert i new _ ih =>
    refine ih.trans (.of_step (a := .attach i) trivial ?_)
    rw [Finset.union_insert]
    exact if_pos ⟨hopen, halloc⟩

/-- A run of the loop takes some of the resources off it. -/
lemma leadsTo_run (halive : s.alive = true) (hptr : s.loop.uvLoop.isSome = true) (done : Finset ℕ) :
    s.LeadsTo { s with registered := s.registered \ done } :=
  .of_step (a := .run done) trivial (if_pos ⟨halive, hptr⟩)

/-- What is registered changes from one set to another. -/
lemma leadsTo_registered {new : Finset ℕ} (halive : s.alive = true)
    (hptr : new ≠ s.registered → s.loop.uvLoop.isSome = true)
    (hopen : s.loop.uvLoop.isSome = true → s.loop.uv = { opened := true, allocated := true }) :
    s.LeadsTo { s with registered := new } := by
  by_cases hsame : new = s.registered
  · rw [hsame]
    exact .refl
  · have hptr' := hptr hsame
    have hattach := leadsTo_attach (s := s) (by rw [hopen hptr']) (by rw [hopen hptr']) new
    have hrun := leadsTo_run (s := { s with registered := s.registered ∪ new }) halive hptr'
      (s.registered \ new)
    have hleft : (s.registered ∪ new) \ (s.registered \ new) = new := by
      ext i
      simp only [Finset.mem_sdiff, Finset.mem_union]
      tauto
    rw [hleft] at hrun
    exact hattach.trans hrun

end LoopSystem

namespace World

/-- What a world says of one of its loops. -/
def loopSystem (w : World) (l : ℕ) : LoopSystem where
  loop := w.loops l
  alive := decide (.loop l ∈ w.live)
  registered := (Finset.range w.next).filter fun r => (w.resources r).owner = l ∧ w.registered r = true

variable {w v w' : World} {a : Action} {l r : ℕ}

/-- The resources registered with a loop are its own. -/
lemma Inv.mem_registered (h : w.Inv) :
    r ∈ (w.loopSystem l).registered ↔ (w.resources r).owner = l ∧ w.registered r = true := by
  refine Finset.mem_filter.trans (and_iff_right_of_imp fun hr => Finset.mem_range.mpr ?_)
  exact h.live_lt _ (h.live_of_registered hr.2)

/-- A loop is busy in both. -/
lemma loopSystem_busy (w : World) (l : ℕ) : (w.loopSystem l).busy = w.busy l := by
  rw [Bool.eq_iff_iff, LoopSystem.busy_eq_true_iff, ← Finset.nonempty_iff_ne_empty, busy, List.any_eq_true]
  refine exists_congr fun r => ?_
  rw [loopSystem, Finset.mem_filter, Finset.mem_range, List.mem_range, Bool.and_eq_true, decide_eq_true_eq]

/-- A loop object that is gone, or not one yet, has nothing registered. -/
lemma Inv.registered_of_not_live (h : w.Inv) (hl : .loop l ∉ w.live) :
    (w.loopSystem l).registered = ∅ := by
  rw [← LoopSystem.busy_eq_false_iff, loopSystem_busy]
  exact Bool.eq_false_iff.mpr fun hbusy => hl (h.busy_live hbusy)

/-! ## One action -/

/-- An initialisation creates no object, -/
lemma initHandle_live (v : World) (t : ℕ) (code : Int) : (v.initHandle t code).live = v.live := by
  rcases initHandle_cases v t code with hinit | hinit <;> rw [hinit]
  rfl

/-- nor does a submission. -/
lemma submit_live (v : World) (s : ℕ) (code : Int) : (v.submit s code).live = v.live := by
  unfold submit uvSubmit
  split <;> rfl

/-- `loop::resource` creates one, -/
lemma resource_live (w : World) (cls : ResourceClass) (m : ℕ) (code : Int) :
    (w.resource cls m code).1.live = insert (.resource w.next) w.live := by
  have hinit := initHandle_live (w.uninitializedResource cls m) w.next code
  rcases resource_cases w cls m code with hres | ⟨c, rfl, hres | hres⟩ <;> rw [hres]
  · rfl
  · exact hinit
  · exact hinit

/-- and so does an operation on a handle. -/
lemma operate_live (w : World) (t : ℕ) (op : StreamOp) (data : Option DataDeleter) (code : Int) :
    (w.operate t op data code).live = insert (.resource w.next) w.live :=
  submit_live (w.allocate _) w.next code

/-- Only `loop::create` makes a loop object. -/
lemma exec_loop_born (hexec : w.exec a = some v) (hl : .loop l ∈ v.live) (hnew : .loop l ∉ w.live) :
    ∃ d, a = .createLoop d ∧ v = w.createLoop d := by
  have hsame : v.live = w.live → ∃ d, a = .createLoop d ∧ v = w.createLoop d :=
    fun heq => absurd (heq ▸ hl) hnew
  have hresource : v.live = insert (.resource w.next) w.live →
      ∃ d, a = .createLoop d ∧ v = w.createLoop d := by
    intro heq
    rw [heq, Finset.mem_insert] at hl
    exact absurd (hl.resolve_left Obj.noConfusion) hnew
  cases a with
  | createLoop d => exact ⟨d, rfl, (Option.some.inj hexec).symm⟩
  | create cls m =>
    obtain ⟨_, rfl⟩ := by simpa [World.exec] using hexec
    exact hresource rfl
  | init t code =>
    obtain ⟨_, rfl⟩ := by simpa [World.exec] using hexec
    exact hsame (initHandle_live w t code)
  | resource cls m code =>
    obtain ⟨_, rfl⟩ := by simpa [World.exec] using hexec
    exact hresource (resource_live w cls m code)
  | start t code =>
    obtain ⟨_, rfl⟩ := by simpa [World.exec] using hexec
    refine hsame ?_
    rcases start_cases w t code with heq | ⟨_, _, heq⟩ <;> rw [heq]
  | close t =>
    obtain ⟨_, rfl⟩ := by simpa [World.exec] using hexec
    refine hsame ?_
    unfold World.close
    split <;> rfl
  | closeReset t code =>
    obtain ⟨_, rfl⟩ := by simpa [World.exec] using hexec
    refine hsame ?_
    unfold World.closeReset
    split <;> rfl
  | submit s code =>
    obtain ⟨_, rfl⟩ := by simpa [World.exec] using hexec
    exact hsame (submit_live w s code)
  | write t _ _ code | shutdown t code | connect t code | send t _ code =>
    obtain ⟨_, rfl⟩ := by simpa [World.exec] using hexec
    exact hresource (operate_live w t _ _ code)
  | complete s status =>
    obtain ⟨c, _, _, rfl⟩ := exec_complete hexec
    refine hsame ?_
    unfold World.complete World.completionCallback
    dsimp only
    split <;> rfl
  | callback t cb =>
    obtain ⟨_, rfl⟩ := exec_callback hexec
    refine hsame ?_
    unfold World.handleCallback
    split <;> rfl
  | closeCallback t =>
    obtain ⟨_, rfl⟩ := by simpa [World.exec] using hexec
    refine hsame ?_
    unfold World.closeCallback
    dsimp only
    split <;> rfl
  | _ =>
    obtain ⟨_, rfl⟩ := by simpa [World.exec] using hexec
    exact hsame rfl

/-- Only `loop::close` changes a loop object that exists. -/
lemma exec_loops_of_ne (hexec : w.exec a = some v) (hlt : l < w.next) (hclose : a ≠ .closeLoop l) :
    v.loops l = w.loops l := by
  by_cases ha : ∀ m, a ≠ .closeLoop m
  · rcases loops_exec ha hexec with hsame | ⟨d, _, rfl⟩
    · rw [hsame.loops]
    · exact Function.update_of_ne hlt.ne _ _
  · obtain ⟨m, rfl⟩ : ∃ m, a = .closeLoop m := by simpa using ha
    obtain ⟨_, rfl⟩ := by simpa [World.exec] using hexec
    exact Function.update_of_ne (fun heq => hclose (by rw [heq])) _ _

/-- Before anything is destroyed, one action is a run of the loop. -/
lemma leadsTo_exec (h : w.Consistent) (hopen : w.BusyOpen) (hl : .loop l ∈ w.live)
    (hinv : (w.loopSystem l).Inv) (ha : w.ClosesIdle a) (hexec : w.exec a = some v) :
    (w.loopSystem l).LeadsTo (v.loopSystem l) := by
  have hlive : .loop l ∈ v.live := (extends_exec hexec).live_sub hl
  have halive : (w.loopSystem l).alive = true := decide_eq_true hl
  by_cases hclose : a = .closeLoop l
  · subst hclose
    obtain ⟨_, rfl⟩ := by simpa [World.exec] using hexec
    have hidle : (w.loopSystem l).registered = ∅ := by
      rw [← LoopSystem.busy_eq_false_iff, loopSystem_busy]
      exact ha l rfl
    have hclosed : (w.closeLoop l).loopSystem l =
        { w.loopSystem l with loop := ((w.loops l).close (w.busy l)).2 } := by
      have hloop : (w.closeLoop l).loops l = ((w.loops l).close (w.busy l)).2 := Function.update_self ..
      unfold loopSystem
      rw [hloop]
      rfl
    rw [hclosed]
    refine .of_step (a := .close) (Or.inr hidle) ?_
    rw [← loopSystem_busy]
    exact if_pos halive
  · have hinvv := h.toInv.exec hexec
    have hloop : v.loops l = w.loops l := exec_loops_of_ne hexec (h.live_lt _ hl) hclose
    have hstate : v.loopSystem l = { w.loopSystem l with registered := (v.loopSystem l).registered } := by
      unfold loopSystem
      rw [hloop, decide_eq_true hl, decide_eq_true hlive]
    rw [hstate]
    refine LoopSystem.leadsTo_registered halive (fun hne => ?_) fun hptr => hinv.opened ?_
    · by_contra hnone
      have hbefore : ∀ r, w.registered r = true → (w.resources r).owner ≠ l := by
        rintro r hr rfl
        exact hnone (hopen _ (h.toInv.busy_iff.mpr ⟨r, h.toInv.live_of_registered hr, rfl, hr⟩))
      -- what is registered now comes from the loop too
      have hafter : ∀ r, v.registered r = true → (v.resources r).owner ≠ l := by
        intro r hr howner
        rcases h.toInv.fromOpen hexec hr with hold | hdirect | ⟨s, hs, hs'⟩
        · have hlt : r < w.next := h.live_lt _ (h.toInv.live_of_registered hold)
          exact hbefore r hold (((extends_exec hexec).owner r hlt).symm.trans howner)
        · exact hnone (howner ▸ hdirect)
        · exact hbefore s hs (hs'.trans howner)
      refine hne (Finset.ext fun r => ?_)
      rw [hinvv.mem_registered, h.toInv.mem_registered]
      exact iff_of_false (fun hr => hafter r hr.2 hr.1) fun hr => hbefore r hr.2 hr.1
    · exact Option.isSome_iff_ne_none.mp hptr

/-- What is destroyed after an action is the end of a run of the loop, or nothing of it. -/
lemma leadsTo_settle (h : v.Inv) (hl : .loop l ∈ v.live) :
    (v.loopSystem l).LeadsTo (v.settle.loopSystem l) := by
  have halive : (v.loopSystem l).alive = true := decide_eq_true hl
  by_cases hkept : .loop l ∈ v.settle.live
  · have hloop : v.settle.loops l = v.loops l := if_neg fun hdies => hdies.2 hkept
    have hsame : v.settle.loopSystem l = v.loopSystem l := by
      unfold loopSystem
      rw [hloop, decide_eq_true hl, decide_eq_true hkept]
      rfl
    rw [hsame]
    exact .refl
  · have hloop : v.settle.loops l = v.loopDtor l := if_pos ⟨hl, hkept⟩
    have hgone : v.settle.loopSystem l = { v.loopSystem l with loop := v.loopDtor l, alive := false } := by
      unfold loopSystem
      rw [hloop, decide_eq_false hkept]
      rfl
    have hidle : (v.loopSystem l).registered = ∅ := h.settle.registered_of_not_live hkept
    rw [hgone]
    refine .of_step (a := .destroy) (Or.inr hidle) ?_
    rw [loopDtor, ← loopSystem_busy]
    exact if_pos halive

/-- What is kept of a loop on the way. -/
structure LoopFollowed (w : World) (l : ℕ) : Prop where
  consistent : w.Consistent
  open_of_busy : w.BusyOpen
  lt_next : l < w.next
  inv : .loop l ∈ w.live → (w.loopSystem l).Inv

/-- **Step lemma**: every action of the program is a run of the loop. -/
lemma LoopFollowed.leadsTo (h : w.LoopFollowed l) (ha : w.ClosesIdle a) (hstep : w.step a = some w') :
    (w.loopSystem l).LeadsTo (w'.loopSystem l) := by
  have hc' := consistent_step h.consistent hstep
  obtain ⟨v, hexec, rfl⟩ := Option.map_eq_some_iff.mp hstep
  have hinvv := h.consistent.toInv.exec hexec
  by_cases hl : .loop l ∈ w.live
  · have hfirst := leadsTo_exec h.consistent h.open_of_busy hl (h.inv hl) ha hexec
    exact hfirst.trans (leadsTo_settle hinvv ((extends_exec hexec).live_sub hl))
  · -- a loop object that is gone stays as it is
    have hnot : .loop l ∉ v.live :=
      fun hv => h.lt_next.ne ((extends_exec hexec).live_new _ hv hl)
    have hgone : .loop l ∉ v.settle.live := fun hv => hnot (OwnershipGraph.settle_subset hv)
    have hloop : v.settle.loops l = w.loops l := by
      have hdies : v.settle.loops l = v.loops l := if_neg fun hdies => hnot hdies.1
      exact hdies.trans (exec_loops_of_not_live hexec hl h.lt_next).1
    have hreg : (v.settle.loopSystem l).registered = (w.loopSystem l).registered := by
      rw [hc'.toInv.registered_of_not_live hgone, h.consistent.toInv.registered_of_not_live hl]
    have hsame : v.settle.loopSystem l = w.loopSystem l := by
      have hstate : v.settle.loopSystem l =
          { loop := w.loops l, alive := decide (.loop l ∈ w.live),
            registered := (v.settle.loopSystem l).registered } := by
        unfold loopSystem
        rw [hloop, decide_eq_false hgone, decide_eq_false hl]
      rw [hstate, hreg]
      rfl
    rw [hsame]
    exact .refl

/-- **Step lemma** for one loop. -/
lemma LoopFollowed.step (h : w.LoopFollowed l) (ha : w.ClosesIdle a) (hstep : w.step a = some w') :
    w'.LoopFollowed l where
  consistent := consistent_step h.consistent hstep
  open_of_busy := busyOpen_step h.consistent h.open_of_busy ha hstep
  lt_next := h.lt_next.trans_le (next_le_step hstep)
  inv hl := by
    have hold : .loop l ∈ w.live := by
      by_contra hnot
      obtain ⟨v, hexec, rfl⟩ := Option.map_eq_some_iff.mp hstep
      exact h.lt_next.ne ((extends_exec hexec).live_new _ (OwnershipGraph.settle_subset hl) hnot)
    exact (h.leadsTo ha hstep).invariant (fun _ _ _ hC hs hstep => LoopSystem.inv_step hs hC hstep)
      (h.inv hold)

/-! ## Runs -/

/-- The loops of a program are loops. -/
structure RefinesLoops (w : World) : Prop where
  /-- What is seen of a loop object is a state of a `LoopSystem` that is closed idle only, -/
  reached : ∀ l, .loop l ∈ w.live → ∃ d, (LoopSystem.fresh d).LeadsTo (w.loopSystem l)
  /-- and whatever the program does is a run of it, up to and past its destruction. -/
  onward : ∀ l, .loop l ∈ w.live → ∀ bs w', Along World.step ClosesIdle w bs →
    after World.step w bs = some w' → (w.loopSystem l).LeadsTo (w'.loopSystem l)

/-- The invariant. -/
structure AllFollowed (w : World) : Prop where
  consistent : w.Consistent
  open_of_busy : w.BusyOpen
  reached : ∀ l, .loop l ∈ w.live → ∃ d, (LoopSystem.fresh d).LeadsTo (w.loopSystem l)

/-- Every loop that exists is followed. -/
lemma AllFollowed.loop (h : w.AllFollowed) (hl : .loop l ∈ w.live) : w.LoopFollowed l where
  consistent := h.consistent
  open_of_busy := h.open_of_busy
  lt_next := h.consistent.live_lt _ hl
  inv _ := by
    obtain ⟨d, hd⟩ := h.reached l hl
    exact hd.invariant (fun _ _ _ hC hs hstep => LoopSystem.inv_step hs hC hstep) (LoopSystem.inv_fresh d)

/-- A loop that was just created. -/
lemma loopSystem_createLoop (h : w.Inv) {d : LoopDeleter} (h' : (w.createLoop d).settle.Inv)
    (hl : .loop w.next ∈ (w.createLoop d).settle.live) :
    (w.createLoop d).settle.loopSystem w.next = LoopSystem.fresh d := by
  have hloop : (w.createLoop d).settle.loops w.next = .fresh d :=
    (if_neg fun hdies => hdies.2 hl).trans (Function.update_self ..)
  have hnone : ((w.createLoop d).settle.loopSystem w.next).registered = ∅ := by
    refine Finset.eq_empty_of_forall_notMem fun r hr => ?_
    obtain ⟨howner, hreg⟩ := h'.mem_registered.mp hr
    have hold : w.registered r = true := hreg
    have howner' : (w.resources r).owner = w.next := howner
    exact absurd (h.live_lt _ (h.owner_live r (h.live_of_registered hold))) (howner' ▸ lt_irrefl _)
  have hstate : (w.createLoop d).settle.loopSystem w.next =
      { loop := .fresh d, alive := true,
        registered := ((w.createLoop d).settle.loopSystem w.next).registered } := by
    unfold loopSystem
    rw [hloop, decide_eq_true hl]
  rw [hstate, hnone]
  rfl

/-- **Step lemma** for all loops. -/
lemma AllFollowed.step (h : w.AllFollowed) (ha : w.ClosesIdle a) (hstep : w.step a = some w') :
    w'.AllFollowed where
  consistent := consistent_step h.consistent hstep
  open_of_busy := busyOpen_step h.consistent h.open_of_busy ha hstep
  reached l hl := by
    by_cases hold : .loop l ∈ w.live
    · obtain ⟨d, hd⟩ := h.reached l hold
      exact ⟨d, hd.trans ((h.loop hold).leadsTo ha hstep)⟩
    · have hc' := consistent_step h.consistent hstep
      obtain ⟨v, hexec, rfl⟩ := Option.map_eq_some_iff.mp hstep
      obtain ⟨d, rfl, rfl⟩ := exec_loop_born hexec (OwnershipGraph.settle_subset hl) hold
      obtain rfl : l = w.next := (extends_exec hexec).live_new _ (OwnershipGraph.settle_subset hl) hold
      refine ⟨d, ?_⟩
      rw [loopSystem_createLoop h.consistent.toInv hc'.toInv hl]
      exact .refl

/-- A world that is followed refines its loops. -/
lemma AllFollowed.refinesLoops (h : w.AllFollowed) : w.RefinesLoops where
  reached := h.reached
  onward l hl bs _ hbs hafter :=
    reaches_of_after (C := ClosesIdle) (I := fun v => v.LoopFollowed l)
      (fun _ _ _ ha hs hstep => hs.step ha hstep) (fun _ _ _ ha hs hstep => hs.leadsTo ha hstep)
      (h.loop hl) ⟨bs, hbs, hafter⟩

end World

end Uvw
