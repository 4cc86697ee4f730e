import Uvw.Runtime.RequestOwnership

/-!
# A loop outlives what is registered in it

What libuv has registered keeps its object alive, every object keeps its loop alive, and so `~loop`
runs only when nothing is registered.  `loops_outlive_registered` says this of the runs in which
`loop::close` is never called: as long as something is registered the loop object lives and its
`uv_loop_t` is open, a loop object lives only while somebody refers to it, and when it goes its
`uv_loop_t` is closed without a refusal.
-/

namespace Uvw

namespace World

variable {w w' : World} {a : Action} {l : ℕ}

/-- What a loop that nobody closes is promised. -/
structure LoopKept (w : World) (l : ℕ) : Prop where
  /-- A handle or an accepted request of the loop keeps it. -/
  busy_live : w.busy l = true → .loop l ∈ w.live
  /-- Its `uv_loop_t` is open and allocated as long as the object lives. -/
  live_open : .loop l ∈ w.live → w.loopCloses l = [] ∧ (w.loops l).uvLoop.isSome ∧
    (w.loops l).uv = { opened := true, allocated := true }
  /-- The object lives only while somebody refers to it. -/
  live_used : .loop l ∈ w.live →
    0 < w.refs (.loop l) ∨ .running l ∈ w.stack ∨
      ∃ r, .resource r ∈ w.live ∧ (w.resources r).owner = l
  /-- When it goes, nothing is registered in it and `~loop` closes the `uv_loop_t`. -/
  destroyed : ∀ a w', (∀ m, a ≠ .closeLoop m) → w.step a = some w' → .loop l ∈ w.live →
    .loop l ∉ w'.live → w'.busy l = false ∧ w'.loopCloses l = [0] ∧
      (w'.loops l).uvLoop = none ∧ (w'.loops l).uv.opened = false

/-! ## What keeps a loop -/

/-- Something registered in a loop keeps it alive. -/
lemma Inv.busy_live (h : w.Inv) (hbusy : w.busy l = true) : .loop l ∈ w.live := by
  obtain ⟨r, _, hr⟩ := List.any_eq_true.mp hbusy
  rw [Bool.and_eq_true, decide_eq_true_eq, registered, Bool.or_eq_true] at hr
  obtain ⟨rfl, hreg | hpend⟩ := hr
  · exact h.owner_live r (h.registered_self r hreg).1
  · exact h.owner_live r (h.pending_self r hpend).1

/-- A live loop is referred to by the program, by its `uv_run` or by a resource. -/
lemma Settled.loop_referenced (h : w.Settled) (hlive : .loop l ∈ w.live) :
    0 < w.refs (.loop l) ∨ .running l ∈ w.stack ∨
      ∃ r, .resource r ∈ w.live ∧ (w.resources r).owner = l := by
  rcases useCount_pos_iff.mp (h _ hlive) with hrefs | ⟨f, hf, hheld⟩ | ⟨r, hr, howned⟩
  · exact Or.inl hrefs
  · refine Or.inr (Or.inl ?_)
    cases f with
    | running m =>
      obtain rfl := Obj.loop.inj (List.mem_singleton.mp hheld)
      exact hf
    | request s => exact absurd (List.mem_singleton.mp hheld) (by simp)
    | handle t => exact absurd hheld List.not_mem_nil
    | closing t => exact absurd (List.mem_singleton.mp hheld) (by simp)
  · exact Or.inr (Or.inr ⟨r, hr, mem_owned_loop.mp howned⟩)

/-! ## What closes a loop -/

/-- The loops of `w'` are those of `w` and no `uv_loop_close` was called. -/
structure SameLoops (w w' : World) : Prop where
  loops : w'.loops = w.loops
  loopCloses : w'.loopCloses = w.loopCloses

/-- An initialisation leaves the loops alone, -/
lemma sameLoops_initHandle (w : World) (t : ℕ) (code : Int) :
    w.SameLoops (w.initHandle t code) := by
  rcases initHandle_cases w t code with h | h <;> rw [h] <;> exact ⟨rfl, rfl⟩

/-- and so does a submission. -/
lemma sameLoops_submit (w : World) (r : ℕ) (code : Int) : w.SameLoops (w.submit r code) := by
  unfold submit uvSubmit
  split <;> exact ⟨rfl, rfl⟩

/-- What leaves the loops alone may follow each other. -/
lemma SameLoops.trans {v : World} (h : w.SameLoops v) (h' : v.SameLoops w') : w.SameLoops w' :=
  ⟨h'.loops.trans h.loops, h'.loopCloses.trans h.loopCloses⟩

/-- An operation creates a request and submits it. -/
lemma sameLoops_operate (w : World) (t : ℕ) (op : StreamOp) (data : Option DataDeleter)
    (code : Int) : w.SameLoops (w.operate t op data code) := by
  have hnew : w.SameLoops (w.allocate { Resource.construct (.request op.request)
    (w.resources t).owner with target := some t, data }) := ⟨rfl, rfl⟩
  have hsub := hnew.trans (sameLoops_submit _ w.next code)
  exact ⟨hsub.loops, hsub.loopCloses⟩

/-- An object is created in a loop without touching it. -/
lemma sameLoops_resource (w : World) (cls : ResourceClass) (m : ℕ) (code : Int) :
    w.SameLoops (w.resource cls m code).1 := by
  have hnew : w.SameLoops (w.uninitializedResource cls m) := ⟨rfl, rfl⟩
  have hinit := hnew.trans (sameLoops_initHandle _ w.next code)
  rcases resource_cases w cls m code with h | ⟨c, rfl, h | h⟩ <;> rw [h]
  · exact hnew
  · exact hinit
  · exact ⟨hinit.loops, hinit.loopCloses⟩

/-- Only `loop::create` and `loop::close` touch loops. -/
lemma loops_exec (ha : ∀ m, a ≠ .closeLoop m) (hexec : w.exec a = some w') :
    w.SameLoops w' ∨ ∃ d, a = .createLoop d ∧ w' = w.createLoop d := by
  cases a with
  | createLoop d =>
    obtain rfl := Option.some.inj hexec
    exact Or.inr ⟨d, rfl, rfl⟩
  | closeLoop m => exact absurd rfl (ha m)
  | init t code =>
    obtain ⟨_, rfl⟩ := by simpa [World.exec] using hexec
    exact Or.inl (sameLoops_initHandle w t code)
  | resource cls m code =>
    obtain ⟨_, rfl⟩ := by simpa [World.exec] using hexec
    exact Or.inl (sameLoops_resource w cls m code)
  | submit r code =>
    obtain ⟨_, rfl⟩ := by simpa [World.exec] using hexec
    exact Or.inl (sameLoops_submit w r code)
  | write t _ _ code | shutdown t code | connect t code | send t _ code =>
    obtain ⟨_, rfl⟩ := by simpa [World.exec] using hexec
    exact Or.inl (sameLoops_operate w t _ _ code)
  | start t code =>
    obtain ⟨_, rfl⟩ := by simpa [World.exec] using hexec
    rcases start_cases w t code with heq | ⟨_, _, heq⟩ <;> rw [heq] <;> exact Or.inl ⟨rfl, rfl⟩
  | close t =>
    obtain ⟨_, rfl⟩ := by simpa [World.exec] using hexec
    unfold World.close
    split <;> exact Or.inl ⟨rfl, rfl⟩
  | closeReset t code =>
    obtain ⟨_, rfl⟩ := by simpa [World.exec] using hexec
    unfold World.closeReset
    split <;> exact Or.inl ⟨rfl, rfl⟩
  | complete r status =>
    obtain ⟨c, _, _, rfl⟩ := exec_complete hexec
    unfold World.complete World.completionCallback
    dsimp only
    split <;> exact Or.inl ⟨rfl, rfl⟩
  | callback t cb =>
    obtain ⟨_, rfl⟩ := exec_callback hexec
    unfold World.handleCallback
    split <;> exact Or.inl ⟨rfl, rfl⟩
  | closeCallback t =>
    obtain ⟨_, rfl⟩ := by simpa [World.exec] using hexec
    unfold World.closeCallback
    dsimp only
    split <;> exact Or.inl ⟨rfl, rfl⟩
  | _ =>
    obtain ⟨_, rfl⟩ := by simpa [World.exec] using hexec
    exact Or.inl ⟨rfl, rfl⟩

/-- The loops that live, or are not created yet, are as `loop::create` leaves them. -/
structure LoopsOpen (w : World) : Prop where
  live : ∀ l, .loop l ∈ w.live → w.loopCloses l = [] ∧ ∃ d, w.loops l = .fresh d
  fresh : ∀ l, w.next ≤ l → w.loopCloses l = [] ∧ ∃ d, w.loops l = .fresh d

/-- There is no loop yet. -/
lemma loopsOpen_init : init.LoopsOpen where
  live _ hl := absurd hl (Finset.notMem_empty _)
  fresh _ _ := ⟨rfl, _, rfl⟩

/-- An action other than `loop::close` leaves the live loops open. -/
lemma LoopsOpen.exec (h : w.LoopsOpen) (ha : ∀ m, a ≠ .closeLoop m)
    (hexec : w.exec a = some w') : w'.LoopsOpen := by
  have hext := extends_exec hexec
  have hopen : ∀ m, w.loopCloses m = [] ∧ (∃ d, w.loops m = .fresh d) →
      w'.loopCloses m = [] ∧ ∃ d, w'.loops m = .fresh d := by
    intro m hm
    rcases loops_exec ha hexec with hsame | ⟨d, _, rfl⟩
    · rw [hsame.loops, hsame.loopCloses]
      exact hm
    · refine ⟨hm.1, ?_⟩
      by_cases hmn : m = w.next
      · exact ⟨d, by simp [createLoop, hmn]⟩
      · simpa [createLoop, hmn] using hm.2
  refine ⟨fun m hm => hopen m ?_, fun m hm => hopen m (h.fresh m (hext.next_le.trans hm))⟩
  by_cases hold : .loop m ∈ w.live
  · exact h.live m hold
  · exact h.fresh m (hext.live_new _ hm hold).ge

/-- Destruction leaves the loops that stay open. -/
lemma LoopsOpen.settle (h : w.LoopsOpen) (hinv : w.Inv) : w.settle.LoopsOpen := by
  have hopen : ∀ m, ¬ w.Dies w.settle.live (.loop m) →
      w.loopCloses m = [] ∧ (∃ d, w.loops m = .fresh d) →
      w.settle.loopCloses m = [] ∧ ∃ d, w.settle.loops m = .fresh d := by
    intro m hdies hm
    refine ⟨?_, ?_⟩
    · exact (if_neg fun hif => hdies hif.1).trans hm.1
    · obtain ⟨d, hd⟩ := hm.2
      exact ⟨d, (if_neg hdies).trans hd⟩
  refine ⟨fun m hm => ?_, fun m hm => ?_⟩
  · exact hopen m (fun hdies => hdies.2 hm) (h.live m (OwnershipGraph.settle_subset hm))
  · have hnot : .loop m ∉ w.live := fun hmem => absurd (hinv.live_lt _ hmem) (not_lt_of_ge hm)
    exact hopen m (fun hdies => hnot hdies.1) (h.fresh m hm)

/-- **Step lemma** for the live loops. -/
lemma loopsOpen_step (h : w.Consistent) (ho : w.LoopsOpen) (ha : ∀ m, a ≠ .closeLoop m)
    (hstep : w.step a = some w') : w'.LoopsOpen := by
  obtain ⟨v, hexec, rfl⟩ := Option.map_eq_some_iff.mp hstep
  exact (ho.exec ha hexec).settle (h.toInv.exec hexec)

/-- When a loop goes, nothing is registered in it and its destructor closes the `uv_loop_t`. -/
lemma Consistent.loop_destroyed (h : w.Consistent) (ho : w.LoopsOpen)
    (ha : ∀ m, a ≠ .closeLoop m) (hstep : w.step a = some w') (hlive : .loop l ∈ w.live)
    (hgone : .loop l ∉ w'.live) : w'.busy l = false ∧ w'.loopCloses l = [0] ∧
      (w'.loops l).uvLoop = none ∧ (w'.loops l).uv.opened = false := by
  obtain ⟨v, hexec, rfl⟩ := Option.map_eq_some_iff.mp hstep
  have hinv := h.toInv.exec hexec
  have hdies : v.Dies v.settle.live (.loop l) := ⟨(extends_exec hexec).live_sub hlive, hgone⟩
  obtain ⟨hcloses, d, hd⟩ := (ho.exec ha hexec).live l hdies.1
  -- what is registered survives destruction and keeps the loop
  have hidle : v.busy l = false :=
    Bool.eq_false_iff.mpr fun hbusy => hgone (hinv.settle.busy_live hbusy)
  have hclose := Loop.close_idle (Loop.fresh_uvLoop d)
  have hloops : v.settle.loops l = ((Loop.fresh d).close false).2 := by
    refine (if_pos hdies).trans ?_
    rw [loopDtor, Loop.dtor_eq_close, hd, hidle]
  refine ⟨hidle, ?_, ?_, ?_⟩
  · refine (if_pos ⟨hdies, by rw [hd]; rfl⟩).trans ?_
    rw [hcloses, hd, hidle, hclose]
    rfl
  · rw [hloops, hclose]
  · rw [hloops, hclose, LoopDeleter.run_opened]

/-- **What is promised of a loop** follows from the invariants. -/
lemma Consistent.loopKept (h : w.Consistent) (ho : w.LoopsOpen) (l : ℕ) : w.LoopKept l where
  busy_live := h.toInv.busy_live
  live_open hlive := by
    obtain ⟨hcloses, d, hd⟩ := ho.live l hlive
    rw [hd]
    exact ⟨hcloses, rfl, rfl⟩
  live_used := h.settled.loop_referenced
  destroyed _ _ ha hstep hlive hgone := h.loop_destroyed ho ha hstep hlive hgone

end World

end Uvw
