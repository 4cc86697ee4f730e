import Uvw.Foundation.Destruction
import Uvw.Runtime.LoopLifetime

/-!
# What is reclaimed, and when

Resources refer to their loop, to themselves while libuv has them registered, and requests to the
handle their listeners captured.  `live_objects_are_traced` says that these references never keep
more than they should: in every reachable world the objects that exist are those to which references
lead from the program, from the calls being executed, from libuv, or from a process handle whose spawn
failed (whose self reference nobody takes back).  `destroyed_objects_are_inert` is the other
direction in time: an object that was destroyed is never heard of again.

`step` destroys everything at once.  The objects go one after the other in the program, in an order
that depends on which reference was dropped first; `destruction_order_irrelevant` says that a run
that destroys one object at a time, in any order, goes through the same worlds.
-/

namespace Uvw

namespace World

variable {w w' : World} {a : Action}

/-! ## Process handles whose spawn failed -/

/-- The handle of a process that failed to start: it is not registered, but `spawn` made it take a
reference to itself. -/
def SpawnFailed (w : World) (h : ℕ) : Prop :=
  (w.resources h).cls = .handle .process ∧ w.uvHandle h = .failed

/-- Such handles stay. -/
def FailedSpawnsStay (w : World) : Prop :=
  ∀ h, w.SpawnFailed h → .resource h ∈ w.live ∧ (w.resources h).selfPtr = true

/-- A record that differs at most by taking a self reference. -/
lemma modify_leakIf_selfPtr {r t : ℕ} {code : Int} (hself : (w.resources r).selfPtr = true) :
    ((w.modify t (·.leakIf code)).resources r).selfPtr = true := by
  by_cases hr : r = t
  · subst hr
    simp [World.modify, hself]
  · simpa [World.modify, hr] using hself

/-- No self reference is lost by an initialisation, -/
lemma initHandle_selfPtr {r t : ℕ} {code : Int} (hself : (w.resources r).selfPtr = true) :
    ((w.initHandle t code).resources r).selfPtr = true := by
  rcases initHandle_cases w t code with h | h <;> rw [h]
  · exact hself
  · exact modify_leakIf_selfPtr hself

/-- by a submission, -/
lemma submit_selfPtr {r t : ℕ} {code : Int} (hself : (w.resources r).selfPtr = true) :
    ((w.submit t code).resources r).selfPtr = true := by
  refine modify_leakIf_selfPtr ?_
  unfold World.uvSubmit
  split <;> exact hself

/-- by a new object, -/
lemma allocate_selfPtr {r : ℕ} {x : Resource} (hr : r < w.next)
    (hself : (w.resources r).selfPtr = true) : ((w.allocate x).resources r).selfPtr = true := by
  simpa [World.allocate, hr.ne] using hself

/-- by an operation -/
lemma operate_selfPtr {r t : ℕ} {op : StreamOp} {data : Option DataDeleter} {code : Int}
    (hr : r < w.next) (hself : (w.resources r).selfPtr = true) :
    ((w.operate t op data code).resources r).selfPtr = true :=
  submit_selfPtr (w := w.allocate _) (allocate_selfPtr hr hself)

/-- or by `loop::resource`. -/
lemma resource_selfPtr {r l : ℕ} {cls : ResourceClass} {code : Int} (hr : r < w.next)
    (hself : (w.resources r).selfPtr = true) :
    ((w.resource cls l code).1.resources r).selfPtr = true := by
  have hnew : ((w.uninitializedResource cls l).resources r).selfPtr = true :=
    allocate_selfPtr hr hself
  rcases resource_cases w cls l code with h | ⟨c, rfl, h | h⟩ <;> rw [h]
  · exact hnew
  · exact initHandle_selfPtr hnew
  · exact initHandle_selfPtr hnew

/-- Only the completion of a request and the close callback of a handle take a self reference
back. -/
lemma exec_selfPtr {r : ℕ} (hexec : w.exec a = some w') (hr : r < w.next)
    (hself : (w.resources r).selfPtr = true) :
    (w'.resources r).selfPtr = true ∨ w.pending r = true ∨ w.uvHandle r = .closing := by
  have hreset : ∀ t, r ≠ t → (Function.update w.resources t (w.resources t).selfReset r).selfPtr =
      true := fun t ht => by rwa [Function.update_of_ne ht]
  cases a with
  | createLoop d =>
    obtain rfl := Option.some.inj hexec
    exact Or.inl hself
  | create cls l =>
    obtain ⟨_, rfl⟩ := by simpa [World.exec] using hexec
    exact Or.inl (allocate_selfPtr hr hself)
  | init t code =>
    obtain ⟨_, rfl⟩ := by simpa [World.exec] using hexec
    exact Or.inl (initHandle_selfPtr hself)
  | resource cls l code =>
    obtain ⟨_, rfl⟩ := by simpa [World.exec] using hexec
    exact Or.inl (resource_selfPtr hr hself)
  | spawn t code registered =>
    obtain ⟨_, rfl⟩ := by simpa [World.exec] using hexec
    exact Or.inl (modify_leakIf_selfPtr hself)
  | start t code =>
    obtain ⟨_, rfl⟩ := by simpa [World.exec] using hexec
    rcases start_cases w t code with heq | ⟨_, _, heq⟩ <;> rw [heq] <;> exact Or.inl hself
  | close t =>
    obtain ⟨_, rfl⟩ := by simpa [World.exec] using hexec
    unfold World.close
    split <;> exact Or.inl hself
  | closeReset t code =>
    obtain ⟨_, rfl⟩ := by simpa [World.exec] using hexec
    unfold World.closeReset
    split <;> exact Or.inl hself
  | submit t code =>
    obtain ⟨_, rfl⟩ := by simpa [World.exec] using hexec
    exact Or.inl (submit_selfPtr hself)
  | write | shutdown | connect | send =>
    obtain ⟨_, rfl⟩ := by simpa [World.exec] using hexec
    exact Or.inl (operate_selfPtr hr hself)
  | complete t status =>
    obtain ⟨c, _, hpend, rfl⟩ := exec_complete hexec
    by_cases hrt : r = t
    · exact Or.inr (Or.inl (hrt ▸ hpend))
    · refine Or.inl ?_
      unfold World.complete World.completionCallback
      dsimp only
      split
      · exact hreset t hrt
      · exact hself
  | callback t cb =>
    obtain ⟨_, rfl⟩ := exec_callback hexec
    unfold World.handleCallback
    split <;> exact Or.inl hself
  | closeCallback t =>
    obtain ⟨⟨huv, _⟩, rfl⟩ := by simpa [World.exec] using hexec
    by_cases hrt : r = t
    · exact Or.inr (Or.inr (hrt ▸ huv))
    · refine Or.inl ?_
      unfold World.closeCallback
      dsimp only
      split
      · exact hreset t hrt
      · exact hself
  | _ =>
    obtain ⟨_, rfl⟩ := by simpa [World.exec] using hexec
    exact Or.inl hself

/-- An initialisation leaves process handles alone. -/
lemma initHandle_spawnFailed {h t : ℕ} {code : Int} (hnew : (w.initHandle t code).SpawnFailed h) :
    w.SpawnFailed h := by
  unfold World.initHandle at hnew
  split at hnew
  · exact hnew
  next hclass =>
    obtain ⟨hcls, huv⟩ := hnew
    by_cases hht : h = t
    · subst hht
      simp only [World.modify, Function.update_self, Resource.leakIf_cls] at hcls
      exact absurd (handleClass?_eq_some.mpr hcls) hclass
    · simp only [World.modify, World.uvInit, Function.update_of_ne hht] at hcls huv
      exact ⟨hcls, huv⟩

/-- A submission leaves the handles as they are for libuv, -/
lemma submit_uvHandle (w : World) (t : ℕ) (code : Int) :
    (w.submit t code).uvHandle = w.uvHandle := by
  unfold World.submit World.uvSubmit
  split <;> rfl

/-- and so does an operation. -/
lemma operate_uvHandle (w : World) (t : ℕ) (op : StreamOp) (data : Option DataDeleter)
    (code : Int) : (w.operate t op data code).uvHandle = w.uvHandle :=
  submit_uvHandle (w.allocate _) w.next code

/-- A spawn that fails is the only way into the state. -/
lemma exec_spawnFailed {h : ℕ} (hinv : w.Inv) (hexec : w.exec a = some w')
    (hnew : w'.SpawnFailed h) :
    w.SpawnFailed h ∨ .resource h ∈ w'.live ∧ (w'.resources h).selfPtr = true := by
  have hext := extends_exec hexec
  -- what libuv knew before the action decides, as classes never change
  have hknown : w.uvHandle h = .failed → w.SpawnFailed h := by
    intro huv
    have hlt : h < w.next := by
      by_contra hle
      rw [hinv.fresh_handle h (by omega)] at huv
      cases huv
    exact ⟨hext.cls h hlt ▸ hnew.1, huv⟩
  have hupdate : ∀ t st, st ≠ .failed → Function.update w.uvHandle t st h = .failed →
      w.uvHandle h = .failed := by
    intro t st hst ht
    by_cases hht : h = t
    · subst hht
      exact absurd (Function.update_self h st w.uvHandle ▸ ht) hst
    · rwa [Function.update_of_ne hht] at ht
  cases a with
  | createLoop d =>
    obtain rfl := Option.some.inj hexec
    exact Or.inl (hknown hnew.2)
  | init t code =>
    obtain ⟨_, rfl⟩ := by simpa [World.exec] using hexec
    exact Or.inl (initHandle_spawnFailed hnew)
  | resource cls l code =>
    obtain ⟨_, rfl⟩ := by simpa [World.exec] using hexec
    rcases resource_cases w cls l code with hres | ⟨c, rfl, hres | hres⟩ <;> rw [hres] at hnew
    · exact Or.inl (hknown hnew.2)
    · exact Or.inl (hknown (initHandle_spawnFailed hnew).2)
    · exact Or.inl (hknown (initHandle_spawnFailed hnew).2)
  | spawn t code registered =>
    obtain ⟨⟨⟨hlive, _⟩, _⟩, rfl⟩ := by simpa [World.exec] using hexec
    by_cases hht : h = t
    · subst hht
      exact Or.inr ⟨hlive, by simp [World.spawn, World.modify]⟩
    · refine Or.inl (hknown ?_)
      simpa [World.spawn, World.modify, hht] using hnew.2
  | start t code =>
    obtain ⟨_, rfl⟩ := by simpa [World.exec] using hexec
    rcases start_cases w t code with heq | ⟨_, _, heq⟩ <;> rw [heq] at hnew <;>
      exact Or.inl (hknown hnew.2)
  | close t =>
    obtain ⟨_, rfl⟩ := by simpa [World.exec] using hexec
    unfold World.close at hnew
    split at hnew
    · exact Or.inl (hknown hnew.2)
    · exact Or.inl (hknown (hupdate t .closing (by decide) hnew.2))
  | closeReset t code =>
    obtain ⟨_, rfl⟩ := by simpa [World.exec] using hexec
    unfold World.closeReset at hnew
    split at hnew
    · exact Or.inl (hknown (hupdate t .closing (by decide) hnew.2))
    · exact Or.inl (hknown hnew.2)
  | submit t code =>
    obtain ⟨_, rfl⟩ := by simpa [World.exec] using hexec
    exact Or.inl (hknown (submit_uvHandle w t code ▸ hnew.2))
  | write t _ _ code | shutdown t code | connect t code | send t _ code =>
    obtain ⟨_, rfl⟩ := by simpa [World.exec] using hexec
    exact Or.inl (hknown (operate_uvHandle w t _ _ code ▸ hnew.2))
  | complete t status =>
    obtain ⟨c, _, _, rfl⟩ := exec_complete hexec
    refine Or.inl (hknown ?_)
    unfold World.complete World.completionCallback at hnew
    dsimp only at hnew
    split at hnew <;> exact hnew.2
  | callback t cb =>
    obtain ⟨_, rfl⟩ := exec_callback hexec
    refine Or.inl (hknown ?_)
    unfold World.handleCallback at hnew
    split at hnew <;> exact hnew.2
  | closeCallback t =>
    obtain ⟨_, rfl⟩ := by simpa [World.exec] using hexec
    refine Or.inl (hknown (hupdate t .closed (by decide) ?_))
    unfold World.closeCallback at hnew
    dsimp only at hnew
    split at hnew <;> exact hnew.2
  | _ =>
    obtain ⟨_, rfl⟩ := by simpa [World.exec] using hexec
    exact Or.inl (hknown hnew.2)

/-- **Step lemma** for the handles of failed spawns. -/
lemma failedSpawnsStay_step (h : w.Consistent) (hstay : w.FailedSpawnsStay)
    (hstep : w.step a = some w') : w'.FailedSpawnsStay := by
  obtain ⟨v, hexec, rfl⟩ := Option.map_eq_some_iff.mp hstep
  have hstay' : v.FailedSpawnsStay := by
    intro t ht
    rcases exec_spawnFailed h.toInv hexec ht with hold | hnew
    · obtain ⟨hlive, hself⟩ := hstay t hold
      refine ⟨(extends_exec hexec).live_sub hlive, ?_⟩
      have hhnd : (w.resources t).isHandle = true := by
        rw [Resource.isHandle, hold.1]
      rcases exec_selfPtr hexec (h.live_lt _ hlive) hself with hkept | hpend | huv
      · exact hkept
      · exact absurd ((h.handle_not_pending hhnd).symm.trans hpend) (by decide)
      · exact absurd (hold.2.symm.trans huv) (by decide)
    · exact hnew
  exact fun t ht => ⟨mem_settle_of_self (hstay' t ht).1 (hstay' t ht).2, (hstay' t ht).2⟩

/-! ## Reference counting and tracing -/

/-- Somebody outside the objects keeps the object: the program, a call being executed, libuv, or the
failed spawn of a process. -/
inductive Kept (w : World) : Obj → Prop
  | program (x : Obj) (hrefs : 0 < w.refs x) : Kept w x
  | call (x : Obj) (f : Frame) (hf : f ∈ w.stack) (hx : x ∈ f.held) : Kept w x
  | registered (r : ℕ) (hreg : w.registered r = true) : Kept w (.resource r)
  | spawnFailed (r : ℕ) (hfail : w.SpawnFailed r) : Kept w (.resource r)

/-- References lead to the object from one that is kept. -/
def Traced (w : World) (x : Obj) : Prop :=
  ∃ y, w.Kept y ∧ Relation.ReflTransGen w.graph.Owns y x

/-- What a program is promised about the objects that exist. -/
structure Reclaimed (w : World) : Prop where
  /-- They are those that references lead to. -/
  mem_live_iff : ∀ x, x ∈ w.live ↔ w.Traced x
  /-- Where the program holds nothing, executes nothing, and nothing is registered, nothing is left,
  up to the handles of failed spawns. -/
  nothing_left : (∀ x, w.refs x = 0) → w.stack = [] → (∀ r, w.registered r = false) →
    (∀ r, ¬ w.SpawnFailed r) → w.live = ∅

/-- Loops are owned by resources and handles by requests. -/
def rank (w : World) : Obj → ℕ
  | .loop _ => 0
  | .resource r => if (w.resources r).isHandle then 1 else 2

/-- References to other objects lead downwards in rank. -/
lemma Inv.rank_lt (h : w.Inv) {x y : Obj} (hown : w.graph.Owns y x) (hne : x ≠ y) :
    w.rank x < w.rank y := by
  cases y with
  | loop l => exact absurd hown List.not_mem_nil
  | resource r =>
    cases x with
    | loop l =>
      simp only [rank]
      split <;> omega
    | resource t =>
      rcases mem_owned_resource.mp hown with ⟨_, rfl⟩ | htarget
      · exact absurd rfl hne
      · obtain ⟨hreq, hhnd, _⟩ := h.target_handle r t htarget
        simp [rank, hreq, hhnd]

/-- What owns itself does so because libuv has it registered, or a spawn of it has failed. -/
lemma Consistent.kept_of_owns_self (h : w.Consistent) {r : ℕ}
    (hown : w.graph.Owns (.resource r) (.resource r)) : w.registered r = true ∨ w.SpawnFailed r := by
  rcases mem_owned_self.mp hown with hself | htarget
  · cases hhnd : (w.resources r).isHandle with
    | false => exact Or.inl (by simp [World.registered, h.self_pending r hhnd hself])
    | true =>
      rcases h.self_registered r hhnd hself with hreg | hfail
      · exact Or.inl (by simp [World.registered, hreg])
      · exact Or.inr hfail
  · obtain ⟨hreq, hhnd, _⟩ := h.target_handle r r htarget
    exact absurd (hreq.symm.trans hhnd) (by decide)

/-- What libuv has registered exists, and refers to itself. -/
lemma Inv.self_of_registered (h : w.Inv) {r : ℕ} (hreg : w.registered r = true) :
    .resource r ∈ w.live ∧ (w.resources r).selfPtr = true := by
  rcases (Bool.or_eq_true _ _).mp hreg with huv | hpend
  · exact h.registered_self r huv
  · exact ⟨(h.pending_self r hpend).1, (h.pending_self r hpend).2.1⟩

/-- What libuv has registered exists. -/
lemma Inv.live_of_registered (h : w.Inv) {r : ℕ} (hreg : w.registered r = true) : .resource r ∈ w.live :=
  (h.self_of_registered hreg).1

/-- Where the program holds nothing, executes nothing, and nothing is registered, only failed spawns keep
something. -/
lemma Kept.exists_spawnFailed {y : Obj} (h : w.Kept y) (hrefs : ∀ x, w.refs x = 0) (hstack : w.stack = [])
    (hreg : ∀ r, w.registered r = false) : ∃ r, y = .resource r ∧ w.SpawnFailed r := by
  cases h with
  | program y hpos => exact absurd (hrefs y) hpos.ne'
  | call y f hf => exact absurd (hstack ▸ hf) List.not_mem_nil
  | registered r hr => exact absurd ((hreg r).symm.trans hr) (by decide)
  | spawnFailed r hfail => exact ⟨r, rfl, hfail⟩

/-- The objects that are held from outside the objects or by themselves. -/
lemma Consistent.kept_iff (h : w.Consistent) (hstay : w.FailedSpawnsStay) {y : Obj} :
    w.Kept y ↔ y ∈ w.live ∧ w.graph.Anchored y := by
  have hself : ∀ r, (w.resources r).selfPtr = true → w.graph.Owns (.resource r) (.resource r) :=
    fun r hr => mem_owned_self.mpr (Or.inl hr)
  constructor
  · intro hkept
    cases hkept with
    | program x hrefs => exact ⟨h.refs_live _ hrefs, Or.inl (roots_pos_iff.mpr (Or.inl hrefs))⟩
    | call x f hf hx =>
      exact ⟨h.held_live f hf _ hx, Or.inl (roots_pos_iff.mpr (Or.inr ⟨f, hf, hx⟩))⟩
    | registered r hreg =>
      obtain ⟨hlive, hptr⟩ := h.toInv.self_of_registered hreg
      exact ⟨hlive, Or.inr (hself r hptr)⟩
    | spawnFailed r hfail => exact ⟨(hstay r hfail).1, Or.inr (hself r (hstay r hfail).2)⟩
  · rintro ⟨hlive, hroot | hown⟩
    · rcases roots_pos_iff.mp hroot with hrefs | ⟨f, hf, hx⟩
      · exact .program y hrefs
      · exact .call y f hf hx
    · cases y with
      | loop l => exact absurd hown List.not_mem_nil
      | resource r =>
        rcases h.kept_of_owns_self hown with hreg | hfail
        · exact .registered r hreg
        · exact .spawnFailed r hfail

/-- **What exists** is what is kept and what references lead to from there. -/
lemma Consistent.reclaimed (h : w.Consistent) (hstay : w.FailedSpawnsStay) : w.Reclaimed := by
  have htraced : ∀ x, x ∈ w.live ↔ w.Traced x := by
    intro x
    have hsettle : w.graph.settle w.live = w.live := OwnershipGraph.settle_eq_self h.settled
    have htrace := OwnershipGraph.mem_settle_iff_reachable (x := x) h.toInv.noDangling w.rank
      fun y _ z => h.toInv.rank_lt
    rw [hsettle] at htrace
    rw [htrace]
    simp only [OwnershipGraph.Reachable, Traced, h.kept_iff hstay, and_assoc]
  refine ⟨htraced, fun hrefs hstack hreg hfail => ?_⟩
  refine Finset.eq_empty_of_forall_notMem fun x hx => ?_
  obtain ⟨y, hkept, _⟩ := (htraced x).mp hx
  obtain ⟨r, _, hr⟩ := hkept.exists_spawnFailed hrefs hstack hreg
  exact hfail r hr

/-- **Reference counting is exact**: along every run, the objects that exist are those to which
references lead from the program, from the calls being executed, from what libuv has registered or
from the handle of a failed spawn.  In particular nothing is left once all of these are gone. -/
theorem live_objects_are_traced (as : List Action) :
    TransitionSystem.Visits World.step Reclaimed init as := by
  refine TransitionSystem.visits_of_invariant (I := fun w => w.Consistent ∧ w.FailedSpawnsStay)
    (fun w h => h.1.reclaimed h.2) ?_ ⟨consistent_init, fun t ht => by cases ht.2⟩
  rintro w a w' ⟨h, hstay⟩ hstep
  exact ⟨consistent_step h hstep, failedSpawnsStay_step h hstay hstep⟩

end World

/-! ## Destroyed objects -/

/-- The resources an entry of the history is about. -/
def Entry.resources : Entry → List ℕ
  | .called r h _ _ _ => [r, h]
  | .completed r _ => [r]
  | .published on _ via _ => on :: via.toList
  | .dangling r => [r]
  | .uvClose h _ => [h]

namespace World

variable {u w w' : World} {a : Action} {x : Obj}

/-- What is promised of an object that no longer exists in `w`, in a world `w'` reached from there. -/
structure Inert (w w' : World) (x : Obj) : Prop where
  /-- It does not come back, and nothing refers to it: not the program, -/
  not_live : x ∉ w'.live
  no_refs : w'.refs x = 0
  /-- not a call being executed, -/
  not_held : ∀ f ∈ w'.stack, x ∉ f.held
  /-- and not another object. -/
  not_owned : ∀ y ∈ w'.live, x ∉ w'.owned y
  /-- Nothing is called on it, completed, published or closed. -/
  silent : ∃ es, w'.log = w.log ++ es ∧ ∀ e ∈ es, ∀ r ∈ e.resources, x ≠ .resource r
  /-- libuv does not have it, and its data is not released again, -/
  unregistered : ∀ r, x = .resource r → w'.registered r = false ∧ w'.late r = false
  released : ∀ r, x = .resource r → w'.released r = w.released r
  /-- nor is its `uv_loop_t` closed or freed again. -/
  closed : ∀ l, x = .loop l → w'.loops l = w.loops l ∧ w'.loopCloses l = w.loopCloses l

/-- The object was started after it was closed. -/
def StartedLate (w : World) (x : Obj) : Prop := ∃ r, x = .resource r ∧ w.late r = true

/-- Where an object does not exist, nothing refers to it and libuv does not have it. -/
lemma Inv.inert_refl (h : w.Inv) (hx : x ∉ w.live) (hlate : ¬ w.StartedLate x) : Inert w w x where
  not_live := hx
  no_refs := by
    by_contra hne
    exact hx (h.refs_live x (by omega))
  not_held f hf hmem := hx (h.held_live f hf x hmem)
  not_owned y hy hown :=
    hx (h.noDangling x (OwnershipGraph.useCount_pos_iff.mpr (Or.inr ⟨y, hy, hown⟩)))
  silent := ⟨[], (List.append_nil _).symm, fun e he => absurd he List.not_mem_nil⟩
  unregistered r hr := by
    subst hr
    refine ⟨?_, Bool.eq_false_iff.mpr fun htrue => hlate ⟨r, rfl, htrue⟩⟩
    by_contra hreg
    exact hx (h.live_of_registered (Bool.eq_true_of_not_eq_false hreg))
  released _ _ := rfl
  closed _ _ := ⟨rfl, rfl⟩

/-- What is inert was not started late. -/
lemma Inert.not_startedLate (h : Inert w w' x) : ¬ w'.StartedLate x := by
  rintro ⟨r, rfl, hr⟩
  exact Bool.eq_false_iff.mp (h.unregistered r rfl).2 hr

/-- What is promised on the way and from there on is promised throughout. -/
lemma Inert.trans (h : Inert u w x) (h' : Inert w w' x) : Inert u w' x where
  __ := h'
  silent := by
    obtain ⟨es, hes, hold⟩ := h.silent
    obtain ⟨fs, hfs, hnew⟩ := h'.silent
    refine ⟨es ++ fs, by rw [hfs, hes, List.append_assoc], fun e he => ?_⟩
    exact (List.mem_append.mp he).elim (hold e) (hnew e)
  released r hr := (h'.released r hr).trans (h.released r hr)
  closed l hl := ⟨(h'.closed l hl).1.trans (h.closed l hl).1, (h'.closed l hl).2.trans (h.closed l hl).2⟩

/-- **History of one action**: it is about existing resources, up to the request that an operation
creates and to what was started after it was closed. -/
lemma Change.log_resources (hc : w.Change w') (hinv : w.Inv) (hinv' : w'.Inv) (hext : w.Extends w') :
    ∃ es, w'.log = w.log ++ es ∧ ∀ e ∈ es, ∀ r ∈ e.resources,
      .resource r ∈ w.live ∨ w.late r = true ∨
        r = w.next ∧ w.next < w'.next ∧ ∃ h op data code, e = .called r h op data code := by
  have hreg : ∀ {t}, (w.uvHandle t).registered = true → .resource t ∈ w.live :=
    fun ht => (hinv.registered_self _ ht).1
  cases hc with
  | quiet hlog | init _ _ _ _ hlog | closeReset _ _ hlog | submit _ _ _ _ hlog =>
    exact ⟨[], by rw [hlog, List.append_nil], fun e he => absurd he List.not_mem_nil⟩
  | close t hold hlog =>
    refine ⟨_, hlog, fun e he r hr => ?_⟩
    obtain rfl := List.mem_singleton.mp he
    obtain rfl := List.mem_singleton.mp hr
    exact Or.inl (hreg (by rw [hold]; rfl))
  | operate t op data code _ _ htarget _ hlive _ hlog _ _ _ hnext =>
    refine ⟨_, hlog, fun e he r hr => ?_⟩
    obtain rfl := List.mem_singleton.mp he
    rcases List.mem_pair.mp hr with rfl | rfl
    · exact Or.inr (Or.inr ⟨rfl, hnext ▸ Nat.lt_succ_self _, _, _, _, _, rfl⟩)
    · -- the handle was there before, as it is not the new request
      obtain ⟨hreq, hhnd, _⟩ := hinv'.target_handle _ _ htarget
      by_contra hnot
      have hid : r = w.next := hext.live_new _ (hinv'.target_live _ _ hlive htarget)
        fun hold => hnot (Or.inl hold)
      rw [hid, hreq] at hhnd
      exact absurd hhnd (by decide)
  | complete t c status hold _ hlog =>
    refine ⟨_, hlog, fun e he r hr => Or.inl ?_⟩
    have hlive := (hinv.pending_self t hold).1
    simp only [completionEntries, List.mem_cons, List.mem_map, Option.mem_toList] at he
    rcases he with rfl | rfl | ⟨s, hs, rfl⟩
    · obtain rfl := List.mem_singleton.mp hr
      exact hlive
    · obtain rfl := List.mem_singleton.mp hr
      exact hlive
    · rcases List.mem_pair.mp hr with rfl | rfl
      · exact hinv.target_live t r hlive hs
      · exact hlive
  | callback t cb _ hlive _ hlog =>
    refine ⟨_, hlog, fun e he r hr => Or.inl ?_⟩
    obtain ⟨ev, _, rfl⟩ := List.mem_map.mp he
    obtain rfl := List.mem_singleton.mp hr
    exact hlive
  | dangling t hlate _ hlog =>
    refine ⟨_, hlog, fun e he r hr => Or.inr (Or.inl ?_)⟩
    obtain rfl := List.mem_singleton.mp he
    obtain rfl := List.mem_singleton.mp hr
    exact hlate
  | closeCallback t hold _ _ hlog =>
    refine ⟨_, hlog, fun e he r hr => Or.inl ?_⟩
    obtain rfl := List.mem_singleton.mp he
    obtain rfl := List.mem_singleton.mp hr
    exact hreg (by rw [hold]; rfl)

/-- An action leaves the loops alone that do not exist. -/
lemma exec_loops_of_not_live {l : ℕ} (hexec : w.exec a = some w') (hl : .loop l ∉ w.live)
    (hlt : l < w.next) : w'.loops l = w.loops l ∧ w'.loopCloses l = w.loopCloses l := by
  by_cases ha : ∀ m, a ≠ .closeLoop m
  · rcases loops_exec ha hexec with hsame | ⟨d, _, rfl⟩
    · rw [hsame.loops, hsame.loopCloses]
      exact ⟨rfl, rfl⟩
    · exact ⟨Function.update_of_ne hlt.ne _ _, rfl⟩
  · obtain ⟨m, rfl⟩ : ∃ m, a = .closeLoop m := by simpa using ha
    obtain ⟨hm, rfl⟩ := by simpa [World.exec] using hexec
    have hne : l ≠ m := fun heq => hl (heq ▸ hm)
    refine ⟨Function.update_of_ne hne _ _, ?_⟩
    unfold World.closeLoop
    dsimp only
    split
    · exact Function.update_of_ne hne _ _
    · rfl

/-- What does not exist is not started. -/
lemma not_startedLate_exec (hexec : w.exec a = some w') (hx : x ∉ w.live)
    (hlate : ¬ w.StartedLate x) : ¬ w'.StartedLate x := by
  rintro ⟨r, rfl, hr⟩
  rcases late_exec hexec with heq | ⟨t, _, hlive, _, heq⟩
  · exact hlate ⟨r, rfl, heq ▸ hr⟩
  · have hne : r ≠ t := fun hrt => hx (hrt ▸ hlive)
    rw [heq, Function.update_of_ne hne] at hr
    exact hlate ⟨r, rfl, hr⟩

/-- **Step lemma** for the objects that do not exist. -/
lemma inert_step (h : w.Consistent) (hx : x ∉ w.live) (hlate : ¬ w.StartedLate x)
    (hlt : x.id < w.next) (hstep : w.step a = some w') : Inert w w' x := by
  have hinv' := inv_step h.toInv hstep
  obtain ⟨v, hexec, rfl⟩ := Option.map_eq_some_iff.mp hstep
  have hext := extends_exec hexec
  have hv : x ∉ v.live := fun hmem => absurd (hext.live_new x hmem hx) hlt.ne
  have hdies : ¬ v.Dies v.settle.live x := fun hd => hv hd.1
  have hlate' : ¬ v.StartedLate x := not_startedLate_exec hexec hx hlate
  obtain ⟨es, hlog, hes⟩ := (h.toInv.change hexec).log_resources h.toInv (h.toInv.exec hexec) hext
  refine { hinv'.inert_refl (fun hmem => hv (OwnershipGraph.settle_subset hmem)) hlate' with
    silent := ⟨es, hlog, fun e he r hr heq => ?_⟩, released := ?_, closed := ?_ }
  · rcases hes e he r hr with hlive | hstarted | ⟨rfl, _⟩
    · exact hx (heq ▸ hlive)
    · exact hlate ⟨r, heq, hstarted⟩
    · exact absurd (congrArg Obj.id heq) hlt.ne
  · rintro r rfl
    exact (if_neg hdies).trans (congrFun hext.released r)
  · rintro l rfl
    obtain ⟨hloops, hcloses⟩ := exec_loops_of_not_live hexec hx hlt
    exact ⟨(if_neg hdies).trans hloops, (if_neg fun hd => hdies hd.1).trans hcloses⟩

/-- No number is given twice. -/
lemma next_le_step (hstep : w.step a = some w') : w.next ≤ w'.next := by
  obtain ⟨v, hexec, rfl⟩ := Option.map_eq_some_iff.mp hstep
  exact (extends_exec hexec).next_le

/-- **What is destroyed is never heard of again**: along every run, an object that has been destroyed
in a world on the way, and was not started after it was closed, stays destroyed in every world reached
from there.  Nothing refers to it, libuv does not have it, no call, completion, callback, event or
`uv_close` in the history made since is about it, and its data is not released nor its `uv_loop_t`
closed once more. -/
theorem destroyed_objects_are_inert (as : List Action) :
    TransitionSystem.Visits World.step
      (fun w => ∀ x, x ∉ w.live → ¬ w.StartedLate x → x.id < w.next → ∀ bs,
        TransitionSystem.Visits World.step (fun w' => Inert w w' x) w bs)
      init as := by
  refine visits_of_consistent (fun w h x hx hlate hlt bs => ?_) as
  refine TransitionSystem.visits_of_invariant
    (I := fun w' => w'.Consistent ∧ x.id < w'.next ∧ Inert w w' x) (fun _ h => h.2.2) ?_
    ⟨h, hlt, h.toInv.inert_refl hx hlate⟩
  rintro v b v' ⟨hv, hvlt, hinert⟩ hstep
  exact ⟨consistent_step hv hstep, hvlt.trans_le (next_le_step hstep),
    hinert.trans (inert_step hv hinert.not_live hinert.not_startedLate hvlt hstep)⟩

/-! ## The order of destruction -/

/-- One object without a reference to it is destroyed: its destructor runs, and the references it
owned go with it. -/
def Destroys (w w' : World) : Prop :=
  ∃ x ∈ w.live, w.graph.useCount w.live x = 0 ∧ w' = w.destroyOutside (w.live.erase x)

/-- An action, and the destruction of one object after the other for as long as there is one without
a reference to it. -/
def StepOneByOne (w : World) (a : Action) (w' : World) : Prop :=
  ∃ v, w.exec a = some v ∧ Relation.ReflTransGen Destroys v w' ∧ ∀ u, ¬ Destroys w' u

/-- A run that destroys one object after the other. -/
def RunOneByOne : World → List Action → World → Prop
  | w, [], w' => w' = w
  | w, a :: as, w' => ∃ v, StepOneByOne w a v ∧ RunOneByOne v as w'

/-- To destroy what does not exist changes nothing. -/
lemma destroyOutside_live_self (w : World) : w.destroyOutside w.live = w := by
  have hdies : ∀ y, ¬ w.Dies w.live y := fun y hy => hy.2 hy.1
  simp [destroyOutside, hdies]

section

variable (S : Finset Obj)

/-- Of the loops, those that go are destructed, -/
lemma destroyOutside_loops (l : ℕ) : (w.destroyOutside S).loops l =
    if w.Dies S (.loop l) then w.loopDtor l else w.loops l := rfl

/-- which closes those that are not closed yet, -/
lemma destroyOutside_loopCloses (l : ℕ) : (w.destroyOutside S).loopCloses l =
    if w.Dies S (.loop l) ∧ (w.loops l).uvLoop.isSome then
      w.loopCloses l ++ [((w.loops l).close (w.busy l)).1]
    else w.loopCloses l := rfl

/-- and the data of the requests that go is released. -/
lemma destroyOutside_released (r : ℕ) : (w.destroyOutside S).released r =
    if w.Dies S (.resource r) then w.released r + w.dataDtor r else w.released r := rfl

@[simp] lemma destroyOutside_busy : (w.destroyOutside S).busy = w.busy := rfl
@[simp] lemma destroyOutside_dataDtor : (w.destroyOutside S).dataDtor = w.dataDtor := rfl
@[simp] lemma destroyOutside_graph : (w.destroyOutside S).graph = w.graph := rfl
@[simp] lemma destroyOutside_live : (w.destroyOutside S).live = S := rfl

end

/-- Destroying in two goes is destroying at once. -/
lemma destroyOutside_destroyOutside {S T : Finset Obj} (hS : S ⊆ w.live) (hT : T ⊆ S) :
    (w.destroyOutside S).destroyOutside T = w.destroyOutside T := by
  have hfirst : ∀ {y}, w.Dies S y → w.Dies T y := fun hy => ⟨hy.1, fun hyT => hy.2 (hT hyT)⟩
  -- the second go takes what the first one left
  have hsecond : ∀ y, (w.destroyOutside S).Dies T y ↔ w.Dies T y ∧ ¬ w.Dies S y := by
    refine fun y => ⟨fun hy => ⟨⟨hS hy.1, hy.2⟩, fun hyS => hyS.2 hy.1⟩, ?_⟩
    exact fun hy => ⟨by_contra fun hmem => hy.2 ⟨hy.1.1, hmem⟩, hy.1.2⟩
  have hloops : ((w.destroyOutside S).destroyOutside T).loops = (w.destroyOutside T).loops := by
    funext l
    by_cases hd : w.Dies S (.loop l)
    · simp [destroyOutside_loops, hsecond, hd, hfirst hd]
    · simp [destroyOutside_loops, hsecond, hd, loopDtor]
  have hcloses : ((w.destroyOutside S).destroyOutside T).loopCloses =
      (w.destroyOutside T).loopCloses := by
    funext l
    by_cases hd : w.Dies S (.loop l)
    · simp [destroyOutside_loopCloses, hsecond, hd, hfirst hd]
    · simp [destroyOutside_loopCloses, destroyOutside_loops, hsecond, hd]
  have hreleased : ((w.destroyOutside S).destroyOutside T).released =
      (w.destroyOutside T).released := by
    funext r
    by_cases hd : w.Dies S (.resource r)
    · simp [destroyOutside_released, hsecond, hd, hfirst hd]
    · simp [destroyOutside_released, hsecond, hd]
  calc (w.destroyOutside S).destroyOutside T
    _ = { w.destroyOutside T with
          loops := ((w.destroyOutside S).destroyOutside T).loops
          loopCloses := ((w.destroyOutside S).destroyOutside T).loopCloses
          released := ((w.destroyOutside S).destroyOutside T).released } := rfl
    _ = w.destroyOutside T := by rw [hloops, hcloses, hreleased]

/-- A sequence of destructions in the world is one in its ownership graph. -/
lemma destroys_iff_graph {v : World} :
    Relation.ReflTransGen Destroys w v ↔
      ∃ S, Relation.ReflTransGen w.graph.Destroys w.live S ∧ v = w.destroyOutside S := by
  constructor
  · intro h
    induction h with
    | refl => exact ⟨w.live, Relation.ReflTransGen.refl, (destroyOutside_live_self w).symm⟩
    | tail _ hstep ih =>
      obtain ⟨S, hS, rfl⟩ := ih
      obtain ⟨x, hx, hzero, rfl⟩ := hstep
      refine ⟨S.erase x, hS.tail ⟨x, hx, hzero, rfl⟩, ?_⟩
      exact destroyOutside_destroyOutside (OwnershipGraph.subset_of_destroys hS) (Finset.erase_subset x S)
  · rintro ⟨S, hS, rfl⟩
    induction hS with
    | refl =>
      rw [destroyOutside_live_self]
    | @tail S T hS hstep ih =>
      obtain ⟨x, hx, hzero, rfl⟩ := hstep
      refine ih.tail ⟨x, hx, hzero, ?_⟩
      exact (destroyOutside_destroyOutside (OwnershipGraph.subset_of_destroys hS)
        (Finset.erase_subset x S)).symm

/-- Nothing can be destroyed in the world exactly when nothing can in its ownership graph. -/
lemma exhausted_iff_graph : (∀ u, ¬ Destroys w u) ↔ ∀ S, ¬ w.graph.Destroys w.live S := by
  constructor
  · rintro h S ⟨x, hx, hzero, rfl⟩
    exact h _ ⟨x, hx, hzero, rfl⟩
  · rintro h u ⟨x, hx, hzero, rfl⟩
    exact h _ ⟨x, hx, hzero, rfl⟩

/-- **Step lemma**: destroying one object after the other is `settle`. -/
lemma stepOneByOne_iff : StepOneByOne w a w' ↔ w.step a = some w' := by
  constructor
  · rintro ⟨v, hexec, hdestroy, hdone⟩
    obtain ⟨S, hS, rfl⟩ := destroys_iff_graph.mp hdestroy
    have hsettle : S = v.graph.settle v.live :=
      OwnershipGraph.eq_settle_of_exhausted hS (exhausted_iff_graph.mp hdone)
    rw [step, hexec, hsettle]
    rfl
  · intro hstep
    obtain ⟨v, hexec, rfl⟩ := Option.map_eq_some_iff.mp hstep
    refine ⟨v, hexec, destroys_iff_graph.mpr ⟨_, OwnershipGraph.destroys_settle v.live, rfl⟩, ?_⟩
    exact exhausted_iff_graph.mpr
      (OwnershipGraph.supported_iff_exhausted.mp OwnershipGraph.settle_supported)

/-- **The order of destruction does not matter**: the runs that destroy one unreferenced object after
the other, in any order, are the runs that destroy them all at once, and every run can be carried
out that way. -/
theorem destruction_order_irrelevant (w : World) (as : List Action) (w' : World) :
    RunOneByOne w as w' ↔ TransitionSystem.after World.step w as = some w' := by
  induction as generalizing w with
  | nil => exact ⟨fun h => congrArg some h.symm, fun h => (Option.some.inj h).symm⟩
  | cons a as ih =>
    rw [TransitionSystem.after_cons_eq_some]
    exact exists_congr fun v => and_congr stepOneByOne_iff (ih v)

end World

end Uvw
