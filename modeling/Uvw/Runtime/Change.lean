import Uvw.Foundation.TransitionSystem
import Uvw.Runtime.Invariant

/-!
# What one action changes

`World.Change` lists the ways in which an action can change the history, libuv's view of the handles
and the set of accepted requests; the results on requests, handles and streams are case analyses of
it.  `World.Extends` is the part that is common to all actions: records keep their class, owner,
target and data, and objects only come into existence, under new numbers.
-/

namespace Uvw

namespace World

/-- Objects come into existence under the next number, records change in their self reference only
and the program gets references only to what it can name or creates. -/
structure Extends (w w' : World) : Prop where
  next_le : w.next ≤ w'.next
  next_succ : w'.next ≤ w.next + 1
  live_sub : w.live ⊆ w'.live
  live_new : ∀ x ∈ w'.live, x ∉ w.live → x.id = w.next
  cls : ∀ r < w.next, (w'.resources r).cls = (w.resources r).cls
  owner : ∀ r < w.next, (w'.resources r).owner = (w.resources r).owner
  target : ∀ r < w.next, (w'.resources r).target = (w.resources r).target
  data : ∀ r, r < w.next ∨ .resource r ∉ w'.live → (w'.resources r).data = (w.resources r).data
  refs : ∀ x, w.refs x < w'.refs x → w.Visible x ∨ x.id = w.next
  released : w'.released = w.released

/-- The history entries of a completion. -/
def completionEntries (w : World) (r : ℕ) (c : RequestClass) (status : Int) : List Entry :=
  .completed r status :: .published r (c.callback status) none true ::
    (w.resources r).target.toList.map fun h => .published h (c.callback status) (some r) true

/-- What an action does to the history, to the accepted requests, to libuv's view of the handles and
to the calls being executed. -/
inductive Change (w w' : World) : Prop
  | quiet (hlog : w'.log = w.log) (hpend : w'.pending = w.pending)
      (huv : w'.uvHandle = w.uvHandle)
      (hstack : w'.stack = w.stack ∨ (∃ l, w'.stack = .running l :: w.stack) ∨
        w'.stack = w.stack.tail)
      (hnext : ∀ h, (w'.resources w.next).target ≠ some h)
  /-- A handle is initialised. -/
  | init (h : ℕ) (st : UvHandle) (hold : w.uvHandle h = .none) (hst : st = .open ∨ st = .failed)
      (hlog : w'.log = w.log) (hpend : w'.pending = w.pending)
      (huv : w'.uvHandle = Function.update w.uvHandle h st) (hstack : w'.stack = w.stack)
      (hnext : ∀ h, (w'.resources w.next).target ≠ some h)
  /-- `handle::close` calls `uv_close`. -/
  | close (h : ℕ) (hold : w.uvHandle h = .open)
      (hlog : w'.log = w.log ++ [.uvClose h .open]) (hpend : w'.pending = w.pending)
      (huv : w'.uvHandle = Function.update w.uvHandle h .closing) (hstack : w'.stack = w.stack)
      (hnext : w'.next = w.next)
  /-- `uv_tcp_close_reset` closes a handle. -/
  | closeReset (h : ℕ) (hold : w.uvHandle h = .open)
      (hlog : w'.log = w.log) (hpend : w'.pending = w.pending)
      (huv : w'.uvHandle = Function.update w.uvHandle h .closing) (hstack : w'.stack = w.stack)
      (hnext : w'.next = w.next)
  /-- A request of the program is accepted. -/
  | submit (r : ℕ) (hlt : r < w.next) (hreq : (w.resources r).isHandle = false)
      (htarget : (w.resources r).target = none)
      (hlog : w'.log = w.log) (hpend : w'.pending = Function.update w.pending r true)
      (huv : w'.uvHandle = w.uvHandle) (hstack : w'.stack = w.stack) (hnext : w'.next = w.next)
  /-- A stream or udp operation is called on a handle. -/
  | operate (h : ℕ) (op : StreamOp) (data : Option DataDeleter) (code : Int)
      (hreg : (w.uvHandle h).registered = true ∨ w.uvHandle h = .closed ∧ code ≠ 0)
      (hcls : (w'.resources w.next).cls = .request op.request)
      (htarget : (w'.resources w.next).target = some h)
      (hdata : (w'.resources w.next).data = data)
      (hlive : .resource w.next ∈ w'.live) (hrefs : w'.refs = w.refs)
      (hlog : w'.log = w.log ++ [.called w.next h op data code])
      (hpend : w'.pending = if code = 0 then Function.update w.pending w.next true else w.pending)
      (huv : w'.uvHandle = w.uvHandle) (hstack : w'.stack = w.stack)
      (hnext : w'.next = w.next + 1)
  /-- libuv completes a request. -/
  | complete (r : ℕ) (c : RequestClass) (status : Int) (hold : w.pending r = true)
      (hcls : (w.resources r).cls = .request c)
      (hlog : w'.log = w.log ++ w.completionEntries r c status)
      (hpend : w'.pending = Function.update w.pending r false) (huv : w'.uvHandle = w.uvHandle)
      (hstack : w'.stack = .request r :: w.stack) (hnext : w'.next = w.next)
  /-- libuv calls a callback of a handle. -/
  | callback (h : ℕ) (cb : HandleCallback)
      (hold : (w.uvHandle h).registered = true ∨ w.late h = true) (hlive : .resource h ∈ w.live)
      (hhnd : (w.resources h).isHandle = true)
      (hlog : w'.log = w.log ++ cb.event.toList.map fun ev => .published h ev none true)
      (hpend : w'.pending = w.pending) (huv : w'.uvHandle = w.uvHandle)
      (hstack : w'.stack = .handle h :: w.stack) (hnext : w'.next = w.next)
  /-- libuv calls a callback of a handle that was started after `uv_close` and is gone. -/
  | dangling (h : ℕ) (hlate : w.late h = true) (hgone : .resource h ∉ w.live)
      (hlog : w'.log = w.log ++ [.dangling h]) (hpend : w'.pending = w.pending)
      (huv : w'.uvHandle = w.uvHandle) (hstack : w'.stack = w.stack) (hnext : w'.next = w.next)
  /-- libuv calls the close callback of a handle. -/
  | closeCallback (h : ℕ) (hold : w.uvHandle h = .closing) (hidle : w.hasPending h = false)
      (hself : (w'.resources h).selfPtr = false)
      (hlog : w'.log = w.log ++ [.published h .close none true]) (hpend : w'.pending = w.pending)
      (huv : w'.uvHandle = Function.update w.uvHandle h .closed)
      (hstack : w'.stack = .closing h :: w.stack) (hnext : w'.next = w.next)

variable {w w' : World} {a : Action}

/-! ## Everything keeps the records -/

/-- Nothing has changed so far. -/
lemma Extends.refl (w : World) : w.Extends w where
  next_le := le_rfl
  next_succ := Nat.le_succ _
  live_sub := Finset.Subset.refl _
  live_new _ hx hx' := absurd hx hx'
  cls _ _ := rfl
  owner _ _ := rfl
  target _ _ := rfl
  data _ _ := rfl
  refs _ hx := absurd hx (lt_irrefl _)
  released := rfl

/-- The two records differ in their self reference only. -/
def SameRecord (x y : Resource) : Prop :=
  x.cls = y.cls ∧ x.owner = y.owner ∧ x.target = y.target ∧ x.data = y.data

/-- `leak_if` changes the self reference at most, -/
lemma sameRecord_leakIf (err : Int) (x : Resource) : SameRecord (x.leakIf err) x :=
  ⟨x.leakIf_cls err, x.leakIf_owner err, x.leakIf_target err, x.leakIf_data err⟩

/-- and what does so to one record does so to all of them. -/
lemma sameRecord_modify {r : ℕ} {f : Resource → Resource} (hf : ∀ x, SameRecord (f x) x) (n : ℕ) :
    SameRecord ((w.modify r f).resources n) (w.resources n) := by
  show SameRecord (Function.update w.resources r (f (w.resources r)) n) (w.resources n)
  by_cases hn : n = r
  · subst hn
    rw [Function.update_self]
    exact hf _
  · rw [Function.update_of_ne hn]
    exact ⟨rfl, rfl, rfl, rfl⟩

/-- Changing a record in its self reference only. -/
lemma Extends.modify (h : w.Extends w') (r : ℕ) {f : Resource → Resource}
    (hf : ∀ x, SameRecord (f x) x) : w.Extends (w'.modify r f) where
  __ := h
  cls n hn := (sameRecord_modify hf n).1.trans (h.cls n hn)
  owner n hn := (sameRecord_modify hf n).2.1.trans (h.owner n hn)
  target n hn := (sameRecord_modify hf n).2.2.1.trans (h.target n hn)
  data n hn := (sameRecord_modify hf n).2.2.2.trans (h.data n hn)

/-- A new object gets the next number, -/
lemma Extends.allocate (w : World) (x : Resource) : w.Extends (w.allocate x) where
  next_le := Nat.le_succ _
  next_succ := le_rfl
  live_sub := Finset.subset_insert _ _
  live_new y hy hy' := by
    rcases Finset.mem_insert.mp hy with rfl | hy
    · rfl
    · exact absurd hy hy'
  cls r hr := by simp [World.allocate, hr.ne]
  owner r hr := by simp [World.allocate, hr.ne]
  target r hr := by simp [World.allocate, hr.ne]
  data r hr := by
    by_cases hrn : r = w.next
    · exact absurd (hrn ▸ Finset.mem_insert_self _ _) (hr.resolve_left (by omega))
    · simp [World.allocate, hrn]
  refs _ hx := absurd hx (lt_irrefl _)
  released := rfl

/-- and so does a new loop. -/
lemma Extends.createLoop (w : World) (d : LoopDeleter) : w.Extends (w.createLoop d) where
  next_le := Nat.le_succ _
  next_succ := le_rfl
  live_sub := Finset.subset_insert _ _
  live_new y hy hy' := by
    rcases Finset.mem_insert.mp hy with rfl | hy
    · rfl
    · exact absurd hy hy'
  cls _ _ := rfl
  owner _ _ := rfl
  target _ _ := rfl
  data _ _ := rfl
  refs y hy := by
    by_cases hyn : y = .loop w.next
    · exact Or.inr (hyn ▸ rfl)
    · simp [World.createLoop, hyn] at hy
  released := rfl

/-- Changes outside the records, the references and the set of live objects. -/
lemma Extends.congr {v : World} (h : w.Extends v) (hnext : w'.next = v.next)
    (hlive : w'.live = v.live) (hres : w'.resources = v.resources) (hrefs : w'.refs = v.refs)
    (hrel : w'.released = v.released) : w.Extends w' := by
  obtain ⟨h1, h2, h3, h4, h5, h6, h7, h8, h9, h10⟩ := h
  constructor <;> simp only [hnext, hlive, hres, hrefs, hrel] <;> assumption

/-- A pointer to something visible or new is copied -/
lemma Extends.acquire (h : w.Extends w') {x : Obj} (hx : w.Visible x ∨ x.id = w.next) :
    w.Extends (w'.acquire x) where
  __ := h
  refs y hy := by
    by_cases hyx : y = x
    · exact hyx ▸ hx
    · exact h.refs y (by simpa [World.acquire, hyx] using hy)

/-- or released. -/
lemma Extends.release (h : w.Extends w') (x : Obj) : w.Extends (w'.release x) where
  __ := h
  refs y hy := by
    by_cases hyx : y = x
    · exact h.refs y (by simp [World.release, hyx] at hy ⊢; omega)
    · exact h.refs y (by simpa [World.release, hyx] using hy)

/-- An initialisation changes a self reference at most. -/
lemma Extends.initHandle (h : w.Extends w') (t : ℕ) (code : Int) :
    w.Extends (w'.initHandle t code) := by
  rcases initHandle_cases w' t code with hinit | hinit <;> rw [hinit]
  · exact h
  · have huv : w.Extends (w'.uvInit t code) := h.congr rfl rfl rfl rfl rfl
    exact huv.modify t (sameRecord_leakIf code)

/-- A start changes no record. -/
lemma Extends.start (w : World) (t : ℕ) (code : Int) : w.Extends (w.start t code) := by
  rcases start_cases w t code with heq | ⟨_, _, heq⟩ <;> rw [heq]
  · exact .refl w
  · exact (Extends.refl w).congr rfl rfl rfl rfl rfl

/-- A submission changes a self reference at most. -/
lemma Extends.submit (h : w.Extends w') (r : ℕ) (code : Int) : w.Extends (w'.submit r code) := by
  refine Extends.modify (h.congr ?_ ?_ ?_ ?_ ?_) r (sameRecord_leakIf code) <;>
    (unfold World.uvSubmit; split <;> rfl)

/-- An operation creates a request and submits it. -/
lemma Extends.operate (w : World) (t : ℕ) (op : StreamOp) (data : Option DataDeleter)
    (code : Int) : w.Extends (w.operate t op data code) :=
  ((Extends.allocate w _).submit _ code).congr rfl rfl rfl rfl rfl

/-- `uninitialized_resource` creates an object, -/
lemma Extends.uninitializedResource (w : World) (cls : ResourceClass) (l : ℕ) :
    w.Extends (w.uninitializedResource cls l) :=
  (Extends.allocate w _).acquire (Or.inr rfl)

/-- and `resource` initialises it, or gives it up again. -/
lemma Extends.resource (w : World) (cls : ResourceClass) (l : ℕ) (code : Int) :
    w.Extends (w.resource cls l code).1 := by
  have hnew := Extends.uninitializedResource w cls l
  rcases resource_cases w cls l code with hres | ⟨c, rfl, hres | hres⟩ <;> rw [hres]
  · exact hnew
  · exact hnew.initHandle _ _
  · exact (hnew.initHandle _ _).release _

/-- **Records are kept**: an action changes nothing in the existing records but self references. -/
lemma extends_exec (hexec : w.exec a = some w') : w.Extends w' := by
  have hrefl := Extends.refl w
  cases a with
  | createLoop d =>
    obtain rfl := Option.some.inj hexec
    exact Extends.createLoop w d
  | closeLoop l =>
    obtain ⟨_, rfl⟩ := by simpa [World.exec] using hexec
    exact hrefl.congr rfl rfl rfl rfl rfl
  | run l =>
    obtain ⟨_, rfl⟩ := by simpa [World.exec] using hexec
    exact hrefl.congr rfl rfl rfl rfl rfl
  | runEnd =>
    obtain ⟨_, rfl⟩ := by simpa [World.exec] using hexec
    exact hrefl.congr rfl rfl rfl rfl rfl
  | copy x =>
    obtain ⟨hx, rfl⟩ := by simpa [World.exec] using hexec
    exact hrefl.acquire (Or.inl hx)
  | drop x =>
    obtain ⟨_, rfl⟩ := by simpa [World.exec] using hexec
    exact hrefl.release x
  | create cls l =>
    obtain ⟨_, rfl⟩ := by simpa [World.exec] using hexec
    exact Extends.uninitializedResource w cls l
  | init t code =>
    obtain ⟨_, rfl⟩ := by simpa [World.exec] using hexec
    exact hrefl.initHandle t code
  | resource cls l code =>
    obtain ⟨_, rfl⟩ := by simpa [World.exec] using hexec
    exact Extends.resource w cls l code
  | spawn t code registered =>
    obtain ⟨_, rfl⟩ := by simpa [World.exec] using hexec
    exact (hrefl.modify t (sameRecord_leakIf 0)).congr rfl rfl rfl rfl rfl
  | start t code =>
    obtain ⟨_, rfl⟩ := by simpa [World.exec] using hexec
    exact Extends.start w t code
  | call t =>
    obtain ⟨_, rfl⟩ := by simpa [World.exec] using hexec
    exact hrefl
  | close t =>
    obtain ⟨_, rfl⟩ := by simpa [World.exec] using hexec
    unfold World.close
    split
    · exact hrefl
    · exact hrefl.congr rfl rfl rfl rfl rfl
  | closeReset t code =>
    obtain ⟨_, rfl⟩ := by simpa [World.exec] using hexec
    unfold World.closeReset
    split
    · exact hrefl.congr rfl rfl rfl rfl rfl
    · exact hrefl
  | submit r code =>
    obtain ⟨_, rfl⟩ := by simpa [World.exec] using hexec
    exact hrefl.submit r code
  | cancel r =>
    obtain ⟨_, rfl⟩ := by simpa [World.exec] using hexec
    exact hrefl
  | write t | shutdown t | connect t | send t =>
    obtain ⟨_, rfl⟩ := by simpa [World.exec] using hexec
    exact Extends.operate w t _ _ _
  | complete r status =>
    obtain ⟨c, _, _, rfl⟩ := exec_complete hexec
    unfold World.complete World.completionCallback
    dsimp only
    split
    · exact Extends.congr (hrefl.modify r (f := (·.selfReset)) fun x => ⟨rfl, rfl, rfl, rfl⟩) rfl rfl rfl
        rfl rfl
    · exact hrefl.congr rfl rfl rfl rfl rfl
  | callback t cb =>
    obtain ⟨_, rfl⟩ := exec_callback hexec
    unfold World.handleCallback
    split <;> exact hrefl.congr rfl rfl rfl rfl rfl
  | closeCallback t =>
    obtain ⟨_, rfl⟩ := by simpa [World.exec] using hexec
    unfold World.closeCallback
    dsimp only
    split
    · exact Extends.congr (hrefl.modify t (f := (·.selfReset)) fun x => ⟨rfl, rfl, rfl, rfl⟩) rfl rfl rfl
        rfl rfl
    · exact hrefl.congr rfl rfl rfl rfl rfl
  | ret =>
    obtain ⟨_, rfl⟩ := by simpa [World.exec] using hexec
    exact hrefl.congr rfl rfl rfl rfl rfl

/-! ## The cases -/

/-- The record of the next object is still the default one. -/
lemma Inv.target_next (h : w.Inv) (t : ℕ) : (w.resources w.next).target ≠ some t := by
  rw [h.fresh_resource w.next le_rfl]
  simp [default, Resource.construct]

/-- A new object has no target. -/
lemma uninitializedResource_target (cls : ResourceClass) (l t : ℕ) :
    ((w.uninitializedResource cls l).resources w.next).target ≠ some t := by
  rw [uninitializedResource_resources]
  simp [Resource.construct]

/-- Taking a self reference leaves the listeners of the record alone. -/
lemma modify_leakIf_target (w : World) (t r : ℕ) (code : Int) :
    ((w.modify t (·.leakIf code)).resources r).target = (w.resources r).target := by
  by_cases hr : r = t
  · simp [World.modify, hr]
  · simp [World.modify, hr]

/-- The state of libuv's handle after an initialisation. -/
lemma init_state (p : Prop) [Decidable p] :
    (if p then UvHandle.open else .failed) = .open ∨
      (if p then UvHandle.open else .failed) = .failed := by
  by_cases hp : p
  · exact Or.inl (if_pos hp)
  · exact Or.inr (if_neg hp)

/-- An operation that is possible creates its request and has it accepted or not. -/
lemma change_operate {t : ℕ} {op : StreamOp} {data : Option DataDeleter} {code : Int}
    (hop : w.CanOperate t op code) : w.Change (w.operate t op data code) := by
  refine .operate t op data code hop.2.2 ?_ ?_ ?_ ?_ ?_ ?_ ?_ ?_ ?_ ?_ <;>
    by_cases hcode : code = 0 <;>
      simp [World.operate, World.submit, World.uvSubmit, World.modify, World.record, World.allocate,
        Resource.construct, hcode]

/-- **What one action changes**: every action falls under one of the cases of `Change`. -/
theorem Inv.change (h : w.Inv) (hexec : w.exec a = some w') : w.Change w' := by
  have hnext := h.target_next
  cases a with
  | createLoop d =>
    obtain rfl := Option.some.inj hexec
    exact .quiet rfl rfl rfl (Or.inl rfl) hnext
  | closeLoop l =>
    obtain ⟨_, rfl⟩ := by simpa [World.exec] using hexec
    exact .quiet rfl rfl rfl (Or.inl rfl) hnext
  | run l =>
    obtain ⟨_, rfl⟩ := by simpa [World.exec] using hexec
    exact .quiet rfl rfl rfl (Or.inr (Or.inl ⟨l, rfl⟩)) hnext
  | runEnd =>
    obtain ⟨_, rfl⟩ := by simpa [World.exec] using hexec
    exact .quiet rfl rfl rfl (Or.inr (Or.inr rfl)) hnext
  | copy x =>
    obtain ⟨_, rfl⟩ := by simpa [World.exec] using hexec
    exact .quiet rfl rfl rfl (Or.inl rfl) hnext
  | drop x =>
    obtain ⟨_, rfl⟩ := by simpa [World.exec] using hexec
    exact .quiet rfl rfl rfl (Or.inl rfl) hnext
  | create cls l =>
    obtain ⟨_, rfl⟩ := by simpa [World.exec] using hexec
    exact .quiet rfl rfl rfl (Or.inl rfl) (uninitializedResource_target cls l)
  | init t code =>
    obtain ⟨⟨_, hold, _⟩, rfl⟩ := by simpa [World.exec] using hexec
    rcases initHandle_cases w t code with hinit | hinit <;> rw [hinit]
    · exact .quiet rfl rfl rfl (Or.inl rfl) hnext
    · exact .init t _ hold (init_state _) rfl rfl rfl rfl fun u =>
        (modify_leakIf_target _ _ _ _).trans_ne (hnext u)
  | resource cls l code =>
    obtain ⟨_, rfl⟩ := by simpa [World.exec] using hexec
    have hold : w.uvHandle w.next = .none := h.fresh_handle _ le_rfl
    have hnew := uninitializedResource_target (w := w) cls l
    rcases resource_cases w cls l code with hres | ⟨c, rfl, hres⟩
    · exact hres ▸ .quiet rfl rfl rfl (Or.inl rfl) hnew
    rcases initHandle_cases (w.uninitializedResource (.handle c) l) w.next code with hinit | hinit
    · rcases hres with hres | hres <;> rw [hres, hinit] <;>
        exact .quiet rfl rfl rfl (Or.inl rfl) hnew
    · rcases hres with hres | hres <;> rw [hres, hinit] <;>
        exact .init w.next _ hold (init_state _) rfl rfl rfl rfl fun u =>
          (modify_leakIf_target _ _ _ _).trans_ne (hnew u)
  | spawn t code registered =>
    obtain ⟨⟨_, _, hold, _⟩, rfl⟩ := by simpa [World.exec] using hexec
    exact .init t _ hold (init_state _) rfl rfl rfl rfl fun u =>
      (modify_leakIf_target _ _ _ _).trans_ne (hnext u)
  | start t code =>
    obtain ⟨_, rfl⟩ := by simpa [World.exec] using hexec
    rcases start_cases w t code with heq | ⟨_, _, heq⟩ <;> rw [heq] <;>
      exact .quiet rfl rfl rfl (Or.inl rfl) hnext
  | call t =>
    obtain ⟨_, rfl⟩ := by simpa [World.exec] using hexec
    exact .quiet rfl rfl rfl (Or.inl rfl) hnext
  | close t =>
    obtain ⟨⟨_, hnone, hfailed⟩, rfl⟩ := by simpa [World.exec] using hexec
    unfold World.close World.closing
    split
    · exact .quiet rfl rfl rfl (Or.inl rfl) hnext
    · have hold : w.uvHandle t = .open := by
        cases hst : w.uvHandle t <;> simp_all
      exact .close t hold (by rw [hold]; rfl) rfl rfl rfl rfl
  | closeReset t code =>
    obtain ⟨⟨_, _, hst⟩, rfl⟩ := by simpa [World.exec] using hexec
    unfold World.closeReset
    split
    · have hold : w.uvHandle t = .open := hst.resolve_right fun hcl => hcl.2 ‹code = 0›
      exact .closeReset t hold rfl rfl rfl rfl rfl
    · exact .quiet rfl rfl rfl (Or.inl rfl) hnext
  | submit r code =>
    obtain ⟨⟨⟨hlive, hreq, htarget⟩, _⟩, rfl⟩ := by simpa [World.exec] using hexec
    by_cases hcode : code = 0
    · refine .submit r (h.live_lt _ hlive) (by simpa [Resource.isRequest] using hreq) htarget ?_ ?_
        ?_ ?_ ?_ <;> simp [World.submit, World.uvSubmit, World.modify, hcode]
    · rw [submit_of_ne_zero hcode]
      exact .quiet rfl rfl rfl (Or.inl rfl) hnext
  | cancel r =>
    obtain ⟨_, rfl⟩ := by simpa [World.exec] using hexec
    exact .quiet rfl rfl rfl (Or.inl rfl) hnext
  | write | shutdown | connect | send =>
    obtain ⟨hop, rfl⟩ := by simpa [World.exec] using hexec
    exact change_operate hop
  | complete r status =>
    obtain ⟨c, hcls, hpend, rfl⟩ := exec_complete hexec
    have hlive := (h.pending_self r hpend).1
    refine .complete r c status hpend hcls ?_ ?_ ?_ ?_ ?_ <;>
      simp [World.complete, World.completionCallback, World.record, World.reserve, World.push,
        World.modify, World.publishCompletion, World.completionEntries, hlive]
    exact fun t ht => decide_eq_true (h.target_live r t hlive ht)
  | callback t cb =>
    obtain ⟨⟨hold, _, hhnd⟩, rfl⟩ := exec_callback hexec
    by_cases hlive : .resource t ∈ w.live
    · refine .callback t cb hold hlive hhnd ?_ ?_ ?_ ?_ ?_ <;>
        simp [World.handleCallback, hlive, World.push, World.record]
    · -- a registered handle owns itself, so this one is in libuv's queues by a late start
      have hlate := hold.resolve_left fun hreg => hlive (h.registered_self t hreg).1
      refine .dangling t hlate hlive ?_ ?_ ?_ ?_ ?_ <;>
        simp [World.handleCallback, hlive, World.record]
  | closeCallback t =>
    obtain ⟨⟨huv, _, hidle⟩, rfl⟩ := by simpa [World.exec] using hexec
    have hlive := (h.registered_self t (by simp [huv, UvHandle.registered])).1
    refine .closeCallback t huv hidle ?_ ?_ ?_ ?_ ?_ ?_ <;>
      simp [World.closeCallback, hlive, World.push, World.modify, World.record]
  | ret =>
    obtain ⟨_, rfl⟩ := by simpa [World.exec] using hexec
    exact .quiet rfl rfl rfl (Or.inr (Or.inr rfl)) hnext

/-! ## Runs -/

/-- What was created as a handle stays one. -/
lemma Extends.isHandle (h : w.Extends w') {r : ℕ} (hr : r < w.next) :
    (w'.resources r).isHandle = (w.resources r).isHandle := by
  unfold Resource.isHandle
  rw [h.cls r hr]

/-- A closed handle stays closed. -/
lemma Change.closed (h : w.Change w') {t : ℕ} (ht : w.uvHandle t = .closed) :
    w'.uvHandle t = .closed := by
  have hupdate : ∀ u st, w.uvHandle u ≠ .closed ∨ st = .closed →
      Function.update w.uvHandle u st t = .closed := by
    intro u st hst
    by_cases hu : t = u
    · subst hu
      rw [Function.update_self]
      exact hst.resolve_left (not_not_intro ht)
    · rw [Function.update_of_ne hu]
      exact ht
  cases h with
  | quiet _ _ huv => exact huv ▸ ht
  | init u st hold _ _ _ huv => exact huv ▸ hupdate u st (Or.inl (by simp [hold]))
  | close u hold _ _ huv => exact huv ▸ hupdate u .closing (Or.inl (by simp [hold]))
  | closeReset u hold _ _ huv => exact huv ▸ hupdate u .closing (Or.inl (by simp [hold]))
  | submit r _ _ _ _ _ huv => exact huv ▸ ht
  | operate u op data code _ _ _ _ _ _ _ _ huv => exact huv ▸ ht
  | complete r c status _ _ _ _ huv => exact huv ▸ ht
  | callback u cb _ _ _ _ _ huv => exact huv ▸ ht
  | dangling u _ _ _ _ huv => exact huv ▸ ht
  | closeCallback u _ _ _ _ _ huv => exact huv ▸ hupdate u .closed (Or.inr rfl)

/-- A handle that is closing or closed does not come back. -/
lemma Change.closing (hc : w.Change w') {t : ℕ} (ht : w.closing t = true) :
    w'.closing t = true := by
  simp only [World.closing, Bool.or_eq_true, decide_eq_true_eq] at ht ⊢
  rcases ht with hclosing | hclosed
  · cases hc with
    | init u st hold _ _ _ huv =>
      apply Or.inl
      rw [huv, Function.update_of_ne (by rintro rfl; simp [hold] at hclosing)]
      exact hclosing
    | close u hold _ _ huv =>
      apply Or.inl
      rw [huv, Function.update_of_ne (by rintro rfl; simp [hold] at hclosing)]
      exact hclosing
    | closeReset u hold _ _ huv =>
      apply Or.inl
      rw [huv, Function.update_of_ne (by rintro rfl; simp [hold] at hclosing)]
      exact hclosing
    | closeCallback u _ _ _ _ _ huv =>
      by_cases htu : t = u
      · exact Or.inr (by rw [huv, htu, Function.update_self])
      · exact Or.inl (by rw [huv, Function.update_of_ne htu]; exact hclosing)
    | quiet _ _ huv => exact Or.inl (huv ▸ hclosing)
    | submit r _ _ _ _ _ huv => exact Or.inl (huv ▸ hclosing)
    | operate u op data code _ _ _ _ _ _ _ _ huv => exact Or.inl (huv ▸ hclosing)
    | complete r c status _ _ _ _ huv => exact Or.inl (huv ▸ hclosing)
    | callback u cb _ _ _ _ _ huv => exact Or.inl (huv ▸ hclosing)
    | dangling u _ _ _ _ huv => exact Or.inl (huv ▸ hclosing)
  · exact Or.inr (hc.closed hclosed)

/-- The calls after an action: those before it, and the callback it starts. -/
lemma Change.mem_stack (h : w.Change w') {f : Frame} (hf : f ∈ w'.stack) :
    f ∈ w.stack ∨ (∃ l, f = .running l) ∨ (∃ r, f = .request r ∧ w.pending r = true) ∨
      (∃ t, f = .handle t) ∨ ∃ t, f = .closing t ∧ w'.uvHandle t = .closed := by
  cases h with
  | closeCallback u _ _ _ _ _ huv hstack =>
    rcases List.mem_cons.mp (hstack ▸ hf) with rfl | hf
    · exact Or.inr (Or.inr (Or.inr (Or.inr ⟨u, rfl, by rw [huv, Function.update_self]⟩)))
    · exact Or.inl hf
  | complete r c status hold _ _ _ _ hstack =>
    rcases List.mem_cons.mp (hstack ▸ hf) with rfl | hf
    · exact Or.inr (Or.inr (Or.inl ⟨r, rfl, hold⟩))
    · exact Or.inl hf
  | callback t cb _ _ _ _ _ _ hstack =>
    rcases List.mem_cons.mp (hstack ▸ hf) with rfl | hf
    · exact Or.inr (Or.inr (Or.inr (Or.inl ⟨t, rfl⟩)))
    · exact Or.inl hf
  | dangling t _ _ _ _ _ hstack => exact Or.inl (hstack ▸ hf)
  | quiet _ _ _ hstack =>
    rcases hstack with hstack | ⟨l, hstack⟩ | hstack
    · exact Or.inl (hstack ▸ hf)
    · rcases List.mem_cons.mp (hstack ▸ hf) with rfl | hf
      · exact Or.inr (Or.inl ⟨l, rfl⟩)
      · exact Or.inl hf
    · exact Or.inl (List.mem_of_mem_tail (hstack ▸ hf))
  | init t st _ _ _ _ _ hstack => exact Or.inl (hstack ▸ hf)
  | close t _ _ _ _ hstack => exact Or.inl (hstack ▸ hf)
  | closeReset t _ _ _ _ hstack => exact Or.inl (hstack ▸ hf)
  | submit r _ _ _ _ _ _ hstack => exact Or.inl (hstack ▸ hf)
  | operate t op data code _ _ _ _ _ _ _ _ _ hstack => exact Or.inl (hstack ▸ hf)

/-- Only a handle that was started after `uv_close` is called back when it is gone. -/
lemma Change.dangling_mem_log (h : w.Change w') {r : ℕ} (hr : .dangling r ∈ w'.log) :
    .dangling r ∈ w.log ∨ w.late r = true := by
  cases h with
  | complete s c status _ _ hlog => exact Or.inl (by simpa [hlog, completionEntries] using hr)
  | callback t cb _ _ _ hlog => exact Or.inl (by simpa [hlog] using hr)
  | dangling t hlate _ hlog =>
    rw [hlog, List.mem_append, List.mem_singleton] at hr
    rcases hr with hr | heq
    · exact Or.inl hr
    · obtain rfl := Entry.dangling.inj heq
      exact Or.inr hlate
  | _ => exact Or.inl (by simp_all)

/-! ## Starts after `uv_close` -/

/-- The action starts a handle that is closing or closed, and libuv accepts it. -/
def StartsLate (w : World) : Action → Prop
  | .start h code => code = 0 ∧ w.closing h = true
  | _ => False

instance (w : World) (a : Action) : Decidable (w.StartsLate a) := by
  unfold StartsLate
  split <;> infer_instance

/-- An initialisation starts nothing. -/
@[simp] lemma initHandle_late (w : World) (t : ℕ) (code : Int) :
    (w.initHandle t code).late = w.late := by
  rcases initHandle_cases w t code with hinit | hinit
  · rw [hinit]
  · rw [hinit]
    rfl

/-- Neither does a submission, -/
@[simp] lemma submit_late (w : World) (r : ℕ) (code : Int) : (w.submit r code).late = w.late := by
  unfold World.submit World.uvSubmit
  split <;> rfl

/-- nor an operation. -/
@[simp] lemma operate_late (w : World) (t : ℕ) (op : StreamOp) (data : Option DataDeleter)
    (code : Int) : (w.operate t op data code).late = w.late :=
  submit_late _ _ _

/-- **Late starts of one action**: at most that of the handle it starts, which exists and is
closing. -/
lemma late_exec (hexec : w.exec a = some w') :
    w'.late = w.late ∨
      ∃ t, a = .start t 0 ∧ .resource t ∈ w.live ∧ w.closing t = true ∧
        w'.late = Function.update w.late t true := by
  cases a with
  | start t code =>
    obtain ⟨hstart, rfl⟩ := by simpa [World.exec] using hexec
    rcases start_cases w t code with heq | ⟨rfl, hclosing, heq⟩ <;> rw [heq]
    · exact Or.inl rfl
    · exact Or.inr ⟨t, rfl, hstart.1.1, hclosing, rfl⟩
  | resource cls l code =>
    obtain ⟨_, rfl⟩ := by simpa [World.exec] using hexec
    apply Or.inl
    rcases resource_cases w cls l code with hres | ⟨c, rfl, hres | hres⟩ <;> rw [hres]
    · rfl
    · exact initHandle_late _ _ _
    · exact initHandle_late (w.uninitializedResource (.handle c) l) _ _
  | complete r status =>
    obtain ⟨c, _, _, rfl⟩ := exec_complete hexec
    unfold World.complete World.completionCallback
    dsimp only
    split <;> exact Or.inl rfl
  | callback t cb =>
    obtain ⟨_, rfl⟩ := exec_callback hexec
    unfold World.handleCallback
    split <;> exact Or.inl rfl
  | closeCallback t =>
    obtain ⟨_, rfl⟩ := by simpa [World.exec] using hexec
    unfold World.closeCallback
    dsimp only
    split <;> exact Or.inl rfl
  | close t =>
    obtain ⟨_, rfl⟩ := by simpa [World.exec] using hexec
    unfold World.close
    split <;> exact Or.inl rfl
  | closeReset t code =>
    obtain ⟨_, rfl⟩ := by simpa [World.exec] using hexec
    unfold World.closeReset
    split <;> exact Or.inl rfl
  | createLoop d =>
    obtain rfl := Option.some.inj hexec
    exact Or.inl rfl
  | init t code =>
    obtain ⟨_, rfl⟩ := by simpa [World.exec] using hexec
    exact Or.inl (initHandle_late ..)
  | submit r code =>
    obtain ⟨_, rfl⟩ := by simpa [World.exec] using hexec
    exact Or.inl (submit_late ..)
  | write | shutdown | connect | send =>
    obtain ⟨_, rfl⟩ := by simpa [World.exec] using hexec
    exact Or.inl (operate_late ..)
  | _ =>
    obtain ⟨_, rfl⟩ := by simpa [World.exec] using hexec
    exact Or.inl rfl

/-- Once started late, a handle counts as such. -/
lemma late_mono (hexec : w.exec a = some w') {t : ℕ} (ht : w.late t = true) :
    w'.late t = true := by
  rcases late_exec hexec with heq | ⟨u, _, _, _, heq⟩ <;> rw [heq]
  · exact ht
  · by_cases htu : t = u
    · rw [htu, Function.update_self]
    · rwa [Function.update_of_ne htu]

/-- A step that starts no closing handle leaves the handles as late as they were. -/
lemma late_of_not_startsLate (hexec : w.exec a = some w') (ha : ¬ w.StartsLate a) :
    w'.late = w.late := by
  rcases late_exec hexec with heq | ⟨t, rfl, _, hclosing, _⟩
  · exact heq
  · exact absurd ⟨rfl, hclosing⟩ ha

/-! ## Consistent worlds -/

/-- What holds of every world a program can reach. -/
structure Consistent (w : World) : Prop extends Inv w where
  settled : w.Settled
  request_frame : ∀ r, .request r ∈ w.stack → (w.resources r).isHandle = false
  closing_frame : ∀ h, .closing h ∈ w.stack → w.uvHandle h = .closed
  /-- What is started late is closing, -/
  late_closing : ∀ h, w.late h = true → w.closing h = true
  /-- and every other callback finds its resource. -/
  dangling_late : ∀ r, .dangling r ∈ w.log → w.late r = true

/-- Nothing has been created yet, so nothing is wrong. -/
lemma consistent_init : init.Consistent where
  __ := inv_init
  settled x hx := absurd hx (Finset.notMem_empty x)
  request_frame _ hr := absurd hr List.not_mem_nil
  closing_frame _ ht := absurd ht List.not_mem_nil
  late_closing _ ht := absurd ht Bool.false_ne_true
  dangling_late _ hr := absurd hr List.not_mem_nil

/-- **Step lemma** for the worlds a program can reach. -/
theorem consistent_step (h : w.Consistent) (hstep : w.step a = some w') : w'.Consistent := by
  have hinv := inv_step h.toInv hstep
  have hsettled := settled_step hstep
  obtain ⟨v, hexec, rfl⟩ := Option.map_eq_some_iff.mp hstep
  have hext := extends_exec hexec
  have hchange := h.toInv.change hexec
  refine
    { toInv := hinv
      settled := hsettled
      request_frame := ?_
      closing_frame := ?_
      late_closing := ?_
      dangling_late := fun r hr => late_mono hexec
        ((hchange.dangling_mem_log hr).elim (h.dangling_late r) id) }
  · intro r hr
    rcases hchange.mem_stack hr with hr | ⟨_, hf⟩ | ⟨s, hf, hs⟩ | ⟨_, hf⟩ | ⟨_, hf, _⟩
    · have hlive := h.held_live _ hr (.resource r) (List.mem_singleton_self _)
      exact (hext.isHandle (h.live_lt _ hlive)).trans (h.request_frame r hr)
    · cases hf
    · obtain rfl := Frame.request.inj hf
      obtain ⟨hlive, _, hreq⟩ := h.pending_self r hs
      exact (hext.isHandle (h.live_lt _ hlive)).trans hreq
    · cases hf
    · cases hf
  · intro t ht
    rcases hchange.mem_stack ht with ht | ⟨_, hf⟩ | ⟨_, hf, _⟩ | ⟨_, hf⟩ | ⟨s, hf, hs⟩
    · exact hchange.closed (h.closing_frame t ht)
    · cases hf
    · cases hf
    · cases hf
    · obtain rfl := Frame.closing.inj hf
      exact hs
  · intro t ht
    apply hchange.closing
    rcases late_exec hexec with heq | ⟨u, _, _, hclosing, heq⟩
    · exact h.late_closing t (heq ▸ ht)
    · by_cases htu : t = u
      · exact htu ▸ hclosing
      · rw [settle_late, heq, Function.update_of_ne htu] at ht
        exact h.late_closing t ht

/-- libuv knows a handle that was started late, -/
lemma Consistent.late_ne_none (h : w.Consistent) {t : ℕ} (ht : w.late t = true) :
    w.uvHandle t ≠ .none := by
  have hclosing := h.late_closing t ht
  intro hnone
  simp [World.closing, hnone] at hclosing

/-- so it is a handle -/
lemma Consistent.late_isHandle (h : w.Consistent) {t : ℕ} (ht : w.late t = true) :
    (w.resources t).isHandle = true :=
  h.uv_handle t (h.late_ne_none ht)

/-- that was created. -/
lemma Consistent.late_lt (h : w.Consistent) {t : ℕ} (ht : w.late t = true) : t < w.next := by
  by_contra hle
  exact h.late_ne_none ht (h.fresh_handle t (by omega))

/-- Every callback of a request finds it. -/
lemma Consistent.no_dangling_request (h : w.Consistent) {r : ℕ}
    (hreq : (w.resources r).isRequest = true) : .dangling r ∉ w.log := by
  intro hr
  simp [Resource.isRequest, h.late_isHandle (h.dangling_late r hr)] at hreq

/-- What follows from consistency holds of every world met by a run. -/
lemma visits_of_consistent {P : World → Prop} (hP : ∀ w, w.Consistent → P w) (as : List Action) :
    TransitionSystem.Visits World.step P init as :=
  TransitionSystem.visits_of_invariant hP (fun _ _ _ => consistent_step) consistent_init

end World

end Uvw
