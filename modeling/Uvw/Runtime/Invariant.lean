import Uvw.Runtime.Step

/-!
# The ownership invariant

`World.Inv` is the invariant behind the results on requests, handles and loops: no reference leads
to a destroyed object, a request owns itself exactly while libuv holds an accepted operation of it,
and a handle owns itself exactly while libuv has it registered, up to process handles whose spawn
failed without registering them.  `World.inv_step` is its step lemma; `World.settled_step` says that
a step leaves only objects somebody refers to.
-/

namespace Uvw

namespace World

/-- What holds of a world between two actions, whatever has been destroyed so far. -/
structure Inv (w : World) : Prop where
  live_lt : ∀ x ∈ w.live, x.id < w.next
  fresh_handle : ∀ n, w.next ≤ n → w.uvHandle n = .none
  fresh_pending : ∀ n, w.next ≤ n → w.pending n = false
  fresh_resource : ∀ n, w.next ≤ n → w.resources n = default
  /-- The program's references lead to live objects. -/
  refs_live : ∀ x, 0 < w.refs x → x ∈ w.live
  /-- So do those of the running callbacks, -/
  held_live : ∀ f ∈ w.stack, ∀ x ∈ f.held, x ∈ w.live
  /-- the `owner` of a live resource, -/
  owner_live : ∀ r, .resource r ∈ w.live → .loop (w.resources r).owner ∈ w.live
  /-- and what its listeners capture. -/
  target_live : ∀ r h, .resource r ∈ w.live → (w.resources r).target = some h →
    .resource h ∈ w.live
  target_handle : ∀ r h, (w.resources r).target = some h →
    (w.resources r).isHandle = false ∧ (w.resources h).isHandle = true ∧ h < w.next
  /-- An accepted operation keeps its request alive. -/
  pending_self : ∀ r, w.pending r = true →
    .resource r ∈ w.live ∧ (w.resources r).selfPtr = true ∧ (w.resources r).isHandle = false
  self_pending : ∀ r, (w.resources r).isHandle = false → (w.resources r).selfPtr = true →
    w.pending r = true
  /-- A registered handle keeps itself alive. -/
  registered_self : ∀ h, (w.uvHandle h).registered = true →
    .resource h ∈ w.live ∧ (w.resources h).selfPtr = true
  self_registered : ∀ h, (w.resources h).isHandle = true → (w.resources h).selfPtr = true →
    (w.uvHandle h).registered = true ∨
      (w.resources h).cls = .handle .process ∧ w.uvHandle h = .failed
  uv_handle : ∀ h, w.uvHandle h ≠ .none → (w.resources h).isHandle = true

/-- Every live object is referred to. -/
def Settled (w : World) : Prop := w.graph.Supported w.live

variable {w w' : World}

/-! ## The ownership graph -/

/-- A resource owns itself through the self reference, or as its own target, -/
lemma mem_owned_self {r : ℕ} : .resource r ∈ w.owned (.resource r) ↔
    (w.resources r).selfPtr = true ∨ (w.resources r).target = some r := by
  simp [owned]

/-- its loop, -/
lemma mem_owned_loop {r l : ℕ} : .loop l ∈ w.owned (.resource r) ↔ (w.resources r).owner = l := by
  have hself : .loop l ∉ if (w.resources r).selfPtr then [Obj.resource r] else [] := by
    split <;> simp
  simp only [owned, List.mem_append, hself, List.mem_cons, Obj.loop.injEq, List.mem_map,
    reduceCtorEq, and_false, exists_false, or_false, false_or]
  exact eq_comm

/-- and the handle that its listeners captured. -/
lemma mem_owned_resource {r h : ℕ} : .resource h ∈ w.owned (.resource r) ↔
    (w.resources r).selfPtr = true ∧ h = r ∨ (w.resources r).target = some h := by
  simp [owned]

/-- The program or a call being executed holds the object. -/
lemma roots_pos_iff {x : Obj} : 0 < w.graph.roots x ↔ 0 < w.refs x ∨ ∃ f ∈ w.stack, x ∈ f.held := by
  simp [graph, roots, List.count_pos_iff]

/-- The references an object is kept alive by. -/
lemma useCount_pos_iff {live : Finset Obj} {x : Obj} :
    0 < w.graph.useCount live x ↔
      0 < w.refs x ∨ (∃ f ∈ w.stack, x ∈ f.held) ∨ ∃ r, .resource r ∈ live ∧ x ∈ w.owned (.resource r) := by
  rw [OwnershipGraph.useCount_pos_iff, roots_pos_iff, or_assoc]
  refine or_congr_right (or_congr_right ⟨?_, ?_⟩)
  · rintro ⟨y, hy, hx⟩
    cases y with
    | loop l => simp [graph, owned] at hx
    | resource r => exact ⟨r, hy, hx⟩
  · rintro ⟨r, hr, hx⟩
    exact ⟨_, hr, hx⟩

/-- Under the invariant no reference dangles. -/
lemma Inv.noDangling (h : w.Inv) : w.graph.NoDangling w.live := by
  intro x hx
  rcases useCount_pos_iff.mp hx with hrefs | ⟨f, hf, hheld⟩ | ⟨r, hr, howned⟩
  · exact h.refs_live x hrefs
  · exact h.held_live f hf x hheld
  · cases x with
    | loop l =>
      rw [mem_owned_loop] at howned
      exact howned ▸ h.owner_live r hr
    | resource t =>
      rcases mem_owned_resource.mp howned with ⟨_, rfl⟩ | htarget
      · exact hr
      · exact h.target_live r t hr htarget

/-! ## Destruction -/

@[simp] lemma settle_live : w.settle.live = w.graph.settle w.live := rfl
@[simp] lemma settle_resources : w.settle.resources = w.resources := rfl
@[simp] lemma settle_refs : w.settle.refs = w.refs := rfl
@[simp] lemma settle_stack : w.settle.stack = w.stack := rfl
@[simp] lemma settle_pending : w.settle.pending = w.pending := rfl
@[simp] lemma settle_uvHandle : w.settle.uvHandle = w.uvHandle := rfl
@[simp] lemma settle_late : w.settle.late = w.late := rfl
@[simp] lemma settle_next : w.settle.next = w.next := rfl
@[simp] lemma settle_log : w.settle.log = w.log := rfl

/-- A self-owning object survives. -/
lemma mem_settle_of_self {r : ℕ} (hlive : .resource r ∈ w.live)
    (hself : (w.resources r).selfPtr = true) : .resource r ∈ w.settle.live :=
  OwnershipGraph.mem_settle_of_owns_self hlive (mem_owned_self.mpr (Or.inl hself))

/-- Destruction keeps the invariant: it only takes objects nothing refers to. -/
lemma Inv.settle (h : w.Inv) : w.settle.Inv where
  live_lt x hx := h.live_lt x (OwnershipGraph.settle_subset hx)
  fresh_handle := h.fresh_handle
  fresh_pending := h.fresh_pending
  fresh_resource := h.fresh_resource
  refs_live x hx := OwnershipGraph.mem_settle_of_root (h.refs_live x hx)
    (roots_pos_iff.mpr (Or.inl hx))
  held_live f hf x hx := OwnershipGraph.mem_settle_of_root (h.held_live f hf x hx)
    (roots_pos_iff.mpr (Or.inr ⟨f, hf, hx⟩))
  owner_live _ hr := h.noDangling.mem_settle_of_owner hr (mem_owned_loop.mpr rfl)
  target_live _ _ hr ht := h.noDangling.mem_settle_of_owner hr
    (mem_owned_resource.mpr (Or.inr ht))
  target_handle := h.target_handle
  pending_self r hr :=
    ⟨mem_settle_of_self (h.pending_self r hr).1 (h.pending_self r hr).2.1,
      (h.pending_self r hr).2⟩
  self_pending := h.self_pending
  registered_self t ht :=
    ⟨mem_settle_of_self (h.registered_self t ht).1 (h.registered_self t ht).2,
      (h.registered_self t ht).2⟩
  self_registered := h.self_registered
  uv_handle := h.uv_handle

/-- After destruction every live object is referred to. -/
lemma settled_settle : w.settle.Settled := by
  change w.graph.Supported (w.graph.settle w.live)
  exact OwnershipGraph.settle_supported

/-! ## One resource -/

/-- The self reference of a resource fits what libuv has of it. -/
structure SelfFits (x : Resource) (st : UvHandle) (pending : Bool) : Prop where
  pending_self : pending = true → x.selfPtr = true ∧ x.isHandle = false
  self_pending : x.isHandle = false → x.selfPtr = true → pending = true
  registered_self : st.registered = true → x.selfPtr = true
  self_registered : x.isHandle = true → x.selfPtr = true →
    st.registered = true ∨ x.cls = .handle .process ∧ st = .failed
  uv_handle : st ≠ .none → x.isHandle = true

/-- The self reference of a resource fits what libuv has of it. -/
lemma Inv.selfFits (h : w.Inv) (r : ℕ) :
    SelfFits (w.resources r) (w.uvHandle r) (w.pending r) where
  pending_self hr := (h.pending_self r hr).2
  self_pending := h.self_pending r
  registered_self hr := (h.registered_self r hr).2
  self_registered := h.self_registered r
  uv_handle := h.uv_handle r

/-- A live resource may change its self reference together with what libuv has of it, if these fit
afterwards, and a call may start or return, if what it holds is alive. -/
lemma Inv.update (h : w.Inv) {r : ℕ} {x : Resource} {st : UvHandle} {p : Bool}
    (hlive : .resource r ∈ w.live) (hcls : x.cls = (w.resources r).cls)
    (howner : x.owner = (w.resources r).owner) (htarget : x.target = (w.resources r).target)
    (hfits : SelfFits x st p) (hheld : ∀ f ∈ w'.stack, ∀ y ∈ f.held, y ∈ w.live)
    (hnext' : w'.next = w.next) (hlive' : w'.live = w.live) (hrefs' : w'.refs = w.refs)
    (hres' : w'.resources = Function.update w.resources r x)
    (huv' : w'.uvHandle = Function.update w.uvHandle r st)
    (hpend' : w'.pending = Function.update w.pending r p) : w'.Inv := by
  have hlt : r < w.next := h.live_lt _ hlive
  have hhnd : x.isHandle = (w.resources r).isHandle := by
    unfold Resource.isHandle
    rw [hcls]
  -- what the records keep
  have hsame : ∀ n, (w'.resources n).isHandle = (w.resources n).isHandle ∧
      (w'.resources n).owner = (w.resources n).owner ∧
      (w'.resources n).target = (w.resources n).target := by
    intro n
    by_cases hn : n = r
    · subst hn
      rw [hres', Function.update_self]
      exact ⟨hhnd, howner, htarget⟩
    · rw [hres', Function.update_of_ne hn]
      exact ⟨rfl, rfl, rfl⟩
  -- what fits did so before, or is the resource itself
  have hfit : ∀ n, SelfFits (w'.resources n) (w'.uvHandle n) (w'.pending n) := by
    intro n
    by_cases hn : n = r
    · subst hn
      rw [hres', huv', hpend', Function.update_self, Function.update_self, Function.update_self]
      exact hfits
    · rw [hres', huv', hpend', Function.update_of_ne hn, Function.update_of_ne hn,
        Function.update_of_ne hn]
      exact h.selfFits n
  -- nothing beyond the live resources has changed
  have hfresh : ∀ n, w.next ≤ n → n ≠ r := fun n hn => by omega
  constructor
  · exact fun y hy => hnext' ▸ h.live_lt y (hlive' ▸ hy)
  · intro n hn
    rw [huv', Function.update_of_ne (hfresh n (hnext' ▸ hn))]
    exact h.fresh_handle n (hnext' ▸ hn)
  · intro n hn
    rw [hpend', Function.update_of_ne (hfresh n (hnext' ▸ hn))]
    exact h.fresh_pending n (hnext' ▸ hn)
  · intro n hn
    rw [hres', Function.update_of_ne (hfresh n (hnext' ▸ hn))]
    exact h.fresh_resource n (hnext' ▸ hn)
  · exact fun y hy => hlive' ▸ h.refs_live y (hrefs' ▸ hy)
  · exact fun f hf y hy => hlive' ▸ hheld f hf y hy
  · intro n hn
    rw [(hsame n).2.1, hlive']
    exact h.owner_live n (hlive' ▸ hn)
  · intro n t hn ht
    rw [hlive']
    exact h.target_live n t (hlive' ▸ hn) ((hsame n).2.2 ▸ ht)
  · intro n t ht
    rw [(hsame n).1, (hsame t).1, hnext']
    exact h.target_handle n t ((hsame n).2.2 ▸ ht)
  · intro n hn
    refine ⟨?_, (hfit n).pending_self hn⟩
    rw [hlive']
    by_cases hnr : n = r
    · exact hnr ▸ hlive
    · rw [hpend', Function.update_of_ne hnr] at hn
      exact (h.pending_self n hn).1
  · exact fun n => (hfit n).self_pending
  · intro n hn
    refine ⟨?_, (hfit n).registered_self hn⟩
    rw [hlive']
    by_cases hnr : n = r
    · exact hnr ▸ hlive
    · rw [huv', Function.update_of_ne hnr] at hn
      exact (h.registered_self n hn).1
  · exact fun n => (hfit n).self_registered
  · exact fun n => (hfit n).uv_handle

/-! ## Actions -/

/-- Nothing has been created yet. -/
lemma inv_init : init.Inv := by
  constructor <;> simp [init, Resource.isHandle, UvHandle.registered, default, Resource.construct]

/-- A start leaves everything as it is, or is an accepted start of a closing handle. -/
lemma start_cases (w : World) (t : ℕ) (code : Int) :
    w.start t code = w ∨ code = 0 ∧ w.closing t = true ∧
      w.start t code = { w with late := Function.update w.late t true } := by
  unfold World.start
  split
  next hlate => exact Or.inr ⟨hlate.1, hlate.2, rfl⟩
  next => exact Or.inl rfl

/-- The invariant does not read the history. -/
lemma Inv.record (h : w.Inv) (es : List Entry) : (w.record es).Inv :=
  ⟨h.1, h.2, h.3, h.4, h.5, h.6, h.7, h.8, h.9, h.10, h.11, h.12, h.13, h.14⟩

/-- Nor does it read what `uv_loop_close` does, -/
lemma Inv.closeLoop (h : w.Inv) (l : ℕ) : (w.closeLoop l).Inv :=
  ⟨h.1, h.2, h.3, h.4, h.5, h.6, h.7, h.8, h.9, h.10, h.11, h.12, h.13, h.14⟩

/-- or which handles are started after `uv_close`. -/
lemma Inv.start (h : w.Inv) (t : ℕ) (code : Int) : (w.start t code).Inv := by
  rcases start_cases w t code with heq | ⟨_, _, heq⟩ <;> rw [heq]
  · exact h
  · exact ⟨h.1, h.2, h.3, h.4, h.5, h.6, h.7, h.8, h.9, h.10, h.11, h.12, h.13, h.14⟩

/-- A pointer to an object that exists is copied -/
lemma Inv.acquire (h : w.Inv) {x : Obj} (hx : x ∈ w.live) : (w.acquire x).Inv where
  __ := h
  refs_live y hy := by
    by_cases hyx : y = x
    · exact hyx ▸ hx
    · exact h.refs_live y (by simpa [World.acquire, hyx] using hy)

/-- or released. -/
lemma Inv.release (h : w.Inv) (x : Obj) : (w.release x).Inv where
  __ := h
  refs_live y hy := by
    by_cases hyx : y = x
    · exact h.refs_live y (by simp [World.release, hyx] at hy ⊢; omega)
    · exact h.refs_live y (by simpa [World.release, hyx] using hy)

/-- A call may start that holds live objects only. -/
lemma Inv.held_cons (h : w.Inv) {f : Frame} (hf : ∀ x ∈ f.held, x ∈ w.live) :
    ∀ g ∈ f :: w.stack, ∀ x ∈ g.held, x ∈ w.live := by
  intro g hg
  rcases List.mem_cons.mp hg with rfl | hg
  · exact hf
  · exact h.held_live g hg

/-- A call starts with what exists -/
lemma Inv.push (h : w.Inv) {f : Frame} (hf : ∀ x ∈ f.held, x ∈ w.live) : (w.push f).Inv where
  __ := h
  held_live := h.held_cons hf

/-- and returns. -/
lemma Inv.pop (h : w.Inv) : w.pop.Inv where
  __ := h
  held_live g hg := h.held_live g (List.mem_of_mem_tail hg)

/-- The next number is free. -/
lemma not_mem_live_next (h : w.Inv) {x : Obj} (hx : x.id = w.next) : x ∉ w.live :=
  fun hmem => absurd (h.live_lt x hmem) (by omega)

/-- A loop is created under the next number. -/
lemma Inv.createLoop (h : w.Inv) (d : LoopDeleter) : (w.createLoop d).Inv where
  live_lt x hx := by
    rcases Finset.mem_insert.mp hx with rfl | hx
    · exact Nat.lt_succ_self _
    · exact (h.live_lt x hx).trans (Nat.lt_succ_self _)
  fresh_handle n hn := h.fresh_handle n (Nat.le_of_succ_le hn)
  fresh_pending n hn := h.fresh_pending n (Nat.le_of_succ_le hn)
  fresh_resource n hn := h.fresh_resource n (Nat.le_of_succ_le hn)
  refs_live x hx := by
    by_cases hxn : x = .loop w.next
    · exact Finset.mem_insert.mpr (Or.inl hxn)
    · refine Finset.mem_insert_of_mem (h.refs_live x ?_)
      simpa [World.createLoop, hxn] using hx
  held_live f hf x hx := Finset.mem_insert_of_mem (h.held_live f hf x hx)
  owner_live r hr := by
    have hr : .resource r ∈ w.live := by simpa [World.createLoop] using hr
    exact Finset.mem_insert_of_mem (h.owner_live r hr)
  target_live r t hr ht := by
    have hr : .resource r ∈ w.live := by simpa [World.createLoop] using hr
    exact Finset.mem_insert_of_mem (h.target_live r t hr ht)
  target_handle r t ht := by
    obtain ⟨hreq, hhnd, hlt⟩ := h.target_handle r t ht
    exact ⟨hreq, hhnd, hlt.trans (Nat.lt_succ_self _)⟩
  pending_self r hr := by
    obtain ⟨hlive, hself, hreq⟩ := h.pending_self r hr
    exact ⟨Finset.mem_insert_of_mem hlive, hself, hreq⟩
  self_pending := h.self_pending
  registered_self t ht := by
    obtain ⟨hlive, hself⟩ := h.registered_self t ht
    exact ⟨Finset.mem_insert_of_mem hlive, hself⟩
  self_registered := h.self_registered
  uv_handle := h.uv_handle

/-- A new object that owns nothing but references to live objects keeps the invariant. -/
lemma Inv.allocate (h : w.Inv) {x : Resource} (hself : x.selfPtr = false)
    (howner : .loop x.owner ∈ w.live)
    (htarget : ∀ t, x.target = some t →
      x.isHandle = false ∧ .resource t ∈ w.live ∧ (w.resources t).isHandle = true) :
    (w.allocate x).Inv := by
  have hnew : (w.allocate x).resources w.next = x := Function.update_self ..
  have hold : ∀ {n}, n ≠ w.next → (w.allocate x).resources n = w.resources n :=
    fun hn => Function.update_of_ne hn ..
  have hold_live : ∀ {n}, .resource n ∈ w.live → (w.allocate x).resources n = w.resources n :=
    fun hn => hold (h.live_lt _ hn).ne
  -- a resource that libuv knows or that owns itself is an old one
  have huv : ∀ {n}, w.uvHandle n ≠ .none → n ≠ w.next := by
    rintro n hn rfl
    exact hn (h.fresh_handle _ le_rfl)
  have hhas : ∀ {n}, ((w.allocate x).resources n).selfPtr = true → n ≠ w.next := by
    rintro n hn rfl
    rw [hnew, hself] at hn
    cases hn
  constructor
  · intro y hy
    rcases Finset.mem_insert.mp hy with rfl | hy
    · exact Nat.lt_succ_self _
    · exact (h.live_lt y hy).trans (Nat.lt_succ_self _)
  · exact fun n hn => h.fresh_handle n (Nat.le_of_succ_le hn)
  · exact fun n hn => h.fresh_pending n (Nat.le_of_succ_le hn)
  · intro n hn
    rw [hold (Nat.ne_of_gt hn)]
    exact h.fresh_resource n (Nat.le_of_succ_le hn)
  · exact fun y hy => Finset.mem_insert_of_mem (h.refs_live y hy)
  · exact fun f hf y hy => Finset.mem_insert_of_mem (h.held_live f hf y hy)
  · intro r hr
    apply Finset.mem_insert_of_mem
    rcases Finset.mem_insert.mp hr with heq | hr
    · obtain rfl := Obj.resource.inj heq
      rwa [hnew]
    · rw [hold_live hr]
      exact h.owner_live r hr
  · intro r t hr ht
    apply Finset.mem_insert_of_mem
    rcases Finset.mem_insert.mp hr with heq | hr
    · obtain rfl := Obj.resource.inj heq
      rw [hnew] at ht
      exact (htarget t ht).2.1
    · rw [hold_live hr] at ht
      exact h.target_live r t hr ht
  · intro r t ht
    by_cases hr : r = w.next
    · subst hr
      rw [hnew] at ht ⊢
      obtain ⟨hreq, hlive, hhnd⟩ := htarget t ht
      rw [hold_live hlive]
      exact ⟨hreq, hhnd, (h.live_lt _ hlive).trans (Nat.lt_succ_self _)⟩
    · rw [hold hr] at ht ⊢
      obtain ⟨hreq, hhnd, hlt⟩ := h.target_handle r t ht
      rw [hold hlt.ne]
      exact ⟨hreq, hhnd, hlt.trans (Nat.lt_succ_self _)⟩
  · intro r hr
    obtain ⟨hlive, hfits⟩ := h.pending_self r hr
    rw [hold_live hlive]
    exact ⟨Finset.mem_insert_of_mem hlive, hfits⟩
  · intro r hreq hr
    have hne := hhas hr
    rw [hold hne] at hreq hr
    exact h.self_pending r hreq hr
  · intro t ht
    obtain ⟨hlive, hown⟩ := h.registered_self t ht
    rw [hold_live hlive]
    exact ⟨Finset.mem_insert_of_mem hlive, hown⟩
  · intro t hhnd ht
    have hne := hhas ht
    rw [hold hne] at hhnd ht ⊢
    exact h.self_registered t hhnd ht
  · intro t ht
    rw [hold (huv ht)]
    exact h.uv_handle t ht

/-- A refused submission changes nothing. -/
lemma submit_of_ne_zero {r : ℕ} {code : Int} (hcode : code ≠ 0) : w.submit r code = w := by
  simp [World.submit, World.uvSubmit, World.modify, hcode, Resource.leakIf]

/-- A submission: an accepted operation comes with the self reference. -/
lemma Inv.submit (h : w.Inv) {r : ℕ} (hlive : .resource r ∈ w.live)
    (hreq : (w.resources r).isHandle = false) (code : Int) : (w.submit r code).Inv := by
  by_cases hcode : code = 0
  · subst hcode
    have huv : w.uvHandle r = .none := by
      by_contra hne
      exact absurd (h.uv_handle r hne) (by rw [hreq]; decide)
    have hfits : SelfFits ((w.resources r).leakIf 0) (w.uvHandle r) true := by
      rw [huv]
      exact
        { pending_self := fun _ => ⟨rfl, hreq⟩
          self_pending := fun _ _ => rfl
          registered_self := fun hreg => by cases hreg
          self_registered := fun hhnd => absurd (hreq.symm.trans hhnd) (by decide)
          uv_handle := fun hne => absurd rfl hne }
    exact h.update hlive (Resource.leakIf_cls _ _) (Resource.leakIf_owner _ _)
      (Resource.leakIf_target _ _) hfits h.held_live rfl rfl rfl rfl
      (Function.update_eq_self r w.uvHandle).symm rfl
  · rw [submit_of_ne_zero hcode]
    exact h

/-- An initialisation passes the result of libuv to `leak_if`, or does nothing. -/
lemma initHandle_cases (w : World) (t : ℕ) (code : Int) :
    w.initHandle t code = w ∨ w.initHandle t code = (w.uvInit t code).modify t (·.leakIf code) := by
  unfold World.initHandle
  split
  · exact Or.inl rfl
  · exact Or.inr rfl

/-- The self reference of a handle that takes or keeps it when it gets registered fits. -/
lemma SelfFits.of_registered {x : Resource} {st : UvHandle} (hhnd : x.isHandle = true)
    (hself : x.selfPtr = true) (hreg : st.registered = true) : SelfFits x st false where
  pending_self hpend := by cases hpend
  self_pending hreq := absurd (hhnd.symm.trans hreq) (by decide)
  registered_self _ := hself
  self_registered _ _ := Or.inl hreg
  uv_handle _ := hhnd

/-- The self reference of a handle that has none fits what is not registered. -/
lemma SelfFits.of_not_registered {x : Resource} {st : UvHandle} (hhnd : x.isHandle = true)
    (hself : x.selfPtr = false) (hreg : st.registered = false) : SelfFits x st false where
  pending_self hpend := by cases hpend
  self_pending _ hhas := absurd (hself.symm.trans hhas) (by decide)
  registered_self hyes := absurd (hreg.symm.trans hyes) (by decide)
  self_registered _ hhas := absurd (hself.symm.trans hhas) (by decide)
  uv_handle _ := hhnd

/-- No operation of a handle is pending. -/
lemma Inv.handle_not_pending (h : w.Inv) {t : ℕ} (hhnd : (w.resources t).isHandle = true) :
    w.pending t = false := by
  by_contra hne
  obtain ⟨_, _, hreq⟩ := h.pending_self t (by simpa using hne)
  exact absurd (hhnd.symm.trans hreq) (by decide)

/-- An initialisation: a successful one registers the handle and comes with the self reference. -/
lemma Inv.initHandle (h : w.Inv) {t : ℕ} (hlive : .resource t ∈ w.live)
    (hhnd : (w.resources t).isHandle = true) (huv : w.uvHandle t = .none) (code : Int) :
    (w.initHandle t code).Inv := by
  rcases initHandle_cases w t code with hinit | hinit <;> rw [hinit]
  · exact h
  have hpend := h.handle_not_pending hhnd
  have hself : (w.resources t).selfPtr = false := by
    by_contra hne
    have hreg := h.self_registered t hhnd (by simpa using hne)
    simp [huv, UvHandle.registered] at hreg
  have hfits : SelfFits ((w.resources t).leakIf code) (if code = 0 then .open else .failed)
      (w.pending t) := by
    have hhnd' : ((w.resources t).leakIf code).isHandle = true := by
      rw [Resource.isHandle, Resource.leakIf_cls]
      exact hhnd
    rw [hpend]
    by_cases hcode : code = 0
    · exact .of_registered hhnd' (by simp [hcode]) (by simp [hcode, UvHandle.registered])
    · exact .of_not_registered hhnd' (by simp [hcode, hself]) (by simp [hcode, UvHandle.registered])
  exact h.update hlive (Resource.leakIf_cls _ _) (Resource.leakIf_owner _ _)
    (Resource.leakIf_target _ _) hfits h.held_live rfl rfl rfl rfl rfl
    (Function.update_eq_self t w.pending).symm

/-- A spawn: the self reference is taken whatever libuv answers. -/
lemma Inv.spawn (h : w.Inv) {t : ℕ} (hlive : .resource t ∈ w.live)
    (hproc : (w.resources t).cls = .handle .process) (code : Int) (registered : Bool) :
    (w.spawn t code registered).Inv := by
  have hhnd : (w.resources t).isHandle = true := by
    rw [Resource.isHandle, hproc]
  have hpend := h.handle_not_pending hhnd
  have hfits : SelfFits ((w.resources t).leakIf 0)
      (if code = 0 ∨ registered then .open else .failed) (w.pending t) := by
    rw [hpend]
    split
    · exact .of_registered hhnd rfl rfl
    · exact
        { pending_self := fun hyes => by cases hyes
          self_pending := fun hreq => absurd (hhnd.symm.trans hreq) (by decide)
          registered_self := fun hyes => by cases hyes
          self_registered := fun _ _ => Or.inr ⟨hproc, rfl⟩
          uv_handle := fun _ => hhnd }
  exact h.update hlive (Resource.leakIf_cls _ _) (Resource.leakIf_owner _ _)
    (Resource.leakIf_target _ _) hfits h.held_live rfl rfl rfl rfl rfl
    (Function.update_eq_self t w.pending).symm

/-- Closing a registered handle leaves it registered. -/
lemma Inv.uvClose (h : w.Inv) {t : ℕ} (huv : (w.uvHandle t).registered = true) :
    (w.uvClose t).Inv := by
  obtain ⟨hlive, hself⟩ := h.registered_self t huv
  have hhnd : (w.resources t).isHandle = true := by
    apply h.uv_handle t
    intro hnone
    rw [hnone] at huv
    cases huv
  have hfits : SelfFits (w.resources t) .closing (w.pending t) := by
    rw [h.handle_not_pending hhnd]
    exact .of_registered hhnd hself rfl
  exact h.update hlive rfl rfl rfl hfits h.held_live rfl rfl rfl
    (Function.update_eq_self t w.resources).symm rfl (Function.update_eq_self t w.pending).symm

/-- libuv has no handle of a request. -/
lemma Inv.request_not_registered (h : w.Inv) {r : ℕ} (hreq : (w.resources r).isHandle = false) :
    (w.uvHandle r).registered = false := by
  have hnone : w.uvHandle r = .none := by
    by_contra hne
    simp [h.uv_handle r hne] at hreq
  rw [hnone]
  rfl

/-- A completion: the request gives up its self reference, but its callback holds it. -/
lemma Inv.complete (h : w.Inv) {r : ℕ} (hpend : w.pending r = true) (c : RequestClass)
    (status : Int) : (w.complete r c status).Inv := by
  obtain ⟨hlive, hself, hreq⟩ := h.pending_self r hpend
  have hfits : SelfFits (w.resources r).selfReset (w.uvHandle r) false :=
    { pending_self := fun hyes => by cases hyes
      self_pending := fun _ hhas => by cases hhas
      registered_self := fun hreg =>
        absurd ((h.request_not_registered hreq).symm.trans hreg) (by decide)
      self_registered := fun _ hhas => by cases hhas
      uv_handle := h.uv_handle r }
  have hheld : ∀ y ∈ (Frame.request r).held, y ∈ w.live := by
    intro y hy
    exact List.mem_singleton.mp hy ▸ hlive
  rw [show w.complete r c status = _ from if_pos hlive]
  exact h.update (x := (w.resources r).selfReset) hlive rfl rfl rfl hfits (h.held_cons hheld) rfl rfl
    rfl rfl (Function.update_eq_self r w.uvHandle).symm rfl

/-- A close callback: the handle gives up its self reference, but its callback holds it. -/
lemma Inv.closeCallback (h : w.Inv) {t : ℕ} (huv : w.uvHandle t = .closing) :
    (w.closeCallback t).Inv := by
  obtain ⟨hlive, hself⟩ := h.registered_self t (by rw [huv]; rfl)
  have hhnd : (w.resources t).isHandle = true := h.uv_handle t (by rw [huv]; decide)
  have hfits : SelfFits (w.resources t).selfReset .closed (w.pending t) := by
    rw [h.handle_not_pending hhnd]
    exact .of_not_registered hhnd rfl rfl
  have hheld : ∀ y ∈ (Frame.closing t).held, y ∈ w.live := by
    intro y hy
    exact List.mem_singleton.mp hy ▸ hlive
  rw [show w.closeCallback t = _ from if_pos hlive]
  exact h.update (x := (w.resources t).selfReset) hlive rfl rfl rfl hfits (h.held_cons hheld) rfl rfl
    rfl rfl rfl (Function.update_eq_self t w.pending).symm

/-- `loop::uninitialized_resource` on a live loop. -/
lemma Inv.uninitializedResource (h : w.Inv) {l : ℕ} (hl : .loop l ∈ w.live)
    (cls : ResourceClass) : (w.uninitializedResource cls l).Inv :=
  (h.allocate rfl hl (fun t ht => by simp [Resource.construct] at ht)).acquire
    (Finset.mem_insert_self _ _)

/-- The record of a new object is as its constructor leaves it. -/
@[simp] lemma uninitializedResource_resources (cls : ResourceClass) (l : ℕ) :
    (w.uninitializedResource cls l).resources w.next = .construct cls l := by
  simp [World.uninitializedResource, World.allocate, World.acquire]

/-- `loop::resource` is `uninitialized_resource`, followed for a handle by its initialisation and,
when that fails, by the release of the only reference. -/
lemma resource_cases (w : World) (cls : ResourceClass) (l : ℕ) (code : Int) :
    (w.resource cls l code).1 = w.uninitializedResource cls l ∨
    ∃ c, cls = .handle c ∧
      ((w.resource cls l code).1 = (w.uninitializedResource cls l).initHandle w.next code ∨
        (w.resource cls l code).1 =
          ((w.uninitializedResource cls l).initHandle w.next code).release (.resource w.next)) := by
  cases cls with
  | handle c =>
    refine Or.inr ⟨c, rfl, ?_⟩
    unfold World.resource
    dsimp only
    split
    · exact Or.inl rfl
    · exact Or.inr rfl
  | request c => exact Or.inl rfl

/-- `loop::resource` on a live loop. -/
lemma Inv.resource (h : w.Inv) {l : ℕ} (hl : .loop l ∈ w.live) (cls : ResourceClass) (code : Int) :
    (w.resource cls l code).1.Inv := by
  have hnew : (w.uninitializedResource cls l).Inv := h.uninitializedResource hl cls
  rcases resource_cases w cls l code with hres | ⟨c, rfl, hres⟩
  · exact hres ▸ hnew
  have hhnd : ((w.uninitializedResource (.handle c) l).resources w.next).isHandle = true := by
    rw [uninitializedResource_resources]
    rfl
  have hinit := hnew.initHandle (Finset.mem_insert_self _ _) hhnd (h.fresh_handle _ le_rfl) code
  rcases hres with hres | hres
  · exact hres ▸ hinit
  · exact hres ▸ hinit.release _

/-- The body shared by the stream and udp operations. -/
lemma Inv.operate (h : w.Inv) {t : ℕ} (ht : w.IsLiveHandle t) (op : StreamOp)
    (data : Option DataDeleter) (code : Int) : (w.operate t op data code).Inv := by
  have hnew := h.allocate (x := { Resource.construct (.request op.request) (w.resources t).owner
    with target := some t, data }) rfl (h.owner_live t ht.1)
    (fun u hu => by obtain rfl := Option.some.inj hu; exact ⟨rfl, ht.1, ht.2⟩)
  refine Inv.record (hnew.submit (Finset.mem_insert_self _ _) ?_ code) _
  simp [World.allocate, Resource.construct, Resource.isHandle]

/-- The class of a handle is in its record. -/
lemma handleClass?_eq_some {t : ℕ} {c : HandleClass} :
    w.handleClass? t = some c ↔ (w.resources t).cls = .handle c := by
  unfold handleClass?
  cases (w.resources t).cls <;> simp

/-- libuv completes a request that it has accepted. -/
lemma exec_complete {r : ℕ} {status : Int} (hexec : w.exec (.complete r status) = some w') :
    ∃ c, (w.resources r).cls = .request c ∧ w.pending r = true ∧ w' = w.complete r c status := by
  simp only [World.exec] at hexec
  split at hexec
  next c hc =>
    obtain ⟨⟨hpend, _⟩, rfl⟩ := by simpa using hexec
    have hcls : (w.resources r).cls = .request c := by
      unfold requestClass? at hc
      cases hr : (w.resources r).cls <;> simp_all
    exact ⟨c, hcls, hpend, rfl⟩
  next => cases hexec

/-- libuv calls a callback of a handle that it has registered or that was started again. -/
lemma exec_callback {t : ℕ} {cb : HandleCallback} (hexec : w.exec (.callback t cb) = some w') :
    (((w.uvHandle t).registered = true ∨ w.late t = true) ∧ w.InRun (w.resources t).owner ∧
      (w.resources t).isHandle = true) ∧ w' = w.handleCallback t cb := by
  simp only [World.exec] at hexec
  split at hexec
  next c hc =>
    obtain ⟨⟨hold, hrun, _⟩, rfl⟩ := by simpa using hexec
    have hhnd : (w.resources t).isHandle = true := by
      rw [Resource.isHandle, handleClass?_eq_some.mp hc]
    exact ⟨⟨hold, hrun, hhnd⟩, rfl⟩
  next => cases hexec

/-- Every action keeps the invariant. -/
lemma Inv.exec (h : w.Inv) {a : Action} (hexec : w.exec a = some w') : w'.Inv := by
  cases a with
  | createLoop d =>
    obtain rfl := Option.some.inj hexec
    exact h.createLoop d
  | closeLoop l =>
    obtain ⟨_, rfl⟩ := by simpa [World.exec] using hexec
    exact h.closeLoop l
  | run l =>
    obtain ⟨⟨href, _⟩, rfl⟩ := by simpa [World.exec] using hexec
    apply h.push
    intro x hx
    obtain rfl := List.mem_singleton.mp hx
    exact h.refs_live _ href
  | runEnd =>
    obtain ⟨_, rfl⟩ := by simpa [World.exec] using hexec
    exact h.pop
  | copy x =>
    obtain ⟨hvis, rfl⟩ := by simpa [World.exec] using hexec
    apply h.acquire
    cases x with
    | loop l => exact hvis
    | resource r => exact hvis.1
  | drop x =>
    obtain ⟨_, rfl⟩ := by simpa [World.exec] using hexec
    exact h.release x
  | create cls l =>
    obtain ⟨hl, rfl⟩ := by simpa [World.exec] using hexec
    exact h.uninitializedResource hl cls
  | init t code =>
    obtain ⟨⟨⟨hlive, hhnd⟩, huv, _⟩, rfl⟩ := by simpa [World.exec] using hexec
    exact h.initHandle hlive hhnd huv code
  | resource cls l code =>
    obtain ⟨⟨hl, _⟩, rfl⟩ := by simpa [World.exec] using hexec
    exact h.resource hl cls code
  | spawn t code registered =>
    obtain ⟨⟨⟨hlive, _⟩, hcls, _⟩, rfl⟩ := by simpa [World.exec] using hexec
    exact h.spawn hlive (handleClass?_eq_some.mp hcls) code registered
  | start t code =>
    obtain ⟨_, rfl⟩ := by simpa [World.exec] using hexec
    exact h.start t code
  | call t =>
    obtain ⟨_, rfl⟩ := by simpa [World.exec] using hexec
    exact h
  | close t =>
    obtain ⟨⟨_, hnone, hfailed⟩, rfl⟩ := by simpa [World.exec] using hexec
    unfold World.close World.closing
    split
    · exact h
    · refine (h.uvClose ?_).record _
      cases hst : w.uvHandle t <;> simp_all [UvHandle.registered]
  | closeReset t code =>
    obtain ⟨⟨_, _, hst⟩, rfl⟩ := by simpa [World.exec] using hexec
    unfold World.closeReset
    split
    · apply h.uvClose
      rcases hst with hopen | ⟨_, hcode⟩
      · rw [hopen]
        rfl
      · exact absurd ‹code = 0› hcode
    · exact h
  | submit r code =>
    obtain ⟨⟨⟨hlive, hreq, _⟩, _⟩, rfl⟩ := by simpa [World.exec] using hexec
    exact h.submit hlive (by simpa [Resource.isRequest] using hreq) code
  | cancel r =>
    obtain ⟨_, rfl⟩ := by simpa [World.exec] using hexec
    exact h
  | write | shutdown | connect | send =>
    obtain ⟨hop, rfl⟩ := by simpa [World.exec] using hexec
    exact h.operate hop.1 _ _ _
  | complete r status =>
    obtain ⟨c, _, hpend, rfl⟩ := exec_complete hexec
    exact h.complete hpend c status
  | callback t cb =>
    obtain ⟨_, rfl⟩ := exec_callback hexec
    unfold World.handleCallback
    split
    · exact (h.push (by simp [Frame.held])).record _
    · exact h.record _
  | closeCallback t =>
    obtain ⟨⟨huv, _⟩, rfl⟩ := by simpa [World.exec] using hexec
    exact h.closeCallback huv
  | ret =>
    obtain ⟨_, rfl⟩ := by simpa [World.exec] using hexec
    exact h.pop

/-- **Step lemma**: every step keeps the invariant. -/
theorem inv_step (h : w.Inv) {a : Action} (hstep : w.step a = some w') : w'.Inv := by
  obtain ⟨v, hexec, rfl⟩ := Option.map_eq_some_iff.mp hstep
  exact (h.exec hexec).settle

/-- After a step every live object is referred to. -/
lemma settled_step {a : Action} (hstep : w.step a = some w') : w'.Settled := by
  obtain ⟨v, _, rfl⟩ := Option.map_eq_some_iff.mp hstep
  exact settled_settle

end World

end Uvw
