import Uvw.Runtime.Reclamation

/-!
# Loops do not share anything

A handle or a request belongs to one loop, the `owner` of its record, and so does everything that
happens to it.  `World.SameOn` says that nothing of a loop has changed: its objects, the references to
them, what libuv has of them, the calls and callbacks that are being executed, and its part of the
history.  `loops_are_isolated` says that this is so as long as no action is about the loop, whatever is
done to the others: their handles may be closed, their requests completed, and the last reference to
them may go away with all that they own.

The one way from a loop to another would be through the listeners of a request, which hold the handle it
was made for; `TargetsStay` says that this handle belongs to the loop of the request.
-/

namespace Uvw

open TransitionSystem

/-- The object a call is about. -/
def Frame.subject : Frame → Obj
  | .running l => .loop l
  | .request r | .handle r | .closing r => .resource r

/-- The resource an entry of the history is about. -/
def Entry.subject : Entry → ℕ
  | .called _ h _ _ _ => h
  | .completed r _ => r
  | .published on _ _ _ => on
  | .dangling r => r
  | .uvClose h _ => h

namespace World

variable (w : World)

/-- The loop of an object. -/
def loopOf : Obj → ℕ
  | .loop l => l
  | .resource r => (w.resources r).owner

/-- The object was created and belongs to the loop. -/
def BelongsTo (x : Obj) (l : ℕ) : Prop := x.id < w.next ∧ w.loopOf x = l

instance (x : Obj) (l : ℕ) : Decidable (w.BelongsTo x l) := by
  unfold BelongsTo; infer_instance

/-- The calls of a loop that are being executed, innermost first. -/
def callsOf (l : ℕ) (stack : List Frame) : List Frame :=
  stack.filter fun f => w.BelongsTo f.subject l

/-- The part of a history that is about a loop. -/
def historyOf (l : ℕ) (log : List Entry) : List Entry :=
  log.filter fun e => w.BelongsTo (.resource e.subject) l

/-- The object an action is about, if it is about one that exists. -/
def subject : Action → Option Obj
  | .createLoop _ => none
  | .closeLoop l | .run l | .create _ l | .resource _ l _ => some (.loop l)
  | .copy x | .drop x => some x
  | .init h _ | .spawn h _ _ | .start h _ | .call h | .close h | .closeReset h _ | .write h _ _ _ |
    .shutdown h _ | .connect h _ | .send h _ _ | .callback h _ | .closeCallback h =>
      some (.resource h)
  | .submit r _ | .cancel r | .complete r _ => some (.resource r)
  | .runEnd | .ret => w.stack.head?.map Frame.subject

/-- The action is about the loop or about something that belongs to it. -/
def IsAbout (a : Action) (l : ℕ) : Prop := ∃ x ∈ w.subject a, w.loopOf x = l

/-- Nothing of a loop differs between two states of a run. -/
structure SameOn (w w' : World) (l : ℕ) : Prop where
  next_le : w.next ≤ w'.next
  /-- No object moves to another loop. -/
  loopOf : ∀ x, x.id < w.next → w'.loopOf x = w.loopOf x
  /-- The same objects of the loop exist, -/
  mem_live : ∀ x, w.BelongsTo x l → (x ∈ w'.live ↔ x ∈ w.live)
  born : ∀ x ∈ w'.live, w'.loopOf x = l → x.id < w.next
  /-- with the same references of the program to them, -/
  refs : ∀ x, w.BelongsTo x l → w'.refs x = w.refs x
  /-- the same fields and the same data, -/
  resources : ∀ r, w.BelongsTo (.resource r) l → w'.resources r = w.resources r
  released : ∀ r, w.BelongsTo (.resource r) l → w'.released r = w.released r
  /-- and libuv has the same of them. -/
  uvHandle : ∀ r, w.BelongsTo (.resource r) l → w'.uvHandle r = w.uvHandle r
  late : ∀ r, w.BelongsTo (.resource r) l → w'.late r = w.late r
  pending : ∀ r, w.BelongsTo (.resource r) l → w'.pending r = w.pending r
  loops : w'.loops l = w.loops l
  loopCloses : w'.loopCloses l = w.loopCloses l
  busy : w'.busy l = w.busy l
  /-- The same calls are being executed, and the same has happened. -/
  calls : w.callsOf l w'.stack = w.callsOf l w.stack
  history : w.historyOf l w'.log = w.historyOf l w.log

/-- A request that was made for a handle belongs to the loop of the handle. -/
def TargetsStay : Prop :=
  ∀ r h, (w.resources r).target = some h → (w.resources r).owner = (w.resources h).owner

variable {w : World} {u v w' : World} {a : Action} {l : ℕ}

/-- No object moves to another loop. -/
lemma Extends.loopOf_eq (h : w.Extends v) {x : Obj} (hx : x.id < w.next) : v.loopOf x = w.loopOf x := by
  cases x with
  | loop m => rfl
  | resource r => exact h.owner r hx

/-! ## Requests and their handles -/

/-- A request with this record belongs to the loop of the handle it was made for. -/
def TargetFits (w : World) (x : Resource) : Prop :=
  ∀ h, x.target = some h → x.owner = (w.resources h).owner

/-- A record without a target fits, -/
lemma targetFits_of_none {x : Resource} (hx : x.target = none) : TargetFits w x := by
  intro t ht
  rw [hx] at ht
  cases ht

/-- and so does one that agrees with a fitting one. -/
lemma TargetFits.same {x y : Resource} (h : TargetFits w x) (hsame : SameRecord y x) :
    TargetFits w y := by
  intro t ht
  rw [hsame.2.1]
  exact h t (hsame.2.2.1.symm.trans ht)

/-- An initialisation changes self references at most, -/
lemma sameRecord_initHandle (v : World) (t : ℕ) (code : Int) (n : ℕ) :
    SameRecord ((v.initHandle t code).resources n) (v.resources n) := by
  rcases initHandle_cases v t code with hinit | hinit <;> rw [hinit]
  · exact ⟨rfl, rfl, rfl, rfl⟩
  · exact sameRecord_modify (w := v.uvInit t code) (sameRecord_leakIf code) n

/-- and so does a submission. -/
lemma sameRecord_submit (v : World) (r : ℕ) (code : Int) (n : ℕ) :
    SameRecord ((v.submit r code).resources n) (v.resources n) := by
  have hres : (v.uvSubmit r code).resources = v.resources := by
    unfold uvSubmit
    split <;> rfl
  rw [← hres]
  exact sameRecord_modify (sameRecord_leakIf code) n

/-- A new object has no target, -/
lemma targetFits_uninitializedResource (cls : ResourceClass) (l : ℕ) :
    TargetFits w ((w.uninitializedResource cls l).resources w.next) := by
  rw [uninitializedResource_resources]
  exact targetFits_of_none rfl

/-- whether it is initialised or not. -/
lemma targetFits_resource (cls : ResourceClass) (l : ℕ) (code : Int) :
    TargetFits w ((w.resource cls l code).1.resources w.next) := by
  have hnew := targetFits_uninitializedResource (w := w) cls l
  rcases resource_cases w cls l code with hres | ⟨c, rfl, hres | hres⟩ <;> rw [hres]
  · exact hnew
  · exact hnew.same (sameRecord_initHandle _ _ _ _)
  · exact hnew.same (sameRecord_initHandle _ _ _ _)

/-- A new record is found under the next number. -/
lemma allocate_resources_next (w : World) (x : Resource) : (w.allocate x).resources w.next = x :=
  Function.update_self ..

/-- The request of an operation has its handle as target, and the loop of it. -/
lemma targetFits_operate (t : ℕ) (op : StreamOp) (data : Option DataDeleter) (code : Int) :
    TargetFits w ((w.operate t op data code).resources w.next) := by
  have hnew : TargetFits w
      { Resource.construct (.request op.request) (w.resources t).owner with target := some t, data } := by
    intro h hh
    rw [← Option.some.inj hh]
    rfl
  refine TargetFits.same ?_ (sameRecord_submit _ w.next code w.next)
  exact (allocate_resources_next w _).symm ▸ hnew

/-- What an action makes of the next record. -/
lemma exec_targetFits (hfree : (w.resources w.next).target = none) (hexec : w.exec a = some v) :
    TargetFits w (v.resources w.next) := by
  have hbase : TargetFits w (w.resources w.next) := targetFits_of_none hfree
  cases a with
  | create cls l =>
    obtain ⟨_, rfl⟩ := by simpa [World.exec] using hexec
    exact targetFits_uninitializedResource cls l
  | init t code =>
    obtain ⟨_, rfl⟩ := by simpa [World.exec] using hexec
    exact hbase.same (sameRecord_initHandle w t code _)
  | resource cls l code =>
    obtain ⟨_, rfl⟩ := by simpa [World.exec] using hexec
    exact targetFits_resource cls l code
  | spawn t code registered =>
    obtain ⟨_, rfl⟩ := by simpa [World.exec] using hexec
    exact hbase.same (sameRecord_modify (sameRecord_leakIf 0) _)
  | start t code =>
    obtain ⟨_, rfl⟩ := by simpa [World.exec] using hexec
    rcases start_cases w t code with heq | ⟨_, _, heq⟩ <;> rw [heq] <;> exact hbase
  | close t =>
    obtain ⟨_, rfl⟩ := by simpa [World.exec] using hexec
    unfold World.close
    split <;> exact hbase
  | closeReset t code =>
    obtain ⟨_, rfl⟩ := by simpa [World.exec] using hexec
    unfold World.closeReset
    split <;> exact hbase
  | submit r code =>
    obtain ⟨_, rfl⟩ := by simpa [World.exec] using hexec
    exact hbase.same (sameRecord_submit w r code _)
  | write t _ _ code | shutdown t code | connect t code | send t _ code =>
    obtain ⟨_, rfl⟩ := by simpa [World.exec] using hexec
    exact targetFits_operate t _ _ code
  | complete r status =>
    obtain ⟨c, _, _, rfl⟩ := exec_complete hexec
    unfold World.complete World.completionCallback
    dsimp only
    split
    · exact hbase.same (sameRecord_modify (f := (·.selfReset)) (fun x => ⟨rfl, rfl, rfl, rfl⟩) w.next)
    · exact hbase
  | callback t cb =>
    obtain ⟨_, rfl⟩ := exec_callback hexec
    unfold World.handleCallback
    split <;> exact hbase
  | closeCallback t =>
    obtain ⟨_, rfl⟩ := by simpa [World.exec] using hexec
    unfold World.closeCallback
    dsimp only
    split
    · exact hbase.same (sameRecord_modify (f := (·.selfReset)) (fun x => ⟨rfl, rfl, rfl, rfl⟩) w.next)
    · exact hbase
  | createLoop d =>
    obtain rfl := Option.some.inj hexec
    exact hbase
  | _ =>
    obtain ⟨_, rfl⟩ := by simpa [World.exec] using hexec
    exact hbase

/-- **Step lemma** for the handles of requests. -/
lemma targetsStay_step (h : w.Consistent) (hstay : w.TargetsStay) (hstep : w.step a = some w') :
    w'.TargetsStay := by
  obtain ⟨v, hexec, rfl⟩ := Option.map_eq_some_iff.mp hstep
  have hext := extends_exec hexec
  have hinv := h.toInv.exec hexec
  intro r t ht
  rw [settle_resources] at ht ⊢
  rcases Nat.lt_trichotomy r w.next with hlt | rfl | hgt
  · have ht' : (w.resources r).target = some t := (hext.target r hlt).symm.trans ht
    rw [hext.owner r hlt, hext.owner t (h.target_handle r t ht').2.2]
    exact hstay r t ht'
  · -- the record is new, and the handle is an older one
    obtain ⟨hreq, hhnd, hlt⟩ := hinv.target_handle w.next t ht
    have hne : t ≠ w.next := by
      rintro rfl
      rw [hreq] at hhnd
      cases hhnd
    have hold : t < w.next := by
      have := hext.next_succ
      omega
    have hfree : (w.resources w.next).target = none := by
      rw [h.fresh_resource w.next le_rfl]
      rfl
    rw [hext.owner t hold]
    exact exec_targetFits hfree hexec t ht
  · have hfresh := hinv.fresh_resource r (by have := hext.next_succ; omega)
    rw [hfresh] at ht
    cases ht

/-! ## One action -/

/-- An action has left the loop `l` alone, as far as `exec` goes. -/
structure Elsewhere (w v : World) (l : ℕ) : Prop where
  born : ∀ x ∈ v.live, x ∉ w.live → v.loopOf x ≠ l
  refs : ∀ x, w.BelongsTo x l → v.refs x = w.refs x
  resources : ∀ r, w.BelongsTo (.resource r) l → v.resources r = w.resources r
  uvHandle : ∀ r, w.BelongsTo (.resource r) l → v.uvHandle r = w.uvHandle r
  late : ∀ r, w.BelongsTo (.resource r) l → v.late r = w.late r
  pending : ∀ r, w.BelongsTo (.resource r) l → v.pending r = w.pending r
  loops : v.loops l = w.loops l
  loopCloses : v.loopCloses l = w.loopCloses l
  calls : w.callsOf l v.stack = w.callsOf l w.stack
  history : w.historyOf l v.log = w.historyOf l w.log

namespace Elsewhere

/-- Nothing has changed so far. -/
lemma refl (w : World) (l : ℕ) : w.Elsewhere w l where
  born _ hx hx' := absurd hx hx'
  refs _ _ := rfl
  resources _ _ := rfl
  uvHandle _ _ := rfl
  late _ _ := rfl
  pending _ _ := rfl
  loops := rfl
  loopCloses := rfl
  calls := rfl
  history := rfl

/-- A record elsewhere is modified. -/
lemma modify (h : w.Elsewhere v l) {r : ℕ} (hr : ¬ w.BelongsTo (.resource r) l)
    {f : Resource → Resource} (hf : ∀ x, SameRecord (f x) x) : w.Elsewhere (v.modify r f) l where
  __ := h
  born x hx hx' := by
    have hold := h.born x hx hx'
    cases x with
    | loop m => exact hold
    | resource n => exact (sameRecord_modify (w := v) hf n).2.1.trans_ne hold
  resources n hn := by
    have hne : n ≠ r := fun heq => hr (heq ▸ hn)
    exact (Function.update_of_ne hne _ _).trans (h.resources n hn)

/-- A pointer to something elsewhere is copied -/
lemma acquire (h : w.Elsewhere v l) {x : Obj} (hx : ¬ w.BelongsTo x l) :
    w.Elsewhere (v.acquire x) l where
  __ := h
  refs y hy := by
    have hne : y ≠ x := fun heq => hx (heq ▸ hy)
    exact (Function.update_of_ne hne _ _).trans (h.refs y hy)

/-- or released. -/
lemma release (h : w.Elsewhere v l) {x : Obj} (hx : ¬ w.BelongsTo x l) :
    w.Elsewhere (v.release x) l where
  __ := h
  refs y hy := by
    have hne : y ≠ x := fun heq => hx (heq ▸ hy)
    exact (Function.update_of_ne hne _ _).trans (h.refs y hy)

/-- A call about something elsewhere starts. -/
lemma push (h : w.Elsewhere v l) {f : Frame} (hf : ¬ w.BelongsTo f.subject l) :
    w.Elsewhere (v.push f) l where
  __ := h
  calls := by
    have hskip : w.callsOf l (f :: v.stack) = w.callsOf l v.stack :=
      List.filter_cons_of_neg (by simpa using hf)
    exact hskip.trans h.calls

/-- What the history gains is about resources elsewhere. -/
lemma record (h : w.Elsewhere v l) {es : List Entry}
    (hes : ∀ e ∈ es, ¬ w.BelongsTo (.resource e.subject) l) : w.Elsewhere (v.record es) l where
  __ := h
  history := by
    have hnone : w.historyOf l es = [] :=
      List.filter_eq_nil_iff.mpr fun e he => by simpa using hes e he
    have happend : w.historyOf l (v.log ++ es) = w.historyOf l v.log ++ w.historyOf l es :=
      List.filter_append ..
    exact (happend.trans (by rw [hnone, List.append_nil])).trans h.history

/-- libuv's view of one handle changes. -/
lemma uvHandle_update (h : w.Elsewhere v l) {r : ℕ} (hr : ¬ w.BelongsTo (.resource r) l)
    (st : UvHandle) :
    w.Elsewhere { v with uvHandle := Function.update v.uvHandle r st } l where
  __ := h
  uvHandle n hn := by
    have hne : n ≠ r := fun heq => hr (heq ▸ hn)
    exact (Function.update_of_ne hne _ _).trans (h.uvHandle n hn)

/-- One handle is started late. -/
lemma late_update (h : w.Elsewhere v l) {t : ℕ} (ht : ¬ w.BelongsTo (.resource t) l) :
    w.Elsewhere { v with late := Function.update v.late t true } l where
  __ := h
  late n hn := by
    have hne : n ≠ t := fun heq => ht (heq ▸ hn)
    exact (Function.update_of_ne hne _ _).trans (h.late n hn)

/-- libuv accepts or completes one request. -/
lemma pending_update (h : w.Elsewhere v l) {r : ℕ} (hr : ¬ w.BelongsTo (.resource r) l) (p : Bool) :
    w.Elsewhere { v with pending := Function.update v.pending r p } l where
  __ := h
  pending n hn := by
    have hne : n ≠ r := fun heq => hr (heq ▸ hn)
    exact (Function.update_of_ne hne _ _).trans (h.pending n hn)

/-- An object that is new belongs to no loop yet. -/
lemma not_belongsTo_next {x : Obj} (hx : x.id = w.next) : ¬ w.BelongsTo x l :=
  fun h => absurd h.1 (by omega)

/-- Another loop is created -/
lemma createLoop (hl : l < w.next) (d : LoopDeleter) : w.Elsewhere (w.createLoop d) l where
  __ := refl w l
  born x hx hx' := by
    obtain rfl := (Finset.mem_insert.mp hx).resolve_right hx'
    exact hl.ne'
  refs x hx := by
    have hne : x ≠ .loop w.next := by
      rintro rfl
      exact not_belongsTo_next rfl hx
    exact Function.update_of_ne hne _ _
  loops := Function.update_of_ne hl.ne _ _

/-- or closed. -/
lemma closeLoop {m : ℕ} (hm : l ≠ m) : w.Elsewhere (w.closeLoop m) l where
  __ := refl w l
  loops := Function.update_of_ne hm _ _
  loopCloses := by
    show (if (w.loops m).uvLoop.isSome then Function.update w.loopCloses m _ else w.loopCloses) l = _
    split
    · exact Function.update_of_ne hm _ _
    · rfl

/-- A call about something elsewhere returns. -/
lemma pop (h : ∀ f ∈ w.stack.head?, ¬ w.BelongsTo f.subject l) : w.Elsewhere w.pop l where
  __ := refl w l
  calls := by
    cases hst : w.stack with
    | nil => simp [World.pop, hst]
    | cons f rest =>
      have hf : ¬ w.BelongsTo f.subject l := h f (by rw [hst]; rfl)
      have hskip : w.callsOf l (f :: rest) = w.callsOf l rest :=
        List.filter_cons_of_neg (by simpa using hf)
      rw [hskip, World.pop, hst, List.tail_cons]

/-- An object of another loop is created. -/
lemma allocate {x : Resource} (hx : x.owner ≠ l) : w.Elsewhere (w.allocate x) l where
  __ := refl w l
  born y hy hy' := by
    obtain rfl := (Finset.mem_insert.mp hy).resolve_right hy'
    show ((w.allocate x).resources w.next).owner ≠ l
    rw [allocate_resources_next]
    exact hx
  resources r hr := Function.update_of_ne (Nat.ne_of_lt hr.1) _ _

/-- A handle elsewhere is initialised. -/
lemma initHandle (h : w.Elsewhere v l) {t : ℕ} (ht : ¬ w.BelongsTo (.resource t) l) (code : Int) :
    w.Elsewhere (v.initHandle t code) l := by
  rcases initHandle_cases v t code with hinit | hinit <;> rw [hinit]
  · exact h
  · exact (h.uvHandle_update ht _).modify ht (sameRecord_leakIf code)

/-- A request elsewhere is submitted. -/
lemma submit (h : w.Elsewhere v l) {r : ℕ} (hr : ¬ w.BelongsTo (.resource r) l) (code : Int) :
    w.Elsewhere (v.submit r code) l := by
  refine Elsewhere.modify ?_ hr (sameRecord_leakIf code)
  unfold World.uvSubmit
  split
  · exact h.pending_update hr true
  · exact h

/-- Another loop gets a new object, -/
lemma uninitializedResource (cls : ResourceClass) {m : ℕ} (hm : m ≠ l) :
    w.Elsewhere (w.uninitializedResource cls m) l :=
  (allocate hm).acquire (not_belongsTo_next rfl)

/-- which is initialised or not. -/
lemma resource (cls : ResourceClass) {m : ℕ} (hm : m ≠ l) (code : Int) :
    w.Elsewhere (w.resource cls m code).1 l := by
  have hfree : ¬ w.BelongsTo (.resource w.next) l := not_belongsTo_next rfl
  have hnew := uninitializedResource (w := w) cls hm
  rcases resource_cases w cls m code with hres | ⟨c, rfl, hres | hres⟩ <;> rw [hres]
  · exact hnew
  · exact hnew.initHandle hfree code
  · exact (hnew.initHandle hfree code).release hfree

/-- An operation on a handle elsewhere creates its request there. -/
lemma operate {t : ℕ} (ht : ¬ w.BelongsTo (.resource t) l) (hlt : t < w.next) (op : StreamOp)
    (data : Option DataDeleter) (code : Int) : w.Elsewhere (w.operate t op data code) l := by
  have howner : (w.resources t).owner ≠ l := fun heq => ht ⟨hlt, heq⟩
  have hnew : w.Elsewhere (w.allocate
      { Resource.construct (.request op.request) (w.resources t).owner with target := some t, data }) l :=
    allocate howner
  refine (hnew.submit (not_belongsTo_next rfl) code).record ?_
  · intro e he
    obtain rfl := List.mem_singleton.mp he
    exact ht

/-- A completion is about its request and the handle that the request was made for. -/
lemma complete (hstay : w.TargetsStay) {r : ℕ} (hlt : r < w.next)
    (hr : ¬ w.BelongsTo (.resource r) l) (c : RequestClass) (status : Int) :
    w.Elsewhere (w.complete r c status) l := by
  have howner : (w.resources r).owner ≠ l := fun heq => hr ⟨hlt, heq⟩
  have hdone : w.Elsewhere
      (({ w with pending := Function.update w.pending r false } : World).record [.completed r status]) l := by
    refine ((refl w l).pending_update hr false).record fun e he => ?_
    obtain rfl := List.mem_singleton.mp he
    exact hr
  unfold World.complete World.completionCallback
  dsimp only
  split
  · have hreserve := (hdone.push (f := .request r) hr).modify hr (f := (·.selfReset))
      fun x => ⟨rfl, rfl, rfl, rfl⟩
    refine hreserve.record fun e he => ?_
    rcases List.mem_cons.mp he with rfl | he
    · exact hr
    · -- the listeners of the request forward the event to the handle
      obtain ⟨t, ht, rfl⟩ := List.mem_map.mp he
      have htarget : (w.resources r).target = some t := by
        have hsame := sameRecord_modify (w := w) (r := r) (f := (·.selfReset))
          (fun x => ⟨rfl, rfl, rfl, rfl⟩) r
        exact hsame.2.2.1.symm.trans (Option.mem_toList.mp ht)
      intro hb
      exact howner ((hstay r t htarget).trans hb.2)
  · refine hdone.record fun e he => ?_
    obtain rfl := List.mem_singleton.mp he
    exact hr

end Elsewhere

/-- An action that is not about a loop has its subject elsewhere. -/
lemma not_belongsTo_of_subject (hfar : ¬ w.IsAbout a l) {x : Obj} (hx : w.subject a = some x) :
    ¬ w.BelongsTo x l :=
  fun h => hfar ⟨x, hx, h.2⟩

/-- What an action does is about what the action is about. -/
lemma Inv.elsewhere (h : w.Inv) (hstay : w.TargetsStay) (hl : l < w.next) (hfar : ¬ w.IsAbout a l)
    (hexec : w.exec a = some v) : w.Elsewhere v l := by
  have hrefl := Elsewhere.refl w l
  have hsub := fun {x : Obj} => not_belongsTo_of_subject (x := x) hfar
  have hloop : ∀ m, w.subject a = some (.loop m) → m ≠ l := fun m hm heq => hfar ⟨_, hm, heq⟩
  have hpop : w.subject a = w.stack.head?.map Frame.subject →
      ∀ f ∈ w.stack.head?, ¬ w.BelongsTo f.subject l := by
    intro heq f hf
    exact hsub (by rw [heq, hf]; rfl)
  cases a with
  | createLoop d =>
    obtain rfl := Option.some.inj hexec
    exact .createLoop hl d
  | closeLoop m =>
    obtain ⟨_, rfl⟩ := by simpa [World.exec] using hexec
    exact .closeLoop (hloop m rfl).symm
  | run m =>
    obtain ⟨_, rfl⟩ := by simpa [World.exec] using hexec
    exact hrefl.push (hsub rfl)
  | runEnd =>
    obtain ⟨_, rfl⟩ := by simpa [World.exec] using hexec
    exact .pop (hpop rfl)
  | copy x =>
    obtain ⟨_, rfl⟩ := by simpa [World.exec] using hexec
    exact hrefl.acquire (hsub rfl)
  | drop x =>
    obtain ⟨_, rfl⟩ := by simpa [World.exec] using hexec
    exact hrefl.release (hsub rfl)
  | create cls m =>
    obtain ⟨_, rfl⟩ := by simpa [World.exec] using hexec
    exact .uninitializedResource cls (hloop m rfl)
  | init t code =>
    obtain ⟨_, rfl⟩ := by simpa [World.exec] using hexec
    exact hrefl.initHandle (hsub rfl) code
  | resource cls m code =>
    obtain ⟨_, rfl⟩ := by simpa [World.exec] using hexec
    exact .resource cls (hloop m rfl) code
  | spawn t code registered =>
    obtain ⟨_, rfl⟩ := by simpa [World.exec] using hexec
    exact (hrefl.modify (hsub rfl) (sameRecord_leakIf 0)).uvHandle_update (hsub rfl) _
  | start t code =>
    obtain ⟨_, rfl⟩ := by simpa [World.exec] using hexec
    rcases start_cases w t code with heq | ⟨_, _, heq⟩ <;> rw [heq]
    · exact hrefl
    · exact hrefl.late_update (hsub rfl)
  | call t =>
    obtain ⟨_, rfl⟩ := by simpa [World.exec] using hexec
    exact hrefl
  | close t =>
    obtain ⟨_, rfl⟩ := by simpa [World.exec] using hexec
    unfold World.close
    split
    · exact hrefl
    · refine (hrefl.uvHandle_update (hsub rfl) .closing).record fun e he => ?_
      obtain rfl := List.mem_singleton.mp he
      exact hsub rfl
  | closeReset t code =>
    obtain ⟨_, rfl⟩ := by simpa [World.exec] using hexec
    unfold World.closeReset
    split
    · exact hrefl.uvHandle_update (hsub rfl) .closing
    · exact hrefl
  | submit r code =>
    obtain ⟨_, rfl⟩ := by simpa [World.exec] using hexec
    exact hrefl.submit (hsub rfl) code
  | cancel r =>
    obtain ⟨_, rfl⟩ := by simpa [World.exec] using hexec
    exact hrefl
  | write t _ _ code | shutdown t code | connect t code | send t _ code =>
    obtain ⟨hop, rfl⟩ := by simpa [World.exec] using hexec
    exact .operate (hsub rfl) (h.live_lt _ hop.1.1) _ _ code
  | complete r status =>
    obtain ⟨c, _, hpend, rfl⟩ := exec_complete hexec
    have hr : ¬ w.BelongsTo (.resource r) l := hsub rfl
    exact Elsewhere.complete hstay (h.live_lt _ (h.pending_self r hpend).1) hr c status
  | callback t cb =>
    obtain ⟨_, rfl⟩ := exec_callback hexec
    unfold World.handleCallback
    split
    · refine (hrefl.push (f := .handle t) (hsub rfl)).record fun e he => ?_
      obtain ⟨ev, _, rfl⟩ := List.mem_map.mp he
      exact hsub rfl
    · refine hrefl.record fun e he => ?_
      obtain rfl := List.mem_singleton.mp he
      exact hsub rfl
  | closeCallback t =>
    obtain ⟨_, rfl⟩ := by simpa [World.exec] using hexec
    have hclosed := hrefl.uvHandle_update (r := t) (hsub rfl) .closed
    have hone : ∀ e : Entry, e.subject = t → ∀ e' ∈ [e], ¬ w.BelongsTo (.resource e'.subject) l := by
      intro e he e' he'
      obtain rfl := List.mem_singleton.mp he'
      exact he ▸ hsub rfl
    unfold World.closeCallback
    dsimp only
    split
    · refine Elsewhere.record ?_ (hone _ rfl)
      exact (hclosed.push (f := .closing t) (hsub rfl)).modify (hsub rfl) fun x => ⟨rfl, rfl, rfl, rfl⟩
    · exact hclosed.record (hone _ rfl)
  | ret =>
    obtain ⟨_, rfl⟩ := by simpa [World.exec] using hexec
    exact .pop (hpop rfl)

/-! ## What survives the destructions -/

/-- What keeps the objects of a loop alive belongs to it. -/
lemma Elsewhere.supported (helse : w.Elsewhere v l) (h : w.Consistent)
    (hstay : w.TargetsStay) : v.graph.Supported (w.live.filter fun x => w.loopOf x = l) := by
  intro x hx
  obtain ⟨hlive, hloop⟩ := Finset.mem_filter.mp hx
  have hbelongs : w.BelongsTo x l := ⟨h.live_lt x hlive, hloop⟩
  rw [useCount_pos_iff]
  rcases useCount_pos_iff.mp (h.settled x hlive) with hrefs | ⟨f, hf, hheld⟩ | ⟨r, hr, howned⟩
  · exact Or.inl ((helse.refs x hbelongs).symm ▸ hrefs)
  · -- a call that holds an object is about it
    have hsubject : f.subject = x := by
      cases f with
      | handle t => exact absurd hheld List.not_mem_nil
      | _ => exact (List.mem_singleton.mp hheld).symm
    have hcall : f ∈ w.callsOf l w.stack :=
      List.mem_filter.mpr ⟨hf, by simpa [hsubject] using hbelongs⟩
    exact Or.inr (Or.inl ⟨f, List.mem_of_mem_filter (helse.calls ▸ hcall), hheld⟩)
  · -- an object is owned by those of its own loop
    have howner : (w.resources r).owner = l := by
      cases x with
      | loop m => exact (mem_owned_loop.mp howned).trans hloop
      | resource t =>
        rcases mem_owned_resource.mp howned with ⟨_, rfl⟩ | htarget
        · exact hloop
        · exact (hstay r t htarget).trans hloop
    have hsame : v.owned (.resource r) = w.owned (.resource r) := by
      simp only [owned, helse.resources r ⟨h.live_lt _ hr, howner⟩]
    exact Or.inr (Or.inr ⟨r, Finset.mem_filter.mpr ⟨hr, howner⟩, hsame ▸ howned⟩)

/-- What makes a loop busy exists. -/
lemma Inv.busy_iff (h : w.Inv) :
    w.busy l = true ↔
      ∃ r, .resource r ∈ w.live ∧ (w.resources r).owner = l ∧ w.registered r = true := by
  unfold busy
  rw [List.any_eq_true]
  constructor
  · rintro ⟨r, _, hr⟩
    obtain ⟨howner, hreg⟩ := (Bool.and_eq_true _ _).mp hr
    exact ⟨r, h.live_of_registered hreg, of_decide_eq_true howner, hreg⟩
  · rintro ⟨r, hlive, howner, hreg⟩
    refine ⟨r, List.mem_range.mpr (h.live_lt _ hlive), ?_⟩
    rw [decide_eq_true howner, hreg]
    rfl

/-- **Step lemma**: an action that is about another loop changes nothing of this one. -/
lemma sameOn_step (h : w.Consistent) (hstay : w.TargetsStay) (hl : l < w.next)
    (hfar : ¬ w.IsAbout a l) (hstep : w.step a = some w') : w.SameOn w' l := by
  have hinv' := inv_step h.toInv hstep
  obtain ⟨v, hexec, rfl⟩ := Option.map_eq_some_iff.mp hstep
  have hext := extends_exec hexec
  have helse := h.toInv.elsewhere hstay hl hfar hexec
  have hloopOf : ∀ x, x.id < w.next → v.loopOf x = w.loopOf x := fun _ => hext.loopOf_eq
  have hlive : ∀ x, w.BelongsTo x l → (x ∈ v.settle.live ↔ x ∈ w.live) := by
    intro x hx
    constructor
    · intro hsettled
      by_contra hnot
      exact absurd (hext.live_new x (OwnershipGraph.settle_subset hsettled) hnot) hx.1.ne
    · intro hold
      have hsub : (w.live.filter fun y => w.loopOf y = l) ⊆ v.live :=
        (Finset.filter_subset _ _).trans hext.live_sub
      exact (helse.supported h hstay).subset_settle hsub (Finset.mem_filter.mpr ⟨hold, hx.2⟩)
  have hstays : ∀ x, w.BelongsTo x l → ¬ v.Dies v.settle.live x := by
    intro x hx hdies
    by_cases hold : x ∈ w.live
    · exact hdies.2 ((hlive x hx).mpr hold)
    · exact absurd (hext.live_new x hdies.1 hold) hx.1.ne
  have hborn : ∀ x ∈ v.settle.live, v.loopOf x = l → x.id < w.next := by
    intro x hx hloop
    by_contra hge
    have hnew : x ∉ w.live := fun hold => hge (h.live_lt x hold)
    exact helse.born x (OwnershipGraph.settle_subset hx) hnew hloop
  refine
    { next_le := hext.next_le
      loopOf := hloopOf
      mem_live := hlive
      born := hborn
      refs := helse.refs
      resources := helse.resources
      released := ?_
      uvHandle := helse.uvHandle
      late := helse.late
      pending := helse.pending
      loops := ?_
      loopCloses := ?_
      busy := ?_
      calls := helse.calls
      history := helse.history }
  · intro r hr
    exact (if_neg (hstays _ hr)).trans (congrFun hext.released r)
  · exact (if_neg (hstays (.loop l) ⟨hl, rfl⟩)).trans helse.loops
  · exact (if_neg fun hdies => hstays (.loop l) ⟨hl, rfl⟩ hdies.1).trans helse.loopCloses
  · have hreg : ∀ r, w.BelongsTo (.resource r) l → v.settle.registered r = w.registered r := by
      intro r hr
      unfold registered
      rw [settle_uvHandle, settle_pending, helse.uvHandle r hr, helse.pending r hr]
    rw [Bool.eq_iff_iff, hinv'.busy_iff, h.toInv.busy_iff]
    refine exists_congr fun r => ?_
    constructor
    · rintro ⟨hr, howner, hbusy⟩
      have hlt := hborn _ hr howner
      have hb : w.BelongsTo (.resource r) l := ⟨hlt, (hloopOf _ hlt).symm.trans howner⟩
      exact ⟨(hlive _ hb).mp hr, hb.2, (hreg r hb).symm.trans hbusy⟩
    · rintro ⟨hr, howner, hbusy⟩
      have hb : w.BelongsTo (.resource r) l := ⟨h.live_lt _ hr, howner⟩
      exact ⟨(hlive _ hb).mpr hr, (hloopOf _ hb.1).trans howner, (hreg r hb).trans hbusy⟩

/-! ## Runs -/

/-- In a consistent world a loop is as it is, -/
lemma SameOn.refl (h : w.Consistent) (l : ℕ) : w.SameOn w l where
  next_le := le_rfl
  loopOf _ _ := rfl
  mem_live _ _ := Iff.rfl
  born x hx _ := h.live_lt x hx
  refs _ _ := rfl
  resources _ _ := rfl
  released _ _ := rfl
  uvHandle _ _ := rfl
  late _ _ := rfl
  pending _ _ := rfl
  loops := rfl
  loopCloses := rfl
  busy := rfl
  calls := rfl
  history := rfl

/-- what belongs to it belongs to it afterwards, -/
lemma SameOn.belongsTo (h : w.SameOn v l) {x : Obj} (hx : w.BelongsTo x l) : v.BelongsTo x l :=
  ⟨hx.1.trans_le h.next_le, (h.loopOf x hx.1).trans hx.2⟩

/-- A list agrees on what belonged to the loop before if it agrees on what belongs to it now. -/
lemma SameOn.filter_eq (h : w.SameOn v l) {β : Type*} {f : β → Obj} {xs ys : List β}
    (heq : (xs.filter fun b => v.BelongsTo (f b) l) = ys.filter fun b => v.BelongsTo (f b) l) :
    (xs.filter fun b => w.BelongsTo (f b) l) = ys.filter fun b => w.BelongsTo (f b) l := by
  have hnarrow : ∀ zs : List β, (zs.filter fun b => w.BelongsTo (f b) l) =
      (zs.filter fun b => v.BelongsTo (f b) l).filter fun b => w.BelongsTo (f b) l := by
    intro zs
    rw [List.filter_filter]
    refine List.filter_congr fun b _ => ?_
    by_cases hb : w.BelongsTo (f b) l
    · simp [hb, h.belongsTo hb]
    · simp [hb]
  rw [hnarrow xs, heq, ← hnarrow ys]

/-- and what leaves it as it is may follow each other. -/
lemma SameOn.trans (h : w.SameOn v l) (h' : v.SameOn u l) : w.SameOn u l where
  next_le := h.next_le.trans h'.next_le
  loopOf x hx := (h'.loopOf x (hx.trans_le h.next_le)).trans (h.loopOf x hx)
  mem_live x hx := (h'.mem_live x (h.belongsTo hx)).trans (h.mem_live x hx)
  born x hx hloop := by
    have hlt := h'.born x hx hloop
    have hloop' : v.loopOf x = l := (h'.loopOf x hlt).symm.trans hloop
    exact h.born x ((h'.mem_live x ⟨hlt, hloop'⟩).mp hx) hloop'
  refs x hx := (h'.refs x (h.belongsTo hx)).trans (h.refs x hx)
  resources r hr := (h'.resources r (h.belongsTo hr)).trans (h.resources r hr)
  released r hr := (h'.released r (h.belongsTo hr)).trans (h.released r hr)
  uvHandle r hr := (h'.uvHandle r (h.belongsTo hr)).trans (h.uvHandle r hr)
  late r hr := (h'.late r (h.belongsTo hr)).trans (h.late r hr)
  pending r hr := (h'.pending r (h.belongsTo hr)).trans (h.pending r hr)
  loops := h'.loops.trans h.loops
  loopCloses := h'.loopCloses.trans h.loopCloses
  busy := h'.busy.trans h.busy
  calls := (h.filter_eq h'.calls).trans h.calls
  history := (h.filter_eq (f := fun e : Entry => .resource e.subject) h'.history).trans h.history

/-- Actions that are not about the loop leave it as it is. -/
lemma sameOn_after (h : w.Consistent) (hstay : w.TargetsStay) (hl : l < w.next) {as : List Action}
    (hfar : Along World.step (fun v a => ¬ v.IsAbout a l) w as)
    (hafter : after World.step w as = some w') : w.SameOn w' l := by
  induction as generalizing w with
  | nil =>
    obtain rfl := Option.some.inj hafter
    exact .refl h l
  | cons a as ih =>
    obtain ⟨v, hstep, hrest⟩ := after_cons_eq_some.mp hafter
    obtain ⟨hfar', hfars⟩ := hfar v hstep
    have hfirst := sameOn_step h hstay hl hfar' hstep
    exact hfirst.trans
      (ih (consistent_step h hstep) (targetsStay_step h hstay hstep) (hl.trans_le hfirst.next_le)
        hfars hrest)

/-- **Loops do not share anything**: from any state of any run, whatever is done to other loops and
their handles and requests, up to the destruction of all of it, changes nothing of this one. -/
theorem loops_are_isolated (as : List Action) :
    Visits World.step (fun w => ∀ l < w.next, ∀ bs w',
      Along World.step (fun v b => ¬ v.IsAbout b l) w bs → after World.step w bs = some w' →
        w.SameOn w' l) init as :=
  visits_of_invariant (I := fun w => w.Consistent ∧ w.TargetsStay)
    (fun _ h _ hl _ _ hfar hafter => sameOn_after h.1 h.2 hl hfar hafter)
    (fun _ _ _ h hstep => ⟨consistent_step h.1 hstep, targetsStay_step h.1 h.2 hstep⟩)
    ⟨consistent_init, fun _ _ ht => by cases ht⟩

end World

end Uvw
