import Mathlib.Algebra.BigOperators.Group.Finset.Basic
import Mathlib.Algebra.BigOperators.Group.Finset.Piecewise
import Mathlib.Algebra.Order.BigOperators.Group.Finset
import Mathlib.Algebra.Order.Group.Multiset
import Uvw.Runtime.Reclamation

/-!
# Listeners that capture, and user data

A listener is a callable, and what it captured by value lives as long as it does: in the slot of its
emitter, until `on` or `reset` puts something else there or the emitter is destroyed.  `user_data` of a
resource or a loop is a `shared_ptr` that lives as long.  In a `World` such pointers are among those of the
program; here they belong to the objects, and go with them.

`captures_are_copies` says that this makes no other programs possible: every run with listeners and user
data is, action by action, a run of the `World` in which the program makes a copy for every captured pointer
and drops it when the object that holds it is gone.  So what holds of every run of the `World` holds here.

`only_cycles_leak` says what the captured pointers keep: the objects that exist are those to which
references lead from what the program, the calls being executed or libuv keep, or from an object that
captured a pointer which leads back to it.
-/

namespace Uvw

open TransitionSystem

/-! ## Emitters and user data -/

/-- The types of the events, `listener_t` of each having its place in `handlers`. -/
inductive EventType
  | error | close
  | work | addrInfo | nameInfo | connect | shutdown | write | send
  | async | check | idle | prepare | timer | fsEvent | fsPoll | poll | signal | exit
  | end | listen | data | udpData
deriving DecidableEq, Repr

namespace EventType

/-- All of them. -/
def all : List EventType :=
  [.error, .close, .work, .addrInfo, .nameInfo, .connect, .shutdown, .write, .send, .async, .check, .idle,
    .prepare, .timer, .fsEvent, .fsPoll, .poll, .signal, .exit, .end, .listen, .data, .udpData]

/-- Every type is listed once. -/
lemma nodup_all : all.Nodup := by decide

end EventType

/-- The events a handle class is declared with. -/
def HandleClass.events : HandleClass → List EventType
  | .async => [.async]
  | .check => [.check]
  | .fsEvent => [.fsEvent]
  | .fsPoll => [.fsPoll]
  | .idle => [.idle]
  | .poll => [.poll]
  | .prepare => [.prepare]
  | .process => [.exit]
  | .signal => [.signal]
  | .timer => [.timer]
  | .udp => [.send, .udpData]
  | .pipe | .tcp | .tty => [.listen, .end, .connect, .shutdown, .data, .write]

/-- The events a request class is declared with. -/
def RequestClass.events : RequestClass → List EventType
  | .work => [.work]
  | .getAddrInfo => [.addrInfo]
  | .getNameInfo => [.nameInfo]
  | .connect => [.connect]
  | .shutdown => [.shutdown]
  | .write => [.write]
  | .send => [.send]

/-- The types in `handlers` of a resource: every emitter has `error_event`, every handle `close_event`. -/
def ResourceClass.handlers : ResourceClass → List EventType
  | .handle c => .error :: .close :: c.events
  | .request c => .error :: c.events

/-- What the program has put into an object. -/
structure Attachments where
  /-- The listeners, each with the pointers it captured. -/
  listeners : EventType → Option (List Obj)
  /-- `user_data`, where it is an object of the library. -/
  userData : Option Obj

namespace Attachments

/-- Nothing, as the constructor leaves it. -/
def empty : Attachments := { listeners := fun _ => none, userData := none }

variable (a : Attachments)

/-- `emitter::on`. -/
def on (t : EventType) (captured : List Obj) : Attachments :=
  { a with listeners := Function.update a.listeners t (some captured) }

/-- `emitter::reset<Type>`. -/
def reset (t : EventType) : Attachments :=
  { a with listeners := Function.update a.listeners t none }

/-- `emitter::reset`, for the types in `handlers`. -/
def resetAll (handlers : List EventType) : Attachments := handlers.foldl reset a

/-- `resource::data` and `loop::data`. -/
def data (udata : Option Obj) : Attachments := { a with userData := udata }

/-- The pointers in it. -/
def pointers : List Obj :=
  (EventType.all.flatMap fun t => (a.listeners t).getD []) ++ a.userData.toList

end Attachments

/-! ## Programs with listeners and user data -/

/-- A world, and what the program has put into its objects. -/
structure CapturingWorld where
  world : World
  attachments : Obj → Attachments

/-- One action. -/
inductive CapturingAction
  /-- Anything that has nothing to do with listeners and user data. -/
  | act (a : Action)
  /-- `x.on<Type>(f)`, where `f` captured copies of pointers. -/
  | on (x : Obj) (t : EventType) (captured : List Obj)
  /-- `x.reset<Type>()`. -/
  | reset (x : Obj) (t : EventType)
  /-- `x.reset()`. -/
  | resetAll (x : Obj)
  /-- `x.data(udata)`. -/
  | data (x : Obj) (udata : Option Obj)

/-- What an action is without listeners and user data: the program keeps copies of what is captured. -/
def CapturingAction.flatten : CapturingAction → List Action
  | .act a => [a]
  | .on _ _ captured => captured.map .copy
  | .data _ udata => udata.toList.map .copy
  | .reset .. | .resetAll _ => []

/-- The types in `handlers` of an object; a loop publishes `error_event` alone. -/
def World.handlers (w : World) : Obj → List EventType
  | .loop _ => [.error]
  | .resource r => (w.resources r).cls.handlers

namespace CapturingWorld

/-- Nothing has been created. -/
def init : CapturingWorld := { world := .init, attachments := fun _ => .empty }

variable (c : CapturingWorld)

/-- The pointers an object holds for the program. -/
def captured (x : Obj) : List Obj := (c.attachments x).pointers

/-- The ownership graph of the program. -/
def graph : OwnershipGraph Obj where
  roots := c.world.roots
  owned x := c.world.owned x ++ c.captured x

/-- Something else is attached to an object. -/
def attach (x : Obj) (a : Attachments) : CapturingWorld :=
  { c with attachments := Function.update c.attachments x a }

/-- One action, before anything is destroyed; `none` where the action is not possible.  A listener captures
copies of pointers to objects the program can name. -/
def exec : CapturingAction → Option CapturingWorld
  | .act a => (c.world.exec a).map fun world => { c with world }
  | .on x t captured =>
    if c.world.Visible x ∧ t ∈ c.world.handlers x ∧ ∀ y ∈ captured, c.world.Visible y then
      some (c.attach x ((c.attachments x).on t captured))
    else none
  | .reset x t =>
    if c.world.Visible x ∧ t ∈ c.world.handlers x then some (c.attach x ((c.attachments x).reset t))
    else none
  | .resetAll x =>
    if c.world.Visible x then some (c.attach x ((c.attachments x).resetAll (c.world.handlers x))) else none
  | .data x udata =>
    if c.world.Visible x ∧ ∀ y ∈ udata, c.world.Visible y then
      some (c.attach x ((c.attachments x).data udata))
    else none

/-- Every object without a reference to it is destroyed, with its emitter and its user data. -/
def settle : CapturingWorld :=
  let live := c.graph.settle c.world.live
  { world := c.world.destroyOutside live
    attachments := fun x => if x ∈ live then c.attachments x else .empty }

/-- One action and the destructions it causes. -/
def step (a : CapturingAction) : Option CapturingWorld := (c.exec a).map settle

/-- The pointers in some of the objects. -/
def capturedBy (S : Finset Obj) : Multiset Obj := ∑ x ∈ S, (c.captured x : Multiset Obj)

end CapturingWorld

/-- The program holds some pointers more. -/
def World.holding (w : World) (m : Multiset Obj) : World := { w with refs := fun x => w.refs x + m.count x }

/-- The world in which the program holds the captured pointers. -/
def CapturingWorld.flatten (c : CapturingWorld) : World := c.world.holding (c.capturedBy c.world.live)

/-! ## Pointers more or less -/

namespace World

variable {w v : World} {m n : Multiset Obj} {a : Action}

/-- References held one after the other add up. -/
lemma holding_holding : (w.holding m).holding n = w.holding (m + n) := by
  have hrefs : (fun x => w.refs x + m.count x + n.count x) = fun x => w.refs x + (m + n).count x := by
    funext x
    rw [Multiset.count_add, add_assoc]
  exact congrArg (fun refs => { w with refs }) hrefs

/-- References held by the program add to the use counts. -/
lemma useCount_holding (S : Finset Obj) (x : Obj) :
    (w.holding m).graph.useCount S x = w.graph.useCount S x + m.count x := by
  unfold OwnershipGraph.useCount
  show w.refs x + m.count x + _ + _ = w.refs x + _ + _ + m.count x
  rw [Nat.add_right_comm _ (m.count x), Nat.add_right_comm _ (m.count x)]
  rfl

/-- What the program holds otherwise does not matter to a copy of a pointer, -/
lemma acquire_holding (x : Obj) : (w.holding m).acquire x = (w.acquire x).holding m := by
  have hrefs : Function.update (w.holding m).refs x (w.refs x + m.count x + 1) =
      fun y => Function.update w.refs x (w.refs x + 1) y + m.count y := by
    funext y
    by_cases hy : y = x
    · subst hy
      rw [Function.update_self, Function.update_self, Nat.add_right_comm]
    · rw [Function.update_of_ne hy, Function.update_of_ne hy]
      rfl
  exact congrArg (fun refs => { w with refs }) hrefs

/-- to the end of a pointer that the program has all the same, -/
lemma release_holding {x : Obj} (hx : 0 < w.refs x) :
    (w.holding m).release x = (w.release x).holding m := by
  have hrefs : Function.update (w.holding m).refs x (w.refs x + m.count x - 1) =
      fun y => Function.update w.refs x (w.refs x - 1) y + m.count y := by
    funext y
    by_cases hy : y = x
    · subst hy
      rw [Function.update_self, Function.update_self]
      omega
    · rw [Function.update_of_ne hy, Function.update_of_ne hy]
      rfl
  exact congrArg (fun refs => { w with refs }) hrefs

/-- to the creation of an object, -/
lemma uninitializedResource_holding (cls : ResourceClass) (l : ℕ) :
    (w.holding m).uninitializedResource cls l = (w.uninitializedResource cls l).holding m :=
  acquire_holding (w := w.allocate (.construct cls l)) (.resource w.next)

/-- to its initialisation -/
lemma initHandle_holding (h : ℕ) (code : Int) :
    (w.holding m).initHandle h code = (w.initHandle h code).holding m := by
  unfold initHandle
  have hclass : (w.holding m).handleClass? h = w.handleClass? h := rfl
  rw [hclass]
  cases w.handleClass? h with
  | none => rfl
  | some c => cases c <;> rfl

/-- The initialisation of a handle copies no pointer. -/
lemma initHandle_refs (h : ℕ) (code : Int) : (w.initHandle h code).refs = w.refs := by
  unfold initHandle
  split <;> rfl

/-- Nor does it matter to `loop::resource`: the pointer released after a failure is its own. -/
lemma resource_holding (cls : ResourceClass) (l : ℕ) (code : Int) :
    ((w.holding m).resource cls l code).1 = (w.resource cls l code).1.holding m := by
  -- what is released after a failure is the pointer that was just acquired
  have hrefs : 0 < (w.uninitializedResource cls l).refs (.resource w.next) := by
    show 0 < Function.update w.refs _ _ _
    rw [Function.update_self]
    omega
  have hnext : (w.holding m).next = w.next := rfl
  unfold World.resource
  cases cls with
  | handle c =>
    simp only [hnext, uninitializedResource_holding, initHandle_holding]
    split
    · rfl
    · refine release_holding (w := (w.uninitializedResource _ l).initHandle w.next code) ?_
      rw [initHandle_refs]
      exact hrefs
  | request c =>
    simp only [hnext, uninitializedResource_holding]
    split
    · rfl
    · exact release_holding hrefs

/-- The same holds for a submission, -/
lemma submit_holding (r : ℕ) (code : Int) :
    (w.holding m).submit r code = (w.submit r code).holding m := by
  unfold submit uvSubmit
  split <;> rfl

/-- for an operation on a handle, -/
lemma operate_holding (h : ℕ) (op : StreamOp) (data : Option DataDeleter) (code : Int) :
    (w.holding m).operate h op data code = (w.operate h op data code).holding m := by
  have hsubmit := submit_holding
    (w := w.allocate
      { Resource.construct (.request op.request) (w.resources h).owner with target := some h, data })
    (m := m) w.next code
  exact congrArg (record · [.called w.next h op data code]) hsubmit

/-- for a new loop, which nobody has captured, -/
lemma createLoop_holding (d : LoopDeleter) (hnew : m.count (.loop w.next) = 0) :
    (w.holding m).createLoop d = (w.createLoop d).holding m := by
  have hrefs : Function.update (w.holding m).refs (.loop w.next) 1 =
      fun y => Function.update w.refs (.loop w.next) 1 y + m.count y := by
    funext y
    by_cases hy : y = .loop w.next
    · subst hy
      rw [Function.update_self, Function.update_self, hnew]
    · rw [Function.update_of_ne hy, Function.update_of_ne hy]
      rfl
  exact congrArg (fun refs => { w.createLoop d with refs }) hrefs

/-- for a start, -/
lemma start_holding (h : ℕ) (code : Int) :
    (w.holding m).start h code = (w.start h code).holding m := by
  unfold start
  refine ((apply_ite (holding · m) _ _ _).trans ?_).symm
  rfl

/-- for `close()`, -/
lemma close_holding (h : ℕ) : (w.holding m).close h = (w.close h).holding m := by
  unfold close
  refine ((apply_ite (holding · m) _ _ _).trans ?_).symm
  rfl

/-- for `close_reset()`, -/
lemma closeReset_holding (h : ℕ) (code : Int) :
    (w.holding m).closeReset h code = (w.closeReset h code).holding m := by
  unfold closeReset
  split <;> rfl

/-- for the close callback, -/
lemma closeCallback_holding (h : ℕ) : (w.holding m).closeCallback h = (w.closeCallback h).holding m := by
  unfold closeCallback
  refine ((apply_ite (holding · m) _ _ _).trans ?_).symm
  rfl

/-- for a completion -/
lemma complete_holding (r : ℕ) (c : RequestClass) (status : Int) :
    (w.holding m).complete r c status = (w.complete r c status).holding m := by
  unfold complete completionCallback
  refine ((apply_ite (holding · m) _ _ _).trans ?_).symm
  rfl

/-- and for the other callbacks. -/
lemma handleCallback_holding (h : ℕ) (cb : HandleCallback) :
    (w.holding m).handleCallback h cb = (w.handleCallback h cb).holding m := by
  unfold handleCallback
  refine ((apply_ite (holding · m) _ _ _).trans ?_).symm
  rfl

/-- An action that is possible under a condition. -/
lemma guarded_holding {p q : Prop} [Decidable p] [Decidable q] {u u' : World} (hpq : p → q)
    (hu : p → u' = u.holding m) (hexec : (if p then some u else none) = some v) :
    (if q then some u' else none) = some (v.holding m) := by
  obtain ⟨hp, hv⟩ := Option.ite_none_right_eq_some.mp hexec
  rw [if_pos (hpq hp), hu hp, Option.some.inj hv]

/-- **More pointers prevent nothing**: what can be done can be done with more pointers in the hands of the
program, and has the same effect. -/
lemma exec_holding (hnew : m.count (.loop w.next) = 0) (hexec : w.exec a = some v) :
    (w.holding m).exec a = some (v.holding m) := by
  cases a with
  | createLoop d =>
    obtain rfl := Option.some.inj hexec
    exact congrArg some (createLoop_holding d hnew)
  | run l => exact guarded_holding (fun h => ⟨Nat.add_pos_left h.1 _, h.2⟩) (fun _ => rfl) hexec
  | copy x => exact guarded_holding id (fun _ => acquire_holding x) hexec
  | drop x => exact guarded_holding (fun h => Nat.add_pos_left h _) release_holding hexec
  | create cls l => exact guarded_holding id (fun _ => uninitializedResource_holding cls l) hexec
  | init h code => exact guarded_holding id (fun _ => initHandle_holding h code) hexec
  | resource cls l code => exact guarded_holding id (fun _ => resource_holding cls l code) hexec
  | submit r code => exact guarded_holding id (fun _ => submit_holding r code) hexec
  | write h _ _ code | shutdown h code | connect h code | send h _ code =>
    exact guarded_holding id (fun _ => operate_holding h _ _ code) hexec
  | start h code => exact guarded_holding id (fun _ => start_holding h code) hexec
  | close h => exact guarded_holding id (fun _ => close_holding h) hexec
  | closeReset h code => exact guarded_holding id (fun _ => closeReset_holding h code) hexec
  | complete r status =>
    have hclass : (w.holding m).requestClass? r = w.requestClass? r := rfl
    simp only [exec, hclass] at hexec ⊢
    cases hc : w.requestClass? r with
    | none =>
      rw [hc] at hexec
      cases hexec
    | some c =>
      rw [hc] at hexec
      exact guarded_holding id (fun _ => complete_holding r c status) hexec
  | callback h cb =>
    have hclass : (w.holding m).handleClass? h = w.handleClass? h := rfl
    simp only [exec, hclass] at hexec ⊢
    cases hc : w.handleClass? h with
    | none =>
      rw [hc] at hexec
      cases hexec
    | some c =>
      rw [hc] at hexec
      exact guarded_holding id (fun _ => handleCallback_holding h cb) hexec
  | closeCallback h => exact guarded_holding id (fun _ => closeCallback_holding h) hexec
  | _ => exact guarded_holding id (fun _ => rfl) hexec

/-- Where nothing is left to be destroyed, more references change nothing about that, -/
lemma Settled.holding (h : w.Settled) : (w.holding m).Settled := by
  intro x hx
  rw [useCount_holding]
  exact Nat.add_pos_left (h x hx) _

/-- and the cascade has nothing to do. -/
lemma Settled.settle_eq (h : w.Settled) : w.settle = w := by
  unfold World.settle
  rw [OwnershipGraph.settle_eq_self h, destroyOutside_live_self]

/-- A copy is one pointer more, -/
lemma acquire_eq_holding (w : World) (x : Obj) : w.acquire x = w.holding {x} := by
  have hrefs : Function.update w.refs x (w.refs x + 1) = fun y => w.refs y + Multiset.count y {x} := by
    funext y
    rw [Multiset.count_singleton]
    by_cases hy : y = x
    · subst hy
      rw [Function.update_self, if_pos rfl]
    · rw [Function.update_of_ne hy, if_neg hy, Nat.add_zero]
  exact congrArg (fun refs => { w with refs }) hrefs

/-- and its end one less. -/
lemma release_holding_cons (x : Obj) : (w.holding (x ::ₘ m)).release x = w.holding m := by
  have hrefs : Function.update (w.holding (x ::ₘ m)).refs x (w.refs x + (x ::ₘ m).count x - 1) =
      fun y => w.refs y + m.count y := by
    funext y
    by_cases hy : y = x
    · subst hy
      rw [Function.update_self, Multiset.count_cons_self]
      omega
    · rw [Function.update_of_ne hy]
      exact congrArg (w.refs y + ·) (Multiset.count_cons_of_ne hy m)
  exact congrArg (fun refs => { w with refs }) hrefs

/-- **Copies**: the program can make a copy of every pointer to an object that it can name. -/
lemma after_copies (h : w.Settled) {ys : List Obj} (hys : ∀ y ∈ ys, w.Visible y) :
    after World.step w (ys.map .copy) = some (w.holding ys) := by
  induction ys generalizing w with
  | nil => rfl
  | cons y ys ih =>
    have hstep : w.step (.copy y) = some (w.holding {y}) := by
      show Option.map World.settle (if w.Visible y then some (w.acquire y) else none) = _
      rw [if_pos (hys y List.mem_cons_self), Option.map_some, acquire_eq_holding, h.holding.settle_eq]
    refine after_cons_eq_some.mpr ⟨_, hstep, ?_⟩
    show after World.step (w.holding {y}) (ys.map .copy) = _
    rw [ih h.holding fun z hz => hys z (List.mem_cons_of_mem y hz), holding_holding]
    rfl

end World

/-! ## Pointers that go with their objects -/

namespace CapturingWorld

variable {c : CapturingWorld} {m : Multiset Obj} {S : Finset Obj} {x : Obj}

/-- The captured pointers of the objects in `S` add to the use counts. -/
lemma useCount_graph (S : Finset Obj) (x : Obj) :
    c.graph.useCount S x = c.world.graph.useCount S x + (c.capturedBy S).count x := by
  have hcount : ∀ y, (c.graph.owned y).count x = (c.world.graph.owned y).count x +
      Multiset.count x (c.captured y : Multiset Obj) := by
    intro y
    rw [Multiset.coe_count]
    exact List.count_append
  unfold OwnershipGraph.useCount capturedBy
  rw [Finset.sum_congr rfl fun y _ => hcount y, Finset.sum_add_distrib, Multiset.count_sum', ← add_assoc]
  rfl

/-- More objects capture more. -/
lemma capturedBy_mono {S T : Finset Obj} (h : S ⊆ T) : c.capturedBy S ≤ c.capturedBy T :=
  Finset.sum_le_sum_of_subset h

/-- The objects that survive when everything goes with its object survive as well while the program still
holds the captured pointers. -/
lemma settle_subset_holding (hm : c.capturedBy c.world.live ≤ m) :
    c.graph.settle c.world.live ⊆ (c.world.holding m).graph.settle c.world.live := by
  refine OwnershipGraph.Supported.subset_settle (fun x hx => ?_) OwnershipGraph.settle_subset
  have hcount := OwnershipGraph.settle_supported x hx
  rw [useCount_graph] at hcount
  rw [World.useCount_holding]
  have hsub : c.graph.settle c.world.live ⊆ c.world.live := OwnershipGraph.settle_subset
  have hle := Multiset.count_le_of_le x ((capturedBy_mono hsub).trans hm)
  omega

/-- Nothing is left to go once the program holds the pointers captured by the survivors, and no more. -/
lemma settle_eq_of_holding (hm : c.capturedBy S = m) (hS : (c.world.holding m).graph.settle c.world.live = S)
    (hle : c.capturedBy c.world.live ≤ m) : c.graph.settle c.world.live = S := by
  subst hS
  refine Finset.Subset.antisymm (settle_subset_holding hle) ?_
  refine OwnershipGraph.Supported.subset_settle (fun x hx => ?_) OwnershipGraph.settle_subset
  have hcount := OwnershipGraph.settle_supported x hx
  rw [World.useCount_holding] at hcount
  rwa [useCount_graph, hm]

/-- Destroying some of what goes away anyway does not change what is left. -/
lemma settle_destroyOutside (hsub : S ⊆ c.world.live) (hsettle : c.graph.settle c.world.live ⊆ S) :
    settle { c with world := c.world.destroyOutside S } = c.settle := by
  have hsame : c.graph.settle S = c.graph.settle c.world.live :=
    OwnershipGraph.settle_eq_of_between hsub hsettle
  have hworld : (c.world.destroyOutside S).destroyOutside (c.graph.settle S) =
      c.world.destroyOutside (c.graph.settle c.world.live) := by
    rw [World.destroyOutside_destroyOutside hsub OwnershipGraph.settle_subset, hsame]
  show CapturingWorld.mk ((c.world.destroyOutside S).destroyOutside (c.graph.settle S))
    (fun x => if x ∈ c.graph.settle S then c.attachments x else .empty) = _
  rw [hworld, hsame]
  rfl

/-- After the cascade the program holds what the survivors captured. -/
lemma flatten_settle : c.settle.flatten =
    (c.world.destroyOutside (c.graph.settle c.world.live)).holding
      (c.capturedBy (c.graph.settle c.world.live)) := by
  have hsame : c.settle.capturedBy (c.graph.settle c.world.live) =
      c.capturedBy (c.graph.settle c.world.live) := by
    refine Finset.sum_congr rfl fun x hx => ?_
    show ((if x ∈ c.graph.settle c.world.live then c.attachments x else .empty).pointers : Multiset Obj) = _
    rw [if_pos hx]
    rfl
  exact congrArg (World.holding _) hsame

/-- **The cascade**: while the program holds the pointers that objects captured, and maybe more, it can
drop one after the other and gets to where everything has gone with its object. -/
lemma exists_drops (hm : c.capturedBy c.world.live ≤ m) :
    ∃ drops : List Obj, after World.step (c.world.holding m).settle (drops.map .drop) =
      some c.settle.flatten := by
  induction m using Multiset.strongInductionOn generalizing c with
  | ih m ih =>
    obtain ⟨S, hS⟩ : ∃ S, (c.world.holding m).graph.settle c.world.live = S := ⟨_, rfl⟩
    have hsub : S ⊆ c.world.live := hS ▸ OwnershipGraph.settle_subset
    have hsettle : c.graph.settle c.world.live ⊆ S := hS ▸ settle_subset_holding hm
    have hstart : (c.world.holding m).settle = (c.world.destroyOutside S).holding m := by
      rw [← hS]
      rfl
    rcases eq_or_lt_of_le ((capturedBy_mono hsub).trans hm) with heq | hlt
    · -- all that is held is captured by a survivor
      refine ⟨[], ?_⟩
      rw [List.map_nil, after_nil, flatten_settle, settle_eq_of_holding heq hS hm, heq, hstart]
    · -- a pointer was captured by an object that is gone
      obtain ⟨y, hy⟩ := Multiset.lt_iff_cons_le.mp hlt
      obtain ⟨k, hk⟩ := Multiset.le_iff_exists_add.mp hy
      have hm' : m = y ::ₘ (c.capturedBy S + k) := by rw [hk, Multiset.cons_add]
      have hdrop : (c.world.holding m).settle.step (.drop y) =
          some ((c.world.destroyOutside S).holding (c.capturedBy S + k)).settle := by
        have href : 0 < ((c.world.destroyOutside S).holding m).refs y :=
          Nat.add_pos_right _ (Multiset.count_pos.mpr (hm' ▸ Multiset.mem_cons_self y _))
        rw [hstart]
        show Option.map World.settle (if 0 < _ then some _ else none) = _
        rw [if_pos href, hm', World.release_holding_cons]
        rfl
      obtain ⟨drops, hdrops⟩ := ih (c.capturedBy S + k) (hm' ▸ Multiset.lt_cons_self _ y)
        (c := { c with world := c.world.destroyOutside S }) (Multiset.le_add_right _ k)
      rw [settle_destroyOutside hsub hsettle] at hdrops
      exact ⟨y :: drops, after_cons_eq_some.mpr ⟨_, hdrop, hdrops⟩⟩

end CapturingWorld

/-! ## What is put into an emitter -/

namespace Attachments

variable {a : Attachments}

/-- Something else in one slot is at most that much more. -/
lemma flatMap_update_le (f : EventType → Option (List Obj)) (t : EventType) (l : Option (List Obj))
    {ts : List EventType} (hts : ts.Nodup) :
    (ts.flatMap fun u => (Function.update f t l u).getD [] : Multiset Obj) ≤
      (ts.flatMap fun u => (f u).getD [] : Multiset Obj) + (l.getD [] : Multiset Obj) := by
  induction ts with
  | nil => exact Multiset.zero_le _
  | cons u us ih =>
    obtain ⟨hu, hus⟩ := List.nodup_cons.mp hts
    rw [List.flatMap_cons, List.flatMap_cons, ← Multiset.coe_add, ← Multiset.coe_add]
    by_cases hut : u = t
    · subst hut
      have hrest : (us.flatMap fun v => (Function.update f u l v).getD []) =
          us.flatMap fun v => (f v).getD [] := by
        refine List.flatMap_congr fun v hv => ?_
        rw [Function.update_of_ne (ne_of_mem_of_not_mem hv hu)]
      rw [Function.update_self, hrest, add_comm]
      exact add_le_add_left (Multiset.le_add_left _ _) _
    · rw [Function.update_of_ne hut, add_assoc]
      exact add_le_add_right (ih hus) _

/-- A slot that is assigned adds at most what its listener captured. -/
lemma pointers_update_le (t : EventType) (l : Option (List Obj)) :
    ({ a with listeners := Function.update a.listeners t l }.pointers : Multiset Obj) ≤
      (a.pointers : Multiset Obj) + (l.getD [] : Multiset Obj) := by
  unfold pointers
  rw [← Multiset.coe_add, ← Multiset.coe_add, add_right_comm]
  exact add_le_add_left (flatMap_update_le _ t l EventType.nodup_all) _

/-- `on` adds at most what the new listener captured, -/
lemma pointers_on_le (t : EventType) (captured : List Obj) :
    ((a.on t captured).pointers : Multiset Obj) ≤ (a.pointers : Multiset Obj) + (captured : Multiset Obj) :=
  pointers_update_le t (some captured)

/-- `reset` adds nothing -/
lemma pointers_reset_le (t : EventType) :
    ((a.reset t).pointers : Multiset Obj) ≤ (a.pointers : Multiset Obj) := by
  have h := pointers_update_le (a := a) t none
  rwa [Option.getD_none, Multiset.coe_nil, add_zero] at h

/-- for any number of types, -/
lemma pointers_resetAll_le (handlers : List EventType) :
    ((a.resetAll handlers).pointers : Multiset Obj) ≤ (a.pointers : Multiset Obj) := by
  unfold resetAll
  induction handlers generalizing a with
  | nil => exact le_rfl
  | cons t ts ih => exact ih.trans (pointers_reset_le t)

/-- and `data` adds at most the new user data. -/
lemma pointers_data_le (udata : Option Obj) :
    ((a.data udata).pointers : Multiset Obj) ≤ (a.pointers : Multiset Obj) + (udata.toList : Multiset Obj) := by
  show ((_ ++ udata.toList : List Obj) : Multiset Obj) ≤ _
  rw [← Multiset.coe_add]
  unfold pointers
  rw [← Multiset.coe_add, add_right_comm]
  exact Multiset.le_add_right _ _

end Attachments

/-! ## Runs -/

namespace CapturingWorld

variable {c c' : CapturingWorld} {x : Obj}

/-- What holds of a program between two actions. -/
structure Inv (c : CapturingWorld) : Prop where
  /-- There is a run without listeners and user data to where the program holds what they hold. -/
  reached : ∃ bs, after World.step .init bs = some c.flatten
  /-- Only objects that exist hold something. -/
  captured_live : ∀ x, x ∉ c.world.live → c.captured x = []

/-- The invariant holds before anything has been created. -/
lemma inv_init : init.Inv where
  reached := ⟨[], rfl⟩
  captured_live _ _ := rfl

/-- What holds of every world holds of the flattened one. -/
lemma Inv.consistent (h : c.Inv) : c.flatten.Consistent := by
  obtain ⟨bs, hbs⟩ := h.reached
  exact invariant_after (fun _ _ _ _ => World.consistent_step) World.consistent_init hbs

/-- The same change without listeners and user data: the program does something, makes copies for instance,
and then drops the pointers of what is gone. -/
def Flattens (c c' : CapturingWorld) (bs : List Action) : Prop :=
  ∃ drops : List Obj, after World.step c.flatten (bs ++ drops.map .drop) = some c'.flatten

/-- A run to where more is held leads on to the end of the cascade. -/
lemma flattens_settle {d : CapturingWorld} {m : Multiset Obj} {bs : List Action}
    (hm : d.capturedBy d.world.live ≤ m) (hbs : after World.step c.flatten bs = some (d.world.holding m).settle) :
    c.Flattens d.settle bs := by
  obtain ⟨drops, hdrops⟩ := exists_drops hm
  exact ⟨drops, after_append_eq_some.mpr ⟨_, hbs, hdrops⟩⟩

/-- **An action of a world** is one where the program holds more. -/
lemma Inv.flattens_act (h : c.Inv) {a : Action} {v : World} (hexec : c.world.exec a = some v) :
    c.Flattens (CapturingWorld.settle { c with world := v }) [a] := by
  have hcons := h.consistent
  have hext := World.extends_exec hexec
  have hnew : (c.capturedBy c.world.live).count (.loop c.world.next) = 0 := by
    by_contra hne
    have hlive := hcons.refs_live (.loop c.world.next) (Nat.add_pos_right _ (Nat.pos_of_ne_zero hne))
    exact absurd (hcons.live_lt _ hlive) (lt_irrefl _)
  have hstep : c.flatten.step a = some (v.holding (c.capturedBy c.world.live)).settle := by
    show (c.flatten.exec a).map World.settle = _
    rw [show c.flatten.exec a = _ from World.exec_holding hnew hexec]
    rfl
  -- new objects hold nothing
  have hsame : capturedBy { c with world := v } v.live = c.capturedBy c.world.live := by
    refine (Finset.sum_subset hext.live_sub fun x _ hx => ?_).symm
    show (c.captured x : Multiset Obj) = 0
    rw [h.captured_live x hx]
    rfl
  exact flattens_settle (d := { c with world := v }) hsame.le (after_cons_eq_some.mpr ⟨_, hstep, rfl⟩)

/-- **Something else is attached** to an object: the program makes copies for what is new. -/
lemma Inv.flattens_attach (h : c.Inv) {a : Attachments} {ys : List Obj} (hys : ∀ y ∈ ys, c.world.Visible y)
    (hle : (a.pointers : Multiset Obj) ≤ (c.captured x : Multiset Obj) + (ys : Multiset Obj)) :
    c.Flattens (c.attach x a).settle (ys.map .copy) := by
  have hm : (c.attach x a).capturedBy c.world.live ≤ c.capturedBy c.world.live + (ys : Multiset Obj) := by
    calc (c.attach x a).capturedBy c.world.live
      _ ≤ ∑ y ∈ c.world.live, ((c.captured y : Multiset Obj) + if y = x then (ys : Multiset Obj) else 0) := by
          refine Finset.sum_le_sum fun y _ => ?_
          by_cases hyx : y = x
          · subst hyx
            show ((Function.update c.attachments y a y).pointers : Multiset Obj) ≤ _
            rwa [Function.update_self, if_pos rfl]
          · show ((Function.update c.attachments x a y).pointers : Multiset Obj) ≤ _
            rw [Function.update_of_ne hyx, if_neg hyx, add_zero]
            rfl
      _ = c.capturedBy c.world.live + if x ∈ c.world.live then (ys : Multiset Obj) else 0 := by
          rw [Finset.sum_add_distrib, Finset.sum_ite_eq']
          rfl
      _ ≤ c.capturedBy c.world.live + (ys : Multiset Obj) := by
          refine add_le_add_right ?_ _
          split
          · exact le_rfl
          · exact Multiset.zero_le _
  have hsettled := h.consistent.settled
  refine flattens_settle (d := c.attach x a) hm ?_
  rw [World.after_copies hsettled hys]
  show some (c.flatten.holding ys) = some (c.world.holding _).settle
  rw [← World.holding_holding, ← flatten, hsettled.holding.settle_eq]

/-- **Every action** is one of a world, with copies made before and pointers dropped after it. -/
lemma Inv.flattens {a : CapturingAction} (h : c.Inv) (hstep : c.step a = some c') :
    c.Flattens c' a.flatten := by
  obtain ⟨d, hexec, rfl⟩ := Option.map_eq_some_iff.mp hstep
  cases a with
  | act a =>
    obtain ⟨v, hv, rfl⟩ := Option.map_eq_some_iff.mp hexec
    exact h.flattens_act hv
  | on x t captured =>
    obtain ⟨⟨_, _, hvis⟩, heq⟩ := Option.ite_none_right_eq_some.mp hexec
    obtain rfl := Option.some.inj heq
    exact h.flattens_attach hvis (Attachments.pointers_on_le t captured)
  | reset x t =>
    obtain ⟨_, heq⟩ := Option.ite_none_right_eq_some.mp hexec
    obtain rfl := Option.some.inj heq
    show c.Flattens _ (([] : List Obj).map .copy)
    refine h.flattens_attach (fun _ hy => absurd hy List.not_mem_nil) ?_
    exact (Attachments.pointers_reset_le t).trans (Multiset.le_add_right _ _)
  | resetAll x =>
    obtain ⟨_, heq⟩ := Option.ite_none_right_eq_some.mp hexec
    obtain rfl := Option.some.inj heq
    show c.Flattens _ (([] : List Obj).map .copy)
    refine h.flattens_attach (fun _ hy => absurd hy List.not_mem_nil) ?_
    exact (Attachments.pointers_resetAll_le _).trans (Multiset.le_add_right _ _)
  | data x udata =>
    obtain ⟨⟨_, hvis⟩, heq⟩ := Option.ite_none_right_eq_some.mp hexec
    obtain rfl := Option.some.inj heq
    exact h.flattens_attach (fun y hy => hvis y (Option.mem_toList.mp hy)) (Attachments.pointers_data_le udata)

/-- **Step lemma** for programs with listeners and user data. -/
lemma inv_step {a : CapturingAction} (h : c.Inv) (hstep : c.step a = some c') : c'.Inv := by
  obtain ⟨bs, hbs⟩ := h.reached
  obtain ⟨drops, hdrops⟩ := h.flattens hstep
  refine ⟨⟨bs ++ (a.flatten ++ drops.map .drop), after_append_eq_some.mpr ⟨_, hbs, hdrops⟩⟩, ?_⟩
  obtain ⟨d, _, rfl⟩ := Option.map_eq_some_iff.mp hstep
  intro x (hx : x ∉ d.graph.settle d.world.live)
  show (if x ∈ d.graph.settle d.world.live then d.attachments x else .empty).pointers = []
  rw [if_neg hx]
  rfl

/-- The program does nothing that one without listeners and user data could not do. -/
structure CapturesAreCopies (c : CapturingWorld) : Prop where
  /-- Such a program gets to where this one is, with the captured pointers in its own hands, -/
  reached : ∃ bs, after World.step .init bs = some c.flatten
  /-- and goes wherever it goes from there, making a copy for every pointer that is captured and dropping it
  when the object that holds it is gone. -/
  follows : ∀ a c', c.step a = some c' → c.Flattens c' a.flatten

/-- **Captured pointers are copies**: every program with listeners that capture and user data goes, action by
action, where a program without them gets that makes and drops copies instead. -/
theorem captures_are_copies (as : List CapturingAction) :
    Visits CapturingWorld.step CapturesAreCopies init as :=
  visits_of_invariant (fun _ h => ⟨h.reached, fun _ _ => h.flattens⟩) (fun _ _ _ => inv_step) inv_init

/-! ## What is reclaimed -/

/-- The object captured a pointer that leads back to it. -/
def OnCycle (c : CapturingWorld) (y : Obj) : Prop :=
  ∃ x ∈ c.captured y, Relation.ReflTransGen c.graph.Owns x y

/-- What a program with listeners and user data is promised about the objects that exist. -/
structure Reclaimed (c : CapturingWorld) : Prop where
  /-- They are those that references lead to from an object that is kept or on a cycle. -/
  mem_live_iff : ∀ x, x ∈ c.world.live ↔
    ∃ y, (c.world.Kept y ∨ c.OnCycle y) ∧ Relation.ReflTransGen c.graph.Owns y x
  /-- Where the program holds nothing, executes nothing, and nothing is registered, nothing is left, up to
  the handles of failed spawns, if there is no cycle. -/
  nothing_left : (∀ x, c.world.refs x = 0) → c.world.stack = [] →
    (∀ r, c.world.registered r = false) → (∀ r, ¬ c.world.SpawnFailed r) → (∀ y, ¬ c.OnCycle y) →
    c.world.live = ∅

/-- The use counts are those of the flattened world, -/
lemma useCount_flatten (c : CapturingWorld) (x : Obj) :
    c.flatten.graph.useCount c.flatten.live x = c.graph.useCount c.world.live x := by
  rw [useCount_graph]
  exact World.useCount_holding c.world.live x

/-- so every object is referred to, -/
lemma Inv.supported (h : c.Inv) : c.graph.Supported c.world.live := by
  intro x hx
  rw [← useCount_flatten]
  exact h.consistent.settled x hx

/-- and everything that is referred to exists. -/
lemma Inv.noDangling (h : c.Inv) : c.graph.NoDangling c.world.live := by
  intro x hx
  rw [← useCount_flatten] at hx
  exact h.consistent.toInv.noDangling x hx

/-- The handles of failed spawns stay, as they do without captures. -/
lemma Inv.failedSpawnsStay (h : c.Inv) : c.flatten.FailedSpawnsStay := by
  obtain ⟨bs, hbs⟩ := h.reached
  have hboth : c.flatten.Consistent ∧ c.flatten.FailedSpawnsStay :=
    invariant_after (I := fun w => w.Consistent ∧ w.FailedSpawnsStay)
      (fun _ _ _ _ h hstep =>
        ⟨World.consistent_step h.1 hstep, World.failedSpawnsStay_step h.1 h.2 hstep⟩)
      ⟨World.consistent_init, fun t ht => by cases ht.2⟩ hbs
  exact hboth.2

/-- What is kept or on a cycle exists. -/
lemma Inv.source_live (h : c.Inv) {y : Obj} (hy : c.world.Kept y ∨ c.OnCycle y) : y ∈ c.world.live := by
  rcases hy with hkept | ⟨x, hx, _⟩
  · cases hkept with
    | program x hrefs => exact h.consistent.refs_live y (Nat.add_pos_left hrefs _)
    | call x f hf hx => exact h.consistent.held_live f hf y hx
    | registered r hreg => exact h.consistent.toInv.live_of_registered hreg
    | spawnFailed r hfail => exact (h.failedSpawnsStay r hfail).1
  · by_contra hnot
    rw [h.captured_live y hnot] at hx
    cases hx

/-- **Cycles**: without captured pointers they are those of an object that libuv or the failed spawn of a
process keeps. -/
lemma Inv.kept_of_cycle (h : c.Inv) {y : Obj} (hcycle : Relation.TransGen c.world.graph.Owns y y) :
    c.world.Kept y := by
  have hown : c.world.graph.Owns y y :=
    OwnershipGraph.rel_self_of_transGen c.flatten.rank
      (fun _ _ hown hne => h.consistent.toInv.rank_lt hown hne) hcycle
  cases y with
  | loop l => exact absurd hown List.not_mem_nil
  | resource r =>
    rcases h.consistent.kept_of_owns_self hown with hreg | hfail
    · exact .registered r hreg
    · exact .spawnFailed r hfail

/-- **What exists** is what is kept or on a cycle, and what references lead to from there. -/
lemma Inv.reclaimed (h : c.Inv) : c.Reclaimed := by
  have htraced : ∀ x, x ∈ c.world.live ↔
      ∃ y, (c.world.Kept y ∨ c.OnCycle y) ∧ Relation.ReflTransGen c.graph.Owns y x := by
    refine fun x => ⟨fun hx => ?_, fun ⟨y, hy, hpath⟩ => h.noDangling.mem_of_path (h.source_live hy) hpath⟩
    obtain ⟨y, _, hroot | hcycle, hpath⟩ := h.supported.exists_source hx
    · rcases World.roots_pos_iff.mp hroot with hrefs | ⟨f, hf, hheld⟩
      · exact ⟨y, Or.inl (.program y hrefs), hpath⟩
      · exact ⟨y, Or.inl (.call y f hf hheld), hpath⟩
    · rcases OwnershipGraph.transGen_cases (r := c.world.graph.Owns) (s := fun u v => v ∈ c.captured u)
        (fun _ _ hown => List.mem_append.mp hown) hcycle with hplain | ⟨u, v, hu, huv, hv⟩
      · exact ⟨y, Or.inl (h.kept_of_cycle hplain), hpath⟩
      · -- the cycle passes by an object that captured a pointer
        have hown : c.graph.Owns u v := List.mem_append_right _ huv
        exact ⟨u, Or.inr ⟨v, huv, hv.trans hu⟩, Relation.ReflTransGen.head hown (hv.trans hpath)⟩
  refine ⟨htraced, fun hrefs hstack hreg hfail hcycle => ?_⟩
  refine Finset.eq_empty_of_forall_notMem fun x hx => ?_
  obtain ⟨y, hkept | hon, _⟩ := (htraced x).mp hx
  · obtain ⟨r, _, hr⟩ := hkept.exists_spawnFailed hrefs hstack hreg
    exact hfail r hr
  · exact hcycle y hon

/-- **Only cycles leak**: along every run, the objects that exist are those to which references lead from
what is kept from outside the objects, or from an object with a listener or user data that leads back to
it. -/
theorem only_cycles_leak (as : List CapturingAction) : Visits CapturingWorld.step Reclaimed init as :=
  visits_of_invariant (fun _ => Inv.reclaimed) (fun _ _ _ => inv_step) inv_init

/-- A timer whose listener captured it outlives the last pointer to it, and its loop with it, -/
example : (after CapturingWorld.step init
    [.act (.createLoop .delete), .act (.resource (.handle .timer) 0 0),
      .on (.resource 1) .timer [.resource 1], .act (.close 1), .act (.run 0), .act (.closeCallback 1),
      .act .ret, .act .runEnd, .act (.drop (.resource 1)), .act (.drop (.loop 0))]).map (·.world.live) =
    some {.loop 0, .resource 1} := by decide +kernel

/-- unless the listener is reset, for instance when the timer is closed. -/
example : (after CapturingWorld.step init
    [.act (.createLoop .delete), .act (.resource (.handle .timer) 0 0),
      .on (.resource 1) .timer [.resource 1], .act (.close 1), .act (.run 0), .act (.closeCallback 1),
      .reset (.resource 1) .timer, .act .ret, .act .runEnd, .act (.drop (.resource 1)),
      .act (.drop (.loop 0))]).map (·.world.live) = some ∅ := by decide +kernel

end CapturingWorld

end Uvw
