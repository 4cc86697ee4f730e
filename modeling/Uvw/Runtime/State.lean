import Uvw.Foundation.SharedOwnership
import Uvw.Loop
import Uvw.Resource

/-!
# The state of a program that uses the library

A `World` holds the loop, handle and request objects of a program together with every reference to
them and libuv's view of them.  Objects are reference-counted: `World.graph` lists the shared
pointers held outside the objects (by the program and by the running callbacks) and inside them
(`owner`, `self_ptr` and the handle captured by the listeners that forward the events of a request),
and `World.settle` destroys what `OwnershipGraph.settle` says is gone, running `~loop` and the
deleters of the data of requests.
-/

namespace Uvw

/-- A reference-counted object. -/
inductive Obj
  | loop (l : ℕ)
  | resource (r : ℕ)
deriving DecidableEq, Repr

/-- The number an object was created under. -/
def Obj.id : Obj → ℕ
  | .loop l => l
  | .resource r => r

/-- What libuv knows of a handle. -/
inductive UvHandle
  /-- Never initialised. -/
  | none
  /-- Its initialisation failed, so it is not registered. -/
  | failed
  /-- Registered and not closing. -/
  | open
  /-- `uv_close` was called on it; its close callback has not started. -/
  | closing
  /-- Its close callback has started. -/
  | closed
deriving DecidableEq, Repr

/-- libuv has the handle registered and its close callback has not started. -/
def UvHandle.registered : UvHandle → Bool
  | .open | .closing => true
  | _ => false

/-- A call of libuv that is being executed. -/
inductive Frame
  /-- `uv_run` on a loop; its caller holds a `shared_ptr` to the loop object. -/
  | running (l : ℕ)
  /-- The completion callback of a request, which holds the `shared_ptr` made by `reserve`. -/
  | request (r : ℕ)
  /-- A callback of a handle other than its close callback. -/
  | handle (h : ℕ)
  /-- The close callback of a handle, which holds a `shared_ptr` to it. -/
  | closing (h : ℕ)
deriving DecidableEq, Repr

/-- The object a frame holds a `shared_ptr` to. -/
def Frame.held : Frame → List Obj
  | .running l => [.loop l]
  | .request r => [.resource r]
  | .handle _ => []
  | .closing h => [.resource h]

/-- The frame is a callback. -/
def Frame.isCallback : Frame → Bool
  | .running _ => false
  | _ => true

/-- The stream and udp operations that are submitted through a request of their own. -/
inductive StreamOp
  | write | shutdown | connect | send
deriving DecidableEq, Repr

/-- The request class of an operation. -/
def StreamOp.request : StreamOp → RequestClass
  | .write => .write
  | .shutdown => .shutdown
  | .connect => .connect
  | .send => .send

/-- The handle classes that have an operation. -/
def StreamOp.supportedBy : StreamOp → HandleClass → Bool
  | .write, c => c.isStream
  | .shutdown, c => c.isStream
  | .connect, c => c = .tcp ∨ c = .pipe
  | .send, c => c = .udp

/-- The history of a program. -/
inductive Entry
  /-- An operation was called on the handle `h`; its request is `r`, which holds data with the given
  deleter if any, and libuv returned `code`. -/
  | called (r h : ℕ) (op : StreamOp) (data : Option DataDeleter) (code : Int)
  /-- libuv completed the request `r`. -/
  | completed (r : ℕ) (status : Int)
  /-- An event was published on a resource, forwarded by the listeners of the request `via` if any;
  `alive` tells whether the resource existed. -/
  | published (on : ℕ) (ev : Event) (via : Option ℕ) (alive : Bool)
  /-- libuv called back into a resource that did not exist. -/
  | dangling (r : ℕ)
  /-- `uv_close` was called by `handle::close` on a handle in the given state. -/
  | uvClose (h : ℕ) (before : UvHandle)
deriving DecidableEq, Repr

/-- The objects of a program, the references to them and libuv's view of them. -/
structure World where
  /-- The number of the next object. -/
  next : ℕ
  /-- The objects that exist. -/
  live : Finset Obj
  resources : ℕ → Resource
  loops : ℕ → Loop
  /-- The shared pointers held by the program. -/
  refs : Obj → ℕ
  /-- The calls being executed, innermost first. -/
  stack : List Frame
  uvHandle : ℕ → UvHandle
  /-- libuv accepted a start of the handle after `uv_close`: it is in the queues of its loop again,
  and the close callback does not take it out.  Whether it is stopped later is not told, as it is not
  of the handles that are open. -/
  late : ℕ → Bool
  /-- libuv holds an accepted, not yet completed operation of the request. -/
  pending : ℕ → Bool
  /-- How often the data of a request was released by its deleter. -/
  released : ℕ → ℕ
  /-- The results of the calls of `uv_loop_close` on the `uv_loop_t` of a loop object. -/
  loopCloses : ℕ → List Int
  log : List Entry

namespace World

/-- Nothing has been created. -/
def init : World where
  next := 0
  live := ∅
  resources := fun _ => default
  loops := fun _ => .fresh .delete
  refs := fun _ => 0
  stack := []
  uvHandle := fun _ => .none
  late := fun _ => false
  pending := fun _ => false
  released := fun _ => 0
  loopCloses := fun _ => []
  log := []

variable (w : World)

/-- The shared pointers to an object held outside every object. -/
def roots (x : Obj) : ℕ :=
  w.refs x + (w.stack.flatMap Frame.held).count x

/-- The shared pointers held by an object: `self_ptr`, `owner` and what its listeners capture. -/
def owned : Obj → List Obj
  | .loop _ => []
  | .resource r =>
    (if (w.resources r).selfPtr then [.resource r] else []) ++
      .loop (w.resources r).owner :: (w.resources r).target.toList.map .resource

/-- The ownership graph of the program. -/
def graph : OwnershipGraph Obj where
  roots := w.roots
  owned := w.owned

/-- libuv has something of the resource registered in its loop. -/
def registered (r : ℕ) : Bool :=
  (w.uvHandle r).registered || w.pending r

/-- libuv has a handle or an accepted request registered in the loop. -/
def busy (l : ℕ) : Bool :=
  (List.range w.next).any fun r => decide ((w.resources r).owner = l) && w.registered r

/-- The object exists in `w` and is destroyed when only the objects of `live` remain. -/
def Dies (live : Finset Obj) (x : Obj) : Prop := x ∈ w.live ∧ x ∉ live

instance (live : Finset Obj) (x : Obj) : Decidable (w.Dies live x) := by
  unfold Dies; infer_instance

/-- The state of a loop object after its destructor. -/
def loopDtor (l : ℕ) : Loop := (w.loops l).dtor (w.busy l)

/-- How often destroying the request releases its data. -/
def dataDtor (r : ℕ) : ℕ :=
  if (w.resources r).data = some .delete then 1 else 0

/-- Only the objects of `live` remain: the others are destroyed. -/
def destroyOutside (live : Finset Obj) : World :=
  { w with
    live
    loops := fun l => if w.Dies live (.loop l) then w.loopDtor l else w.loops l
    loopCloses := fun l =>
      if w.Dies live (.loop l) ∧ (w.loops l).uvLoop.isSome then
        w.loopCloses l ++ [((w.loops l).close (w.busy l)).1]
      else w.loopCloses l
    released := fun r =>
      if w.Dies live (.resource r) then w.released r + w.dataDtor r else w.released r }

/-- Every object without a shared pointer to it is destroyed, and what it owned with it. -/
def settle : World := w.destroyOutside (w.graph.settle w.live)

/-- Change one resource record. -/
def modify (r : ℕ) (f : Resource → Resource) : World :=
  { w with resources := Function.update w.resources r (f (w.resources r)) }

/-- Add entries to the history. -/
def record (es : List Entry) : World := { w with log := w.log ++ es }

end World

end Uvw
