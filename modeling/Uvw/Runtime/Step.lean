import Uvw.Runtime.State

/-!
# What a program and libuv can do

`World.exec` is one action: a call of the library by the program, from anywhere (also from inside a
listener), or a call of libuv into the library from inside `uv_run`.  libuv's answers (the code a
call returns, the status of a completion) are part of the action.  `World.step` is the action
followed by the destruction of what nothing refers to any more.

What is assumed of libuv is written as the condition under which an action of libuv is possible:
callbacks are delivered from inside `uv_run` of their loop, and to a handle whose close callback has
run only if it was started again after `uv_close`, an accepted request is completed once and before
the close callback of its handle, no request is accepted on a closed handle, and a call that refuses
leaves nothing registered.
-/

namespace Uvw

/-- One action of the program or of libuv. -/
inductive Action
  /-- `loop::create()`, or with the deleter that keeps the memory `loop::create(uv_loop_t *)` and the
  first `loop::get_default()`. -/
  | createLoop (d : LoopDeleter)
  /-- `loop::close()`. -/
  | closeLoop (l : ℕ)
  /-- The program calls `loop::run`. -/
  | run (l : ℕ)
  /-- `uv_run` returns. -/
  | runEnd
  /-- The program copies a `shared_ptr`. -/
  | copy (x : Obj)
  /-- The program drops a `shared_ptr`. -/
  | drop (x : Obj)
  /-- `loop::uninitialized_resource<R>()`. -/
  | create (cls : ResourceClass) (l : ℕ)
  /-- `R::init()`, `code` being what libuv returns. -/
  | init (h : ℕ) (code : Int)
  /-- `loop::resource<R>()`. -/
  | resource (cls : ResourceClass) (l : ℕ) (code : Int)
  /-- `process_handle::spawn`; after a failure libuv may have registered the handle. -/
  | spawn (h : ℕ) (code : Int) (registered : Bool)
  /-- A call that makes libuv watch for something (`start`, `recv`, `read`, `listen`, ...), `code`
  being what libuv returns. -/
  | start (h : ℕ) (code : Int)
  /-- Any other call on a handle (stop, bind, ...): it hands the raw handle to libuv and leaves
  the object alone. -/
  | call (h : ℕ)
  /-- `handle::close()`. -/
  | close (h : ℕ)
  /-- `tcp_handle::close_reset()`. -/
  | closeReset (h : ℕ) (code : Int)
  /-- A request is submitted: `queue`, `node_addr_info`, `name_info`, `connect`, ... -/
  | submit (r : ℕ) (code : Int)
  /-- `request::cancel()`; the operation still completes. -/
  | cancel (r : ℕ)
  /-- `stream_handle::write`, with or without a handle to send. -/
  | write (h : ℕ) (send : Option ℕ) (data : DataDeleter) (code : Int)
  /-- `stream_handle::shutdown`. -/
  | shutdown (h : ℕ) (code : Int)
  /-- `tcp_handle::connect` and `pipe_handle::connect`. -/
  | connect (h : ℕ) (code : Int)
  /-- `udp_handle::send`. -/
  | send (h : ℕ) (data : DataDeleter) (code : Int)
  /-- libuv completes a request. -/
  | complete (r : ℕ) (status : Int)
  /-- libuv calls a callback of a handle other than its close callback. -/
  | callback (h : ℕ) (cb : HandleCallback)
  /-- libuv calls the close callback of a handle. -/
  | closeCallback (h : ℕ)
  /-- The innermost callback returns. -/
  | ret
deriving DecidableEq, Repr

namespace World

variable (w : World)

/-- The class of a handle. -/
def handleClass? (h : ℕ) : Option HandleClass :=
  match (w.resources h).cls with
  | .handle c => some c
  | .request _ => none

/-- The handle object exists. -/
def IsLiveHandle (h : ℕ) : Prop := .resource h ∈ w.live ∧ (w.resources h).isHandle

/-- The request object exists and is the program's: the requests made by `write`, `shutdown`,
`connect` and `send` are local to them. -/
def IsLiveRequest (r : ℕ) : Prop :=
  .resource r ∈ w.live ∧ (w.resources r).isRequest ∧ (w.resources r).target = none

/-- The innermost call is the `uv_run` of the loop. -/
def InRun (l : ℕ) : Prop := w.stack.head? = some (.running l)

/-- The program can name the object. -/
def Visible : Obj → Prop
  | .loop l => .loop l ∈ w.live
  | .resource r => .resource r ∈ w.live ∧ (w.resources r).target = none

instance (h : ℕ) : Decidable (w.IsLiveHandle h) := by unfold IsLiveHandle; infer_instance
instance (r : ℕ) : Decidable (w.IsLiveRequest r) := by unfold IsLiveRequest; infer_instance
instance (l : ℕ) : Decidable (w.InRun l) := by unfold InRun; infer_instance
instance (x : Obj) : Decidable (w.Visible x) := by
  cases x <;> (unfold Visible; infer_instance)

/-! ## Loops and references -/

/-- `loop::create()` with a successful `uv_loop_init`: the caller gets the only reference. -/
def createLoop (d : LoopDeleter) : World :=
  { w with
    next := w.next + 1
    live := insert (.loop w.next) w.live
    loops := Function.update w.loops w.next (.fresh d)
    refs := Function.update w.refs (.loop w.next) 1 }

/-- `loop::close()`. -/
def closeLoop (l : ℕ) : World :=
  { w with
    loops := Function.update w.loops l ((w.loops l).close (w.busy l)).2
    loopCloses :=
      if (w.loops l).uvLoop.isSome then
        Function.update w.loopCloses l (w.loopCloses l ++ [((w.loops l).close (w.busy l)).1])
      else w.loopCloses }

/-- One more shared pointer in the hands of the program. -/
def acquire (x : Obj) : World := { w with refs := Function.update w.refs x (w.refs x + 1) }

/-- One shared pointer less in the hands of the program. -/
def release (x : Obj) : World := { w with refs := Function.update w.refs x (w.refs x - 1) }

/-- A call starts. -/
def push (f : Frame) : World := { w with stack := f :: w.stack }

/-- The innermost call returns. -/
def pop : World := { w with stack := w.stack.tail }

/-! ## Resources -/

/-- A new resource object held by nobody yet. -/
def allocate (x : Resource) : World :=
  { w with
    next := w.next + 1
    live := insert (.resource w.next) w.live
    resources := Function.update w.resources w.next x }

/-- `loop::uninitialized_resource`: the caller gets the only reference. -/
def uninitializedResource (cls : ResourceClass) (l : ℕ) : World :=
  (w.allocate (.construct cls l)).acquire (.resource w.next)

/-- libuv's view of a handle after an initialisation that returned `code`. -/
def uvInit (h : ℕ) (code : Int) : World :=
  { w with uvHandle := Function.update w.uvHandle h (if code = 0 then .open else .failed) }

/-- `R::init()`, for the class of the handle.  All classes pass the result of their `uv_*_init` to
`leak_if`; process handles are initialised by `spawn` and only return `0`. -/
def initHandle (h : ℕ) (code : Int) : World :=
  match w.handleClass? h with
  | some .process => w
  | _ => (w.uvInit h code).modify h (·.leakIf code)

/-- What `R::init()` returns when libuv returns `code`; the requests have no `init`. -/
def initResult (cls : ResourceClass) (code : Int) : Int :=
  match cls with
  | .handle .process => 0
  | .handle _ => code
  | .request _ => 0

/-- `loop::resource`: the new object if its initialisation succeeds, null otherwise. -/
def resource (cls : ResourceClass) (l : ℕ) (code : Int) : World × Option ℕ :=
  let ptr := w.next
  let w := w.uninitializedResource cls l
  let w := match cls with
    | .handle _ => w.initHandle ptr code
    | .request _ => w
  if initResult cls code = 0 then (w, some ptr) else (w.release (.resource ptr), none)

/-- `process_handle::spawn`: `leak_if(0)`, then `uv_spawn`. -/
def spawn (h : ℕ) (code : Int) (registered : Bool) : World :=
  let w := w.modify h (·.leakIf 0)
  { w with
    uvHandle := Function.update w.uvHandle h (if code = 0 ∨ registered then .open else .failed) }

/-- `handle::closing()`. -/
def closing (h : ℕ) : Bool := decide (w.uvHandle h = .closing) || decide (w.uvHandle h = .closed)

/-- `uv_close`. -/
def uvClose (h : ℕ) : World := { w with uvHandle := Function.update w.uvHandle h .closing }

/-- `handle::close()`. -/
def close (h : ℕ) : World :=
  if w.closing h then w else (w.uvClose h).record [.uvClose h (w.uvHandle h)]

/-- `tcp_handle::close_reset()`: `uv_tcp_close_reset` closes the handle itself when it returns `0`. -/
def closeReset (h : ℕ) (code : Int) : World := if code = 0 then w.uvClose h else w

/-- The `start` functions of the handles: each hands the raw handle to libuv and none asks whether it
is closing.  Accepted after `uv_close`, the start puts the handle back into the queues of the
loop. -/
def start (h : ℕ) (code : Int) : World :=
  if code = 0 ∧ w.closing h then { w with late := Function.update w.late h true } else w

/-! ## Requests -/

/-- libuv accepts the request when it returns `0`. -/
def uvSubmit (r : ℕ) (code : Int) : World :=
  if code = 0 then { w with pending := Function.update w.pending r true } else w

/-- A submission: the result of the libuv call is passed to `leak_if`. -/
def submit (r : ℕ) (code : Int) : World := (w.uvSubmit r code).modify r (·.leakIf code)

/-- The common body of `write`, `shutdown`, `connect` and `send`: a request is created, two
listeners that capture a `shared_ptr` to the handle are installed on it, it is submitted, and the
local reference to it goes away. -/
def operate (h : ℕ) (op : StreamOp) (data : Option DataDeleter) (code : Int) : World :=
  let req := w.next
  let w := w.allocate
    { Resource.construct (.request op.request) (w.resources h).owner with target := some h, data }
  (w.submit req code).record [.called req h op data code]

/-- `stream_handle::write`, all four overloads. -/
def write (h : ℕ) (_send : Option ℕ) (data : DataDeleter) (code : Int) : World :=
  w.operate h .write (some data) code

/-- `stream_handle::shutdown`. -/
def shutdown (h : ℕ) (code : Int) : World := w.operate h .shutdown none code

/-- `tcp_handle::connect` and `pipe_handle::connect`. -/
def connect (h : ℕ) (code : Int) : World := w.operate h .connect none code

/-- `udp_handle::send`, with and without ownership of the data. -/
def send (h : ℕ) (data : DataDeleter) (code : Int) : World :=
  w.operate h .send (some data) code

/-- The class of a request. -/
def requestClass? (r : ℕ) : Option RequestClass :=
  match (w.resources r).cls with
  | .handle _ => none
  | .request c => some c

/-- Publish the event of a completion on a request, and on the handle its listeners forward it
to. -/
def publishCompletion (r : ℕ) (ev : Event) : World :=
  w.record (.published r ev none true ::
    (w.resources r).target.toList.map fun h =>
      .published h ev (some r) (decide (.resource h ∈ w.live)))

/-- `request::reserve`: a local `shared_ptr` to the request, which gives up its self reference. -/
def reserve (r : ℕ) : World := (w.push (.request r)).modify r (·.selfReset)

/-- The completion callback of a request: `reserve`, then `publish`. -/
def completionCallback (r : ℕ) (c : RequestClass) (status : Int) : World :=
  if .resource r ∈ w.live then (w.reserve r).publishCompletion r (c.callback status)
  else w.record [.dangling r]

/-- libuv completes a request and calls its callback. -/
def complete (r : ℕ) (c : RequestClass) (status : Int) : World :=
  let w := { w with pending := Function.update w.pending r false }
  (w.record [.completed r status]).completionCallback r c status

/-! ## Callbacks of handles -/

/-- A callback of a handle other than its close callback. -/
def handleCallback (h : ℕ) (cb : HandleCallback) : World :=
  if .resource h ∈ w.live then
    (w.push (.handle h)).record (cb.event.toList.map fun ev => .published h ev none true)
  else w.record [.dangling h]

/-- `handle::close_callback`: a local `shared_ptr` to the handle, which gives up its self reference
and publishes a `close_event`. -/
def closeCallback (h : ℕ) : World :=
  let w := { w with uvHandle := Function.update w.uvHandle h .closed }
  if .resource h ∈ w.live then
    ((w.push (.closing h)).modify h (·.selfReset)).record [.published h .close none true]
  else w.record [.dangling h]

/-- The innermost call is a callback. -/
def InCallback : Prop := ∃ f ∈ w.stack.head?, f.isCallback = true

instance : Decidable w.InCallback := by unfold InCallback; infer_instance

/-- libuv may accept a stream or udp operation on the handle: it is initialised, its class has the
operation, and nothing is accepted once its close callback has started. -/
def CanOperate (h : ℕ) (op : StreamOp) (code : Int) : Prop :=
  w.IsLiveHandle h ∧ (∃ c ∈ w.handleClass? h, op.supportedBy c = true) ∧
    ((w.uvHandle h).registered = true ∨ w.uvHandle h = .closed ∧ code ≠ 0)

instance (h : ℕ) (op : StreamOp) (code : Int) : Decidable (w.CanOperate h op code) := by
  unfold CanOperate; infer_instance

/-- libuv can start the handle: it is initialised, and closing only if libuv does not look at that
for its class. -/
def CanStart (h : ℕ) (code : Int) : Prop :=
  w.IsLiveHandle h ∧ w.uvHandle h ≠ .none ∧ w.uvHandle h ≠ .failed ∧
    (code = 0 → w.closing h = true → ∃ c ∈ w.handleClass? h, c.startsClosed = true)

instance (h : ℕ) (code : Int) : Decidable (w.CanStart h code) := by
  unfold CanStart; infer_instance

/-- An accepted request of the handle has not been completed. -/
def hasPending (h : ℕ) : Bool :=
  (List.range w.next).any fun r => decide ((w.resources r).target = some h) && w.pending r

/-! ## Actions -/

/-- One action, before anything is destroyed; `none` where the action is not possible. -/
def exec : Action → Option World
  | .createLoop d => some (w.createLoop d)
  | .closeLoop l => if .loop l ∈ w.live then some (w.closeLoop l) else none
  | .run l =>
    if 0 < w.refs (.loop l) ∧ (w.loops l).uvLoop.isSome ∧ .running l ∉ w.stack then
      some (w.push (.running l))
    else none
  | .runEnd => if ∃ l ∈ List.range w.next, w.InRun l then some w.pop else none
  | .copy x => if w.Visible x then some (w.acquire x) else none
  | .drop x => if 0 < w.refs x then some (w.release x) else none
  | .create cls l => if .loop l ∈ w.live then some (w.uninitializedResource cls l) else none
  | .init h code =>
    if w.IsLiveHandle h ∧ w.uvHandle h = .none ∧ (w.loops (w.resources h).owner).uvLoop.isSome then
      some (w.initHandle h code)
    else none
  | .resource cls l code =>
    if .loop l ∈ w.live ∧ (w.loops l).uvLoop.isSome then some (w.resource cls l code).1 else none
  | .spawn h code registered =>
    if w.IsLiveHandle h ∧ w.handleClass? h = some .process ∧ w.uvHandle h = .none ∧
        (w.loops (w.resources h).owner).uvLoop.isSome then
      some (w.spawn h code registered)
    else none
  | .start h code => if w.CanStart h code then some (w.start h code) else none
  | .call h => if w.IsLiveHandle h then some w else none
  | .close h =>
    if w.IsLiveHandle h ∧ w.uvHandle h ≠ .none ∧ w.uvHandle h ≠ .failed then some (w.close h)
    else none
  | .closeReset h code =>
    -- libuv refuses to reset a handle whose socket is gone
    if w.IsLiveHandle h ∧ w.handleClass? h = some .tcp ∧
        (w.uvHandle h = .open ∨ w.closing h ∧ code ≠ 0) then
      some (w.closeReset h code)
    else none
  | .submit r code =>
    if w.IsLiveRequest r ∧ w.pending r = false ∧ (w.loops (w.resources r).owner).uvLoop.isSome then
      some (w.submit r code)
    else none
  | .cancel r => if w.IsLiveRequest r then some w else none
  | .write h send data code =>
    if w.CanOperate h .write code then some (w.write h send data code) else none
  | .shutdown h code => if w.CanOperate h .shutdown code then some (w.shutdown h code) else none
  | .connect h code => if w.CanOperate h .connect code then some (w.connect h code) else none
  | .send h data code =>
    if w.CanOperate h .send code then some (w.send h data code) else none
  | .complete r status =>
    match w.requestClass? r with
    | some c =>
      if w.pending r ∧ w.InRun (w.resources r).owner then some (w.complete r c status) else none
    | none => none
  | .callback h cb =>
    match w.handleClass? h with
    | some c =>
      if ((w.uvHandle h).registered ∨ w.late h) ∧ w.InRun (w.resources h).owner ∧ cb.belongsTo c then
        some (w.handleCallback h cb)
      else none
    | none => none
  | .closeCallback h =>
    if w.uvHandle h = .closing ∧ w.InRun (w.resources h).owner ∧ w.hasPending h = false then
      some (w.closeCallback h)
    else none
  | .ret => if w.InCallback then some w.pop else none

/-- One action and the destructions it causes. -/
def step (a : Action) : Option World := (w.exec a).map settle

end World

end Uvw
