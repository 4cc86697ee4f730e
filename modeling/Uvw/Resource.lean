import Mathlib.Algebra.Group.Int.Defs
import Mathlib.Algebra.Group.Nat.Defs
import Mathlib.Tactic.Common

/-!
# Resources, their events and their callbacks

Handles and requests derive from `resource<T, U, E...>`, which adds to the raw libuv structure a
shared pointer to the owning loop (`uv_type::owner`) and the self reference `self_ptr`.  This file
models that record with the member functions that touch `self_ptr`, the events, and the callbacks
that libuv is given: each turns its arguments into at most one event.
-/

namespace Uvw

/-- `UV_EOF`. -/
def uvEof : Int := -4095

/-- `UV_UDP_PARTIAL`. -/
def uvUdpPartial : ℕ := 2

/-! ## Classes -/

/-- The handle classes. -/
inductive HandleClass
  | async | check | fsEvent | fsPoll | idle | pipe | poll | prepare | process | signal | tcp | timer
  | tty | udp
deriving DecidableEq, Repr

/-- The request classes that are submitted through `leak_if`. -/
inductive RequestClass
  | work | getAddrInfo | getNameInfo | connect | shutdown | write | send
deriving DecidableEq, Repr

/-- The class of a resource. -/
inductive ResourceClass
  | handle (c : HandleClass)
  | request (c : RequestClass)
deriving DecidableEq, Repr

/-- The handle classes derived from `stream_handle`. -/
def HandleClass.isStream : HandleClass → Bool
  | .pipe | .tcp | .tty => true
  | _ => false

/-- The handle classes that libuv starts without looking whether the handle is closing.  It refuses
to start a closing timer or stream with `UV_EINVAL` and asserts that a poll or signal handle is not
closing. -/
def HandleClass.startsClosed : HandleClass → Bool
  | .check | .fsEvent | .fsPoll | .idle | .prepare | .udp => true
  | _ => false

/-! ## The record -/

/-- The deleter of the data of a `write_req` or `send_req`. -/
inductive DataDeleter
  /-- The buffer belongs to the request. -/
  | delete
  /-- `[](char *) {}`: the buffer stays with the caller. -/
  | keep
deriving DecidableEq, Repr

/-- A handle or request object. -/
structure Resource where
  cls : ResourceClass
  /-- `uv_type::owner`. -/
  owner : ℕ
  /-- `resource::self_ptr`: null, or a `shared_ptr` to the object itself. -/
  selfPtr : Bool
  /-- The handle captured by the listeners that forward the events of a request to it. -/
  target : Option ℕ
  /-- The deleter of the data of a `write_req` or `send_req`. -/
  data : Option DataDeleter
deriving DecidableEq, Repr

namespace Resource

/-- A resource as its constructor leaves it. -/
def construct (cls : ResourceClass) (owner : ℕ) : Resource :=
  { cls, owner, selfPtr := false, target := none, data := none }

instance : Inhabited Resource := ⟨construct (.handle .async) 0⟩

/-- `resource::leak_if`: the object takes a reference to itself when `err` is `0`. -/
def leakIf (err : Int) (x : Resource) : Resource :=
  if err = 0 then { x with selfPtr := true } else x

/-- `resource::self_reset`. -/
def selfReset (x : Resource) : Resource := { x with selfPtr := false }

/-- `resource::has_self`. -/
def hasSelf (x : Resource) : Bool := x.selfPtr

/-- The resource is a handle. -/
def isHandle (x : Resource) : Bool :=
  match x.cls with
  | .handle _ => true
  | .request _ => false

/-- The resource is a request. -/
def isRequest (x : Resource) : Bool := !x.isHandle

variable (x : Resource) (err : Int)

/-- `leak_if` sets the self reference on success and keeps it otherwise. -/
@[simp] lemma leakIf_selfPtr :
    (x.leakIf err).selfPtr = (decide (err = 0) || x.selfPtr) := by
  unfold leakIf
  split <;> simp [*]

/-- It changes nothing else: not the class, -/
@[simp] lemma leakIf_cls : (x.leakIf err).cls = x.cls := by unfold leakIf; split <;> rfl
/-- the loop, -/
@[simp] lemma leakIf_owner : (x.leakIf err).owner = x.owner := by unfold leakIf; split <;> rfl
/-- the captured handle -/
@[simp] lemma leakIf_target : (x.leakIf err).target = x.target := by unfold leakIf; split <;> rfl
/-- or the data. -/
@[simp] lemma leakIf_data : (x.leakIf err).data = x.data := by unfold leakIf; split <;> rfl
/-- `self_reset` clears the self reference -/
@[simp] lemma selfReset_selfPtr : x.selfReset.selfPtr = false := rfl
/-- and keeps the class, -/
@[simp] lemma selfReset_cls : x.selfReset.cls = x.cls := rfl
/-- the loop, -/
@[simp] lemma selfReset_owner : x.selfReset.owner = x.owner := rfl
/-- the captured handle -/
@[simp] lemma selfReset_target : x.selfReset.target = x.target := rfl
/-- and the data. -/
@[simp] lemma selfReset_data : x.selfReset.data = x.data := rfl

end Resource

/-! ## Events -/

/-- A `uv_stat_t`, as the bytes libuv fills in; `uvw` copies it and reads none of its fields. -/
structure FileInfo where
  bytes : List UInt8
deriving DecidableEq, Repr

/-- The constructor of `error_event` casts to `int`. -/
def errorCode (val : Int) : Int := val.bmod (2 ^ 32)

/-- The cast keeps the codes of libuv, which fit into an `int`. -/
lemma errorCode_eq {val : Int} (hlow : -2 ^ 31 ≤ val) (hneg : val < 0) : errorCode val = val := by
  have hlow' : -(2 ^ 32 / 2 : ℕ) ≤ val := by omega
  have hhigh : val < ((2 ^ 32 + 1) / 2 : ℕ) := by omega
  exact Int.bmod_eq_of_le hlow' hhigh

/-- The events published by handles and requests. -/
inductive Event
  | error (code : Int)
  | close
  -- completions of requests
  | work | addrInfo | nameInfo | connect | shutdown | write | send
  -- events of handles
  | async | check | idle | prepare | timer
  | fsEvent (filename : String) (flags : Int)
  | fsPoll (prev curr : FileInfo)
  | poll (flags : Int)
  | signal (signum : Int)
  | exit (status signal : Int)
  | end
  | listen
  | data (length : ℕ)
  | udpData (length : ℕ) (truncated : Bool)
deriving DecidableEq, Repr

/-! ### Completion callbacks of requests

All of them publish an `error_event` with a nonzero status and their own event otherwise. -/

/-- The event of a completion with the given status, `ok` being the event of a success. -/
def completionEvent (ok : Event) (status : Int) : Event :=
  if status ≠ 0 then .error status else ok

/-- `work_req::after_work_callback`. -/
def afterWorkCallback (status : Int) : Event := completionEvent .work status

/-- `get_addr_info_req::addr_info_callback`. -/
def addrInfoCallback (status : Int) : Event := completionEvent .addrInfo status

/-- `get_name_info_req::name_info_callback`. -/
def nameInfoCallback (status : Int) : Event := completionEvent .nameInfo status

/-- `connect_req::connect_callback`. -/
def connectCallback (status : Int) : Event := completionEvent .connect status

/-- `shutdown_req::shoutdown_callback`. -/
def shoutdownCallback (status : Int) : Event := completionEvent .shutdown status

/-- `write_req::write_callback`. -/
def writeCallback (status : Int) : Event := completionEvent .write status

/-- `send_req::udp_send_callback`. -/
def udpSendCallback (status : Int) : Event := completionEvent .send status

/-- The callback a request class hands to libuv, as the event it publishes on the request. -/
def RequestClass.callback : RequestClass → Int → Event
  | .work => afterWorkCallback
  | .getAddrInfo => addrInfoCallback
  | .getNameInfo => nameInfoCallback
  | .connect => connectCallback
  | .shutdown => shoutdownCallback
  | .write => writeCallback
  | .send => udpSendCallback

/-- The event of a successful completion. -/
def RequestClass.success : RequestClass → Event
  | .work => .work
  | .getAddrInfo => .addrInfo
  | .getNameInfo => .nameInfo
  | .connect => .connect
  | .shutdown => .shutdown
  | .write => .write
  | .send => .send

/-- Every completion callback publishes the success event of its class or the error it was given. -/
lemma RequestClass.callback_eq (c : RequestClass) (status : Int) :
    c.callback status = completionEvent c.success status := by
  cases c <;> rfl

/-! ### Callbacks of handles -/

/-- The callbacks, other than the close callback, that handles hand to libuv, with the arguments
libuv calls them with. -/
inductive HandleCallback
  | asyncSend
  | checkStart
  | idleStart
  | prepareStart
  | timerStart
  | fsEventStart (filename : String) (events status : Int)
  | fsPollStart (status : Int) (prev curr : FileInfo)
  | pollStart (status events : Int)
  | signalStart (signum : Int)
  | processExit (exitStatus termSignal : Int)
  | streamRead (nread : Int)
  | streamListen (status : Int)
  | udpRecv (nread : Int) (addr : Bool) (flags : ℕ)
deriving DecidableEq, Repr

namespace HandleCallback

/-- The event a callback publishes on its handle, if any. -/
def event : HandleCallback → Option Event
  | .asyncSend => some .async
  | .checkStart => some .check
  | .idleStart => some .idle
  | .prepareStart => some .prepare
  | .timerStart => some .timer
  | .fsEventStart filename events status =>
    some (if status ≠ 0 then .error status else .fsEvent filename events)
  | .fsPollStart status prev curr =>
    some (if status ≠ 0 then .error status else .fsPoll prev curr)
  | .pollStart status events => some (if status ≠ 0 then .error status else .poll events)
  | .signalStart signum => some (.signal signum)
  | .processExit exitStatus termSignal => some (.exit exitStatus termSignal)
  | .streamRead nread =>
    if nread = uvEof then some .end
    else if 0 < nread then some (.data nread.toNat)
    else if nread < 0 then some (.error (errorCode nread))
    -- `nread == 0` is ignored
    else none
  | .streamListen status => some (if status ≠ 0 then .error status else .listen)
  | .udpRecv nread addr flags =>
    if 0 < nread then some (.udpData nread.toNat (flags &&& uvUdpPartial ≠ 0))
    else if nread = 0 ∧ addr = false then none
    else if nread = 0 ∧ addr = true then some (.udpData 0 false)
    else some (.error (errorCode nread))

/-- The callbacks a handle class hands to libuv. -/
def belongsTo : HandleCallback → HandleClass → Bool
  | .asyncSend, c => c = .async
  | .checkStart, c => c = .check
  | .idleStart, c => c = .idle
  | .prepareStart, c => c = .prepare
  | .timerStart, c => c = .timer
  | .fsEventStart .., c => c = .fsEvent
  | .fsPollStart .., c => c = .fsPoll
  | .pollStart .., c => c = .poll
  | .signalStart _, c => c = .signal
  | .processExit .., c => c = .process
  | .streamRead _, c => c.isStream
  | .streamListen _, c => c.isStream
  | .udpRecv .., c => c = .udp

/-- No callback but the close callback publishes a `close_event`. -/
lemma event_ne_close (cb : HandleCallback) : cb.event ≠ some .close := by
  cases cb <;> simp only [event] <;> grind

end HandleCallback

/-- No completion is a `close_event`. -/
lemma RequestClass.callback_ne_close (c : RequestClass) (status : Int) :
    c.callback status ≠ .close := by
  rw [c.callback_eq, completionEvent]
  split
  · simp
  · cases c <;> simp [success]

end Uvw
