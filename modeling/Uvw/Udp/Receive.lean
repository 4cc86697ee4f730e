import Uvw.Address
import Uvw.Buffer
import Uvw.Foundation.TransitionSystem
import Uvw.Resource

/-!
# Receive buffers of udp handles

libuv asks the alloc callback for a buffer, reads into it and reports the outcome to
`udp_handle::recv_callback`, which puts `buf->base` into a `unique_ptr` whatever is reported: the buffer
is released when the callback returns, or moved into the `udp_data_event` of a datagram.  A handle
created with `UV_UDP_RECVMMSG` may get several datagrams out of one buffer: libuv then reports each of
them with `UV_UDP_MMSG_CHUNK` and a pointer into the buffer, and the buffer itself last, with
`UV_UDP_MMSG_FREE`.

The reception is a transition system over what libuv does and what listeners do with the data they were
given.  `Conserved` says what is expected of it: every buffer released once, through its base and after
its last report, and every datagram published.  `step_effect` says what one action does to the buffers
(`Change`), to the datagrams and to the flags of the handle.
-/

namespace Uvw

open ObjectMemory TransitionSystem

/-! ## The callbacks -/

/-- `UV_UDP_MMSG_CHUNK`. -/
def uvUdpMmsgChunk : ℕ := 8

/-- `UV_UDP_MMSG_FREE`. -/
def uvUdpMmsgFree : ℕ := 16

/-- `UV_UDP_RECVMMSG`. -/
def uvUdpRecvmmsg : ℕ := 256

/-- `udp_data_event`. -/
structure UdpDataEvent where
  /-- What the `unique_ptr` of the event holds. -/
  data : Option CharPtr
  length : ℕ
  sender : SocketAddress
  /-- The member `partial`. -/
  part : Bool
deriving DecidableEq, Repr

/-- What the callback publishes. -/
inductive UdpEvent
  | data (e : UdpDataEvent)
  | error (code : Int)
deriving DecidableEq, Repr

/-- The data moved into the event. -/
def UdpEvent.moved : UdpEvent → Option CharPtr
  | .data e => e.data
  | .error _ => none

/-- The arguments libuv calls the callback with; a null `addr` is `none`. -/
structure RecvArgs where
  nread : Int
  buf : UvBuf
  addr : Option (Memory UInt8)
  flags : ℕ

/-- What a call of the callback does: the event it publishes and what its local `unique_ptr` still holds
when it returns. -/
structure RecvOutcome where
  event : Option UdpEvent
  data : Option CharPtr
deriving DecidableEq, Repr

/-- `udp_handle::recv_callback`; `none` where it dereferences a null pointer. -/
def recvCallback (uv : UvInet) (x : RecvArgs) : Option RecvOutcome :=
  -- data will be destroyed no matter of what the value of nread is
  let data := x.buf.base
  if 0 < x.nread then
    -- data available (can be truncated)
    x.addr.map fun addr =>
      { event := some (.data
          { data, length := x.nread.toNat, sender := uv.sockAddr addr,
            part := !decide (0 = x.flags &&& uvUdpPartial) }),
        data := none }
  else if x.nread = 0 ∧ x.addr.isNone then
    -- no more data to be read, doing nothing is fine
    some { event := none, data }
  else if x.nread = 0 ∧ x.addr.isSome then
    -- empty udp packet
    x.addr.map fun addr =>
      { event := some (.data { data, length := 0, sender := uv.sockAddr addr, part := false }),
        data := none }
  else
    -- transmission error
    some { event := some (.error (errorCode x.nread)), data }

/-- The event as the other handles see it. -/
def UdpEvent.toEvent : UdpEvent → Event
  | .data e => .udpData e.length e.part
  | .error code => .error code

/-- What the callback publishes does not depend on the buffer. -/
lemma recvCallback_event {uv : UvInet} {x : RecvArgs} {out : RecvOutcome}
    (h : recvCallback uv x = some out) :
    out.event.map UdpEvent.toEvent =
      (HandleCallback.udpRecv x.nread x.addr.isSome x.flags).event := by
  unfold recvCallback at h
  dsimp only at h
  rw [HandleCallback.event]
  split at h
  · rename_i hpos
    obtain ⟨addr, haddr, rfl⟩ := Option.map_eq_some_iff.mp h
    rw [if_pos hpos]
    simp [UdpEvent.toEvent, eq_comm]
  · rename_i hpos
    rw [if_neg hpos]
    split at h
    · rename_i hnull
      obtain rfl := Option.some.inj h
      rw [if_pos (by simpa using hnull)]
      rfl
    · rename_i hnull
      rw [if_neg (by simpa using hnull)]
      split at h
      · rename_i hempty
        obtain ⟨addr, haddr, rfl⟩ := Option.map_eq_some_iff.mp h
        rw [if_pos (by simpa using hempty)]
        rfl
      · rename_i hempty
        obtain rfl := Option.some.inj h
        rw [if_neg (by simpa using hempty)]
        rfl

/-! ## The handle -/

/-- `udp_handle::tag`. -/
inductive UdpTag
  | default | flags
deriving DecidableEq, Repr

/-- The members of a `udp_handle` that decide how it is initialised. -/
structure UdpHandle where
  tag : UdpTag
  flags : ℕ
deriving DecidableEq, Repr

/-- `udp_handle::udp_handle`. -/
def UdpHandle.construct (f : ℕ) : UdpHandle := { tag := .flags, flags := f }

/-- The flags that `udp_handle::init` initialises the socket with. -/
def UdpHandle.init (h : UdpHandle) : ℕ :=
  match h.tag with
  | .flags => h.flags
  | .default => 0

/-- A datagram as libuv reports it. -/
structure Datagram where
  peer : Memory UInt8
  length : ℕ
  truncated : Bool

/-- The history of a handle. -/
inductive UdpEntry
  /-- libuv read a datagram. -/
  | received (d : Datagram)
  /-- The callback was called with a buffer. -/
  | delivered (p : CharPtr)
  | published (ev : UdpEvent)
  /-- `delete[]`. -/
  | freed (p : CharPtr)

/-- What libuv has of the buffers. -/
inductive RecvPhase
  | idle
  /-- The alloc callback returned a buffer, which has not been reported. -/
  | filled (b len : ℕ)
  /-- A chunk of the buffer has been reported, and the buffer not released. -/
  | batch (b len : ℕ)
deriving DecidableEq, Repr

/-- The buffer that libuv has. -/
def RecvPhase.buffer : RecvPhase → Option ℕ
  | .idle => none
  | .filled b _ | .batch b _ => some b

/-- A udp handle that receives. -/
structure UdpReceiver where
  /-- The flags the socket was initialised with. -/
  flags : ℕ
  receiving : Bool
  /-- The number of buffers made by the alloc callback. -/
  buffers : ℕ
  phase : RecvPhase
  /-- The data of events that listeners have moved away. -/
  held : List CharPtr
  log : List UdpEntry

/-- What libuv and the listeners can do. -/
inductive UdpAction
  /-- `udp_handle::recv`. -/
  | recv
  /-- `udp_handle::stop`. -/
  | stop
  /-- libuv asks for a buffer. -/
  | alloc (suggested : ℕ)
  /-- libuv reads a datagram of the given size into the buffer and reports it; the listener keeps the
  data or not. -/
  | receive (size : ℕ) (peer : Memory UInt8) (keep : Bool)
  /-- libuv finds nothing to read. -/
  | nothing
  /-- libuv fails to read. -/
  | error (code : Int)
  /-- libuv reports an error without a buffer. -/
  | errorNoBuffer (code : Int)
  /-- libuv reports a datagram of a batch, which it has read into a part of the buffer. -/
  | chunk (offset len size : ℕ) (peer : Memory UInt8) (keep : Bool)
  /-- libuv hands back the buffer of a batch. -/
  | mmsgFree
  /-- A listener destroys data it has kept. -/
  | destroy (p : CharPtr)

/-- The action reports a `UV_UDP_MMSG_CHUNK`. -/
def UdpAction.isChunk : UdpAction → Bool
  | .chunk .. => true
  | _ => false

namespace UdpReceiver

/-- A new handle, initialised. -/
def start (f : ℕ) : UdpReceiver :=
  { flags := (UdpHandle.construct f).init
    receiving := false
    buffers := 0
    phase := .idle
    held := []
    log := [] }

/-- Add entries to the history. -/
def record (s : UdpReceiver) (es : List UdpEntry) : UdpReceiver := { s with log := s.log ++ es }

/-- `delete[]`, which does nothing with a null pointer. -/
def delete (s : UdpReceiver) (p : Option CharPtr) : UdpReceiver :=
  s.record (p.toList.map .freed)

/-- A listener moves the data away. -/
def hold (s : UdpReceiver) (p : Option CharPtr) : UdpReceiver :=
  { s with held := p.toList ++ s.held }

/-- libuv calls the callback: the event is published, its data goes with it or is kept by the listener,
and so does what the callback has not moved. -/
def deliver (uv : UvInet) (s : UdpReceiver) (x : RecvArgs) (keep : Bool) : Option UdpReceiver :=
  (recvCallback uv x).map fun out =>
    let s := s.record (x.buf.base.toList.map .delivered ++ out.event.toList.map .published)
    let s := if keep then s.hold (out.event.bind UdpEvent.moved)
      else s.delete (out.event.bind UdpEvent.moved)
    s.delete out.data

/-- libuv reads a datagram into `len` bytes of a buffer and reports it with the given flag. -/
def report (uv : UvInet) (s : UdpReceiver) (p : CharPtr) (len size : ℕ) (peer : Memory UInt8)
    (flag : ℕ) (keep : Bool) : Option UdpReceiver :=
  let truncated := decide (len < size)
  (s.record [.received { peer, length := min size len, truncated }]).deliver uv
    { nread := (min size len : ℕ), buf := { base := some p, len }, addr := some peer,
      flags := flag ||| if truncated then uvUdpPartial else 0 } keep

/-- One action; `none` where it is not possible. -/
def step (uv : UvInet) (s : UdpReceiver) : UdpAction → Option UdpReceiver
  | .recv => some { s with receiving := true }
  | .stop => some { s with receiving := false }
  | .alloc suggested =>
    if s.receiving ∧ s.phase = .idle then
      let buf := commonAllocCallback s.buffers suggested
      some { s with buffers := s.buffers + 1, phase := .filled s.buffers buf.len }
    else none
  | .receive size peer keep =>
    match s.phase with
    | .filled b len =>
      -- libuv does not read into an empty buffer
      if 0 < len then report uv { s with phase := .idle } ⟨b, 0⟩ len size peer 0 keep else none
    | _ => none
  | .nothing =>
    match s.phase with
    | .filled b len =>
      deliver uv { s with phase := .idle }
        { nread := 0, buf := ⟨some ⟨b, 0⟩, len⟩, addr := none, flags := 0 } false
    | _ => none
  | .error code =>
    match s.phase with
    | .filled b len =>
      if code < 0 then
        deliver uv { s with phase := .idle }
          { nread := code, buf := ⟨some ⟨b, 0⟩, len⟩, addr := none, flags := 0 } false
      else none
    | _ => none
  | .errorNoBuffer code =>
    if s.phase = .idle ∧ code < 0 then
      deliver uv s { nread := code, buf := ⟨none, 0⟩, addr := none, flags := 0 } false
    else none
  | .chunk offset len size peer keep =>
    match s.phase with
    | .filled b cap | .batch b cap =>
      if s.flags &&& uvUdpRecvmmsg ≠ 0 ∧ 0 < len ∧ offset + len ≤ cap then
        report uv { s with phase := .batch b cap } ⟨b, offset⟩ len size peer uvUdpMmsgChunk keep
      else none
    | .idle => none
  | .mmsgFree =>
    match s.phase with
    | .batch b cap =>
      deliver uv { s with phase := .idle }
        { nread := 0, buf := ⟨some ⟨b, 0⟩, cap⟩, addr := none, flags := uvUdpMmsgFree } false
    | _ => none
  | .destroy p =>
    if p ∈ s.held then some (({ s with held := s.held.erase p } : UdpReceiver).delete (some p))
    else none

/-! ## What becomes of the buffers and the datagrams -/

/-- What happens to a buffer, each time through a pointer at some offset. -/
inductive BufferEvent
  | delivered (offset : ℕ)
  | freed (offset : ℕ)
deriving DecidableEq, Repr

/-- What an entry says of a buffer. -/
def onBuffer (b : ℕ) : UdpEntry → Option BufferEvent
  | .delivered p => if p.buffer = b then some (.delivered p.offset) else none
  | .freed p => if p.buffer = b then some (.freed p.offset) else none
  | _ => none

/-- The history of a buffer. -/
def history (s : UdpReceiver) (b : ℕ) : List BufferEvent := s.log.filterMap (onBuffer b)

/-- The pointers into a buffer that listeners hold. -/
def heldOf (s : UdpReceiver) (b : ℕ) : List CharPtr := s.held.filter fun p => p.buffer = b

/-- libuv or a listener has the buffer. -/
def InUse (s : UdpReceiver) (b : ℕ) : Prop := s.phase.buffer = some b ∨ s.heldOf b ≠ []

/-- What a datagram is to be published as: its sender, its length and whether it was truncated. -/
def summary (uv : UvInet) (d : Datagram) : SocketAddress × ℕ × Bool :=
  (uv.sockAddr d.peer, d.length, d.truncated)

/-- The datagram an entry reads. -/
def datagram : UdpEntry → Option Datagram
  | .received d => some d
  | _ => none

/-- The `udp_data_event` an entry publishes. -/
def dataEvent : UdpEntry → Option (SocketAddress × ℕ × Bool)
  | .published (.data e) => some (e.sender, e.length, e.part)
  | _ => none

def datagrams (s : UdpReceiver) : List Datagram := s.log.filterMap datagram

def dataEvents (s : UdpReceiver) : List (SocketAddress × ℕ × Bool) := s.log.filterMap dataEvent

/-- The buffers are conserved and no datagram is lost. -/
structure Conserved (uv : UvInet) (s : UdpReceiver) : Prop where
  /-- A buffer in use has not been released, -/
  in_use : ∀ b, s.InUse b → ∀ o, .freed o ∉ s.history b
  /-- the others have been, once, through their base and after the last report. -/
  released : ∀ b < s.buffers, ¬ s.InUse b →
    ∃ offsets : List ℕ, s.history b = offsets.map .delivered ++ [.freed 0]
  /-- Every datagram yields one event. -/
  published : s.dataEvents = s.datagrams.map (summary uv)

/-- libuv has reported every buffer and no listener holds any data. -/
def Quiet (s : UdpReceiver) : Prop := s.phase = .idle ∧ s.held = []

instance (s : UdpReceiver) : Decidable s.Quiet := by unfold Quiet; infer_instance

section

variable {uv : UvInet} {s t : UdpReceiver} {x : RecvArgs} {out : RecvOutcome} {keep : Bool}
  {p : CharPtr} {a : UdpAction} {b : ℕ}

@[simp] lemma record_history (es : List UdpEntry) :
    (s.record es).history b = s.history b ++ es.filterMap (onBuffer b) :=
  List.filterMap_append

@[simp] lemma record_datagrams (es : List UdpEntry) :
    (s.record es).datagrams = s.datagrams ++ es.filterMap datagram :=
  List.filterMap_append

@[simp] lemma record_dataEvents (es : List UdpEntry) :
    (s.record es).dataEvents = s.dataEvents ++ es.filterMap dataEvent :=
  List.filterMap_append

/-! ### One report -/

/-- **Ownership in the callback**: the buffer is moved into the event or released on return. -/
lemma recvCallback_owner (h : recvCallback uv x = some out) :
    out.event.bind UdpEvent.moved = x.buf.base ∧ out.data = none ∨
      out.event.bind UdpEvent.moved = none ∧ out.data = x.buf.base := by
  unfold recvCallback at h
  dsimp only at h
  split at h
  · obtain ⟨addr, _, rfl⟩ := Option.map_eq_some_iff.mp h
    exact Or.inl ⟨rfl, rfl⟩
  · split at h
    · obtain rfl := Option.some.inj h
      exact Or.inr ⟨rfl, rfl⟩
    · split at h
      · obtain ⟨addr, _, rfl⟩ := Option.map_eq_some_iff.mp h
        exact Or.inl ⟨rfl, rfl⟩
      · obtain rfl := Option.some.inj h
        exact Or.inr ⟨rfl, rfl⟩

/-- What the history says after the callback was called with a pointer: it was reported, and is held by
a listener or released. -/
structure Delivered (s t : UdpReceiver) (p : CharPtr) : Prop where
  buffers : t.buffers = s.buffers
  outcome :
    (t.held = p :: s.held ∧
      ∀ b, t.history b = s.history b ++ if p.buffer = b then [.delivered p.offset] else []) ∨
    (t.held = s.held ∧ ∀ b, t.history b = s.history b ++
      if p.buffer = b then [.delivered p.offset, .freed p.offset] else [])

@[simp] lemma hold_history (o : Option CharPtr) : (s.hold o).history b = s.history b := rfl

@[simp] lemma hold_none : s.hold none = s := rfl

@[simp] lemma delete_none : s.delete none = s := by
  simp [delete, record]

/-- A buffer is released once more by `delete`. -/
@[simp] lemma delete_some_history :
    (s.delete (some p)).history b =
      s.history b ++ if p.buffer = b then [.freed p.offset] else [] := by
  by_cases hb : p.buffer = b <;> simp [delete, onBuffer, hb]

/-- The report of a buffer, as its history says. -/
lemma report_history (ev : Option UdpEvent) :
    (s.record ([.delivered p] ++ ev.toList.map .published)).history b =
      s.history b ++ if p.buffer = b then [.delivered p.offset] else [] := by
  have hevent : (ev.toList.map UdpEntry.published).filterMap (onBuffer b) = [] := by
    cases ev <;> rfl
  rw [record_history, List.filterMap_append, hevent, List.append_nil]
  by_cases hb : p.buffer = b <;> simp [onBuffer, hb]

/-- A callback with a buffer delivers it. -/
lemma deliver_delivered (hbase : x.buf.base = some p) (h : s.deliver uv x keep = some t) :
    Delivered s t p ∧ t.phase = s.phase ∧ t.flags = s.flags := by
  obtain ⟨out, hout, rfl⟩ := Option.map_eq_some_iff.mp h
  rw [hbase]
  let v := s.record ([.delivered p] ++ out.event.toList.map .published)
  have hreport : ∀ b, v.history b = s.history b ++
      if p.buffer = b then [.delivered p.offset] else [] := fun b => report_history out.event
  have hfreed : ∀ b, (v.delete (some p)).history b = s.history b ++
      if p.buffer = b then [.delivered p.offset, .freed p.offset] else [] := by
    intro b
    rw [delete_some_history, hreport]
    by_cases hb : p.buffer = b <;> simp [hb]
  have hkept : ∀ b, ((v.hold (some p)).delete none).history b = s.history b ++
      if p.buffer = b then [.delivered p.offset] else [] := by
    intro b
    rw [delete_none]
    exact hreport b
  have hdeleted : ∀ b, ((v.delete (some p)).delete none).history b = s.history b ++
      if p.buffer = b then [.delivered p.offset, .freed p.offset] else [] := by
    intro b
    rw [delete_none]
    exact hfreed b
  have hreturned : ∀ b, ((v.delete none).delete (some p)).history b = s.history b ++
      if p.buffer = b then [.delivered p.offset, .freed p.offset] else [] := by
    intro b
    rw [delete_none]
    exact hfreed b
  rcases recvCallback_owner hout with ⟨hmoved, hdata⟩ | ⟨hmoved, hdata⟩ <;>
    rw [hmoved, hdata, hbase] <;> cases keep
  · exact ⟨⟨rfl, Or.inr ⟨rfl, hdeleted⟩⟩, rfl, rfl⟩
  · exact ⟨⟨rfl, Or.inl ⟨rfl, hkept⟩⟩, rfl, rfl⟩
  · exact ⟨⟨rfl, Or.inr ⟨rfl, hreturned⟩⟩, rfl, rfl⟩
  · exact ⟨⟨rfl, Or.inr ⟨rfl, hfreed⟩⟩, rfl, rfl⟩

/-- Without a buffer nothing happens to any. -/
lemma deliver_null (hbase : x.buf.base = none) (h : s.deliver uv x false = some t) :
    t.buffers = s.buffers ∧ t.phase = s.phase ∧ t.flags = s.flags ∧ t.held = s.held ∧
      ∀ b, t.history b = s.history b := by
  obtain ⟨out, hout, rfl⟩ := Option.map_eq_some_iff.mp h
  have hnone : out.event.bind UdpEvent.moved = none ∧ out.data = none := by
    rcases recvCallback_owner hout with ⟨hmoved, hdata⟩ | ⟨hmoved, hdata⟩
    · exact ⟨hmoved.trans hbase, hdata⟩
    · exact ⟨hmoved, hdata.trans hbase⟩
  rw [hnone.1, hnone.2, hbase]
  refine ⟨rfl, rfl, rfl, rfl, fun b => ?_⟩
  have hevent : (out.event.toList.map UdpEntry.published).filterMap (onBuffer b) = [] := by
    cases out.event <;> rfl
  simp [hevent]

@[simp] lemma hold_datagrams (o : Option CharPtr) : (s.hold o).datagrams = s.datagrams := rfl

@[simp] lemma hold_dataEvents (o : Option CharPtr) : (s.hold o).dataEvents = s.dataEvents := rfl

@[simp] lemma delete_datagrams (o : Option CharPtr) : (s.delete o).datagrams = s.datagrams := by
  cases o <;> simp [delete, datagram]

@[simp] lemma delete_dataEvents (o : Option CharPtr) : (s.delete o).dataEvents = s.dataEvents := by
  cases o <;> simp [delete, dataEvent]

/-- The callback publishes a datagram as what libuv says of it. -/
lemma recvCallback_datagram {buf : UvBuf} {len size flag : ℕ} {peer : Memory UInt8} (hlen : 0 < len)
    (hflag : flag &&& uvUdpPartial = 0) :
    recvCallback uv
        { nread := (min size len : ℕ), buf, addr := some peer,
          flags := flag ||| if decide (len < size) then uvUdpPartial else 0 } =
      some
        { event := some (.data
            { data := buf.base, length := min size len, sender := uv.sockAddr peer,
              part := decide (len < size) }),
          data := none } := by
  have hpart : (!decide (0 = (flag ||| if decide (len < size) then uvUdpPartial else 0) &&&
      uvUdpPartial)) = decide (len < size) := by
    rw [Nat.and_or_distrib_right, hflag]
    by_cases htrunc : len < size <;> simp [htrunc, uvUdpPartial]
  by_cases hsize : size = 0
  · subst hsize
    simp [recvCallback]
  · have hpos : (0 : Int) < (min size len : ℕ) := by omega
    simp only [recvCallback]
    rw [if_pos hpos, hpart]
    rfl

/-- A report reads a datagram and publishes it. -/
lemma report_published {len size : ℕ} {peer : Memory UInt8} {flag : ℕ} (hlen : 0 < len)
    (hflag : flag &&& uvUdpPartial = 0) (h : report uv s p len size peer flag keep = some t) :
    t.datagrams = s.datagrams ++ [⟨peer, min size len, decide (len < size)⟩] ∧
      t.dataEvents = s.dataEvents ++ [(uv.sockAddr peer, min size len, decide (len < size))] := by
  unfold report deliver at h
  dsimp only at h
  rw [recvCallback_datagram hlen hflag] at h
  obtain rfl := Option.some.inj h
  cases keep <;> simp [datagram, dataEvent, List.filterMap_cons]

/-- Without an address no datagram is published. -/
lemma recvCallback_no_addr (haddr : x.addr = none) (h : recvCallback uv x = some out) :
    out.event = none ∨ out.event = some (.error (errorCode x.nread)) := by
  unfold recvCallback at h
  rw [haddr] at h
  dsimp only at h
  split at h
  · cases h
  · split at h
    · obtain rfl := Option.some.inj h
      exact Or.inl rfl
    · rw [if_neg (fun hand => by cases hand.2)] at h
      obtain rfl := Option.some.inj h
      exact Or.inr rfl

/-- Without an address, a callback adds no datagram and no event with data. -/
lemma deliver_published (haddr : x.addr = none) (h : s.deliver uv x false = some t) :
    t.datagrams = s.datagrams ∧ t.dataEvents = s.dataEvents := by
  obtain ⟨out, hout, rfl⟩ := Option.map_eq_some_iff.mp h
  rcases recvCallback_no_addr haddr hout with hevent | hevent <;> rw [hevent] <;>
    cases x.buf.base <;> simp [datagram, dataEvent, List.filterMap_cons]

/-! ### One action -/

/-- **What one action does to the buffers**; `chunk` tells whether it reports a chunk. -/
inductive Change (s t : UdpReceiver) (chunk : Bool) : Prop
  | quiet (hchunk : chunk = false) (hbuffers : t.buffers = s.buffers) (hphase : t.phase = s.phase)
      (hheld : t.held = s.held) (hhist : ∀ b, t.history b = s.history b)
  /-- The alloc callback makes a buffer. -/
  | alloc (len : ℕ) (hchunk : chunk = false) (hbuffers : t.buffers = s.buffers + 1)
      (hold : s.phase = .idle) (hphase : t.phase = .filled s.buffers len) (hheld : t.held = s.held)
      (hhist : ∀ b, t.history b = s.history b)
  /-- A buffer is reported through its base. -/
  | report (b len : ℕ) (hchunk : chunk = false) (hold : s.phase = .filled b len)
      (hphase : t.phase = .idle) (hdel : Delivered s t ⟨b, 0⟩)
  /-- A chunk is reported. -/
  | chunk (b len offset : ℕ) (hchunk : chunk = true)
      (hold : s.phase = .filled b len ∨ s.phase = .batch b len) (hphase : t.phase = .batch b len)
      (hdel : Delivered s t ⟨b, offset⟩)
  /-- The buffer of a batch is handed back. -/
  | mmsgFree (b len : ℕ) (hchunk : chunk = false) (hold : s.phase = .batch b len)
      (hphase : t.phase = .idle) (hdel : Delivered s t ⟨b, 0⟩)
  /-- A listener destroys what it holds. -/
  | destroy (p : CharPtr) (hchunk : chunk = false) (hbuffers : t.buffers = s.buffers)
      (hphase : t.phase = s.phase) (hmem : p ∈ s.held) (hheld : t.held = s.held.erase p)
      (hhist : ∀ b, t.history b = s.history b ++ if p.buffer = b then [.freed p.offset] else [])

/-- The report of a datagram delivers its buffer. -/
lemma report_delivered {len size : ℕ} {peer : Memory UInt8} {flag : ℕ}
    (h : report uv s p len size peer flag keep = some t) :
    Delivered s t p ∧ t.phase = s.phase ∧ t.flags = s.flags := by
  obtain ⟨⟨hbuffers, hout⟩, hphase, hflags⟩ := deliver_delivered rfl h
  have hread : ∀ b, (s.record [.received ⟨peer, min size len, decide (len < size)⟩]).history b =
      s.history b := by
    intro b
    rw [record_history]
    exact List.append_nil _
  refine ⟨⟨hbuffers, ?_⟩, hphase, hflags⟩
  rcases hout with ⟨hheld, hhist⟩ | ⟨hheld, hhist⟩
  · exact Or.inl ⟨hheld, fun b => by rw [hhist, hread]⟩
  · exact Or.inr ⟨hheld, fun b => by rw [hhist, hread]⟩

/-- **What one action does**: to the buffers, to the datagrams, which are published as they are read, and
to the flags, which stay and without which no chunk is reported. -/
structure Effect (uv : UvInet) (s t : UdpReceiver) (a : UdpAction) : Prop where
  change : Change s t a.isChunk
  published : ∃ ds, t.datagrams = s.datagrams ++ ds ∧
    t.dataEvents = s.dataEvents ++ ds.map (summary uv)
  flags : t.flags = s.flags
  recvmmsg : a.isChunk = true → s.flags &&& uvUdpRecvmmsg ≠ 0

/-- An action that reads no datagram. -/
lemma Effect.of_nothing_read (hchange : Change s t a.isChunk) (hchunk : a.isChunk = false)
    (hpub : t.datagrams = s.datagrams ∧ t.dataEvents = s.dataEvents) (hflags : t.flags = s.flags) :
    Effect uv s t a where
  change := hchange
  published := ⟨[], by rw [hpub.1, List.append_nil], by rw [hpub.2, List.map_nil, List.append_nil]⟩
  flags := hflags
  recvmmsg hyes := by rw [hchunk] at hyes; cases hyes

/-- An action that reads one. -/
lemma Effect.of_read {peer : Memory UInt8} {len size : ℕ} (hchange : Change s t a.isChunk)
    (hflag : a.isChunk = true → s.flags &&& uvUdpRecvmmsg ≠ 0)
    (hpub : t.datagrams = s.datagrams ++ [⟨peer, min size len, decide (len < size)⟩] ∧
      t.dataEvents = s.dataEvents ++ [(uv.sockAddr peer, min size len, decide (len < size))])
    (hflags : t.flags = s.flags) : Effect uv s t a where
  change := hchange
  published := ⟨_, hpub.1, hpub.2⟩
  flags := hflags
  recvmmsg := hflag

/-- The report of a filled buffer without a datagram. -/
lemma Effect.of_deliver {b len : ℕ} {nread : Int} {flag : ℕ} (hchunk : a.isChunk = false)
    (hphase : s.phase = .filled b len)
    (h : deliver uv { s with phase := .idle }
      { nread, buf := ⟨some ⟨b, 0⟩, len⟩, addr := none, flags := flag } false = some t) :
    Effect uv s t a := by
  obtain ⟨hdel, hidle, hflags⟩ := deliver_delivered rfl h
  obtain ⟨hdatagrams, hevents⟩ := deliver_published rfl h
  refine .of_nothing_read ?_ hchunk ⟨hdatagrams, hevents⟩ hflags
  rw [hchunk]
  exact .report b len rfl hphase hidle ⟨hdel.1, hdel.2⟩

/-- The report of a chunk, the first of the buffer or a later one. -/
lemma Effect.of_chunk {b cap offset len size : ℕ} {peer : Memory UInt8} {keep : Bool}
    (hphase : s.phase = .filled b cap ∨ s.phase = .batch b cap)
    (h : (s.flags &&& uvUdpRecvmmsg ≠ 0 ∧ 0 < len ∧ offset + len ≤ cap) ∧
      report uv { s with phase := .batch b cap } ⟨b, offset⟩ len size peer uvUdpMmsgChunk keep =
        some t) :
    Effect uv s t (.chunk offset len size peer keep) := by
  obtain ⟨⟨hflag, hlen, _⟩, hrep⟩ := h
  obtain ⟨hdel, hbatch, hflags⟩ := report_delivered hrep
  obtain ⟨hdatagrams, hevents⟩ := report_published hlen (by decide) hrep
  have hchange : Change s t true := .chunk b cap offset rfl hphase hbatch ⟨hdel.1, hdel.2⟩
  exact .of_read hchange (fun _ => hflag) ⟨hdatagrams, hevents⟩ hflags

/-- **Step lemma**, by cases on the action. -/
lemma step_effect (h : s.step uv a = some t) : Effect uv s t a := by
  cases a with
  | recv =>
    obtain rfl := Option.some.inj h
    exact .of_nothing_read (.quiet rfl rfl rfl rfl fun _ => rfl) rfl ⟨rfl, rfl⟩ rfl
  | stop =>
    obtain rfl := Option.some.inj h
    exact .of_nothing_read (.quiet rfl rfl rfl rfl fun _ => rfl) rfl ⟨rfl, rfl⟩ rfl
  | alloc suggested =>
    obtain ⟨⟨_, hidle⟩, rfl⟩ := by simpa [step] using h
    exact .of_nothing_read (.alloc _ rfl rfl hidle rfl rfl fun _ => rfl) rfl ⟨rfl, rfl⟩ rfl
  | receive size peer keep =>
    simp only [step] at h
    split at h
    · rename_i b len hphase
      obtain ⟨hlen, hrep⟩ := by simpa using h
      obtain ⟨hdel, hidle, hflags⟩ := report_delivered hrep
      obtain ⟨hdatagrams, hevents⟩ := report_published hlen (by decide) hrep
      exact .of_read (.report b len rfl hphase hidle ⟨hdel.1, hdel.2⟩) (fun hyes => by cases hyes)
        ⟨hdatagrams, hevents⟩ hflags
    · cases h
  | nothing =>
    simp only [step] at h
    split at h
    · rename_i b len hphase
      exact .of_deliver rfl hphase h
    · cases h
  | error code =>
    simp only [step] at h
    split at h
    · rename_i b len hphase
      obtain ⟨_, hrep⟩ := by simpa using h
      exact .of_deliver rfl hphase hrep
    · cases h
  | errorNoBuffer code =>
    obtain ⟨_, hrep⟩ := by simpa [step] using h
    obtain ⟨hbuffers, hphase, hflags, hheld, hhist⟩ := deliver_null rfl hrep
    exact .of_nothing_read (.quiet rfl hbuffers hphase hheld hhist) rfl (deliver_published rfl hrep)
      hflags
  | chunk offset len size peer keep =>
    simp only [step] at h
    split at h
    · rename_i b cap hphase
      exact .of_chunk (Or.inl hphase) (by simpa using h)
    · rename_i b cap hphase
      exact .of_chunk (Or.inr hphase) (by simpa using h)
    · cases h
  | mmsgFree =>
    simp only [step] at h
    split at h
    · rename_i b cap hphase
      obtain ⟨hdel, hidle, hflags⟩ := deliver_delivered rfl h
      obtain ⟨hdatagrams, hevents⟩ := deliver_published rfl h
      exact .of_nothing_read (.mmsgFree b cap rfl hphase hidle ⟨hdel.1, hdel.2⟩) rfl
        ⟨hdatagrams, hevents⟩ hflags
    · cases h
  | destroy p =>
    obtain ⟨hmem, rfl⟩ := by simpa [step] using h
    exact .of_nothing_read (.destroy p rfl rfl rfl hmem rfl fun b => delete_some_history) rfl
      ⟨delete_datagrams _, delete_dataEvents _⟩ rfl

/-- The published datagrams keep up with those read. -/
lemma Effect.published_eq (h : Effect uv s t a) (hs : s.dataEvents = s.datagrams.map (summary uv)) :
    t.dataEvents = t.datagrams.map (summary uv) := by
  obtain ⟨ds, hdatagrams, hevents⟩ := h.published
  rw [hdatagrams, hevents, hs, List.map_append]

end

end UdpReceiver

end Uvw
