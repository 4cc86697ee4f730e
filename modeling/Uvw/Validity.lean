import Uvw.Address
import Uvw.Dns
import Uvw.Strings

/-!
# Pairs of a flag and a value

`loop::timeout`, `thread::priority` and the synchronous lookups of `get_addr_info_req` and
`get_name_info_req` return a flag with a value.  libuv says in different ways that there is no value: by
a code other than `0`, or by `-1` in place of a timeout, which becomes an unsigned number of milliseconds.

`PairReports` says of a pair that its flag tells whether libuv has produced a value and that this is its
second member, and `validity_flags_iff` finds it true of all these functions but `loop::timeout`, where
the flag is inverted.
-/

namespace Uvw

open CString ObjectMemory

/-! ## What libuv returns -/

/-- A call of libuv that returns a code: one other than `0`, or `0` and what it writes. -/
abbrev UvResult (W : Type) := Except { code : Int // code ≠ 0 } W

namespace UvResult

variable {B W : Type}

/-- The code. -/
def code : UvResult W → Int
  | .error code => code.1
  | .ok _ => 0

/-- What the call was to write to, after it. -/
def fill (write : W → B → B) : UvResult W → B → B
  | .error _, b => b
  | .ok w, b => write w b

end UvResult

/-- What `uv_backend_timeout` has to say: nothing if there is no timeout. -/
abbrev BackendTimeout := Option (Fin (2 ^ 31))

/-- What it returns. -/
def BackendTimeout.code : BackendTimeout → Int
  | none => -1
  | some n => n.1

/-- `NI_MAXHOST`. -/
def niMaxHost : ℕ := 1025

/-- `NI_MAXSERV`. -/
def niMaxServ : ℕ := 32

/-- The names of a host and of a service; with their terminators they fit into a `uv_getnameinfo_t`. -/
structure NameInfo where
  host : Text UInt8
  service : Text UInt8
  host_fits : host.1.length < niMaxHost
  service_fits : service.1.length < niMaxServ

/-- The buffers of a `uv_getnameinfo_t`. -/
structure NameInfoReq where
  host : Object UInt8 niMaxHost
  service : Object UInt8 niMaxServ

/-- A pointer into a `uv_getnameinfo_t`. -/
inductive NameField
  | host | service
deriving DecidableEq, Repr

namespace NameInfoReq

variable (req : NameInfoReq)

/-- libuv writes the names. -/
def write (names : NameInfo) : NameInfoReq :=
  { host := CString.write names.host.1 req.host, service := CString.write names.service.1 req.service }

/-- The string behind a pointer; `none` where it runs beyond the buffer. -/
def read : NameField → Option (List UInt8)
  | .host => scan (List.ofFn req.host)
  | .service => scan (List.ofFn req.service)

end NameInfoReq

/-! ## The functions -/

/-- `loop::timeout`, with the result of `uv_backend_timeout`; `loop::time` is a `uint64_t`. -/
def loopTimeout (timeout : Int) : Bool × UInt64 := (timeout == -1, .ofInt timeout)

/-- `thread::priority(const thread &)`, with the result of `uv_thread_getpriority`. -/
def threadPriority (out : UvResult Int32) : Bool × Int32 :=
  let prio := out.fill (fun w _ => w) 0
  let res := out.code == 0
  (res, prio)

/-- `get_addr_info_req::node_addr_info_sync`, `service_addr_info_sync` and `addr_info_sync`: what the
request has answered last. -/
def addrInfoSync (s : AddrInfoReq) (l : Lookup) (out : LookupOutcome) : Bool × Option ℕ :=
  match (s.nodeAddrInfoSync l.args out).answers.getLast? with
  | some answer => (answer.ok, answer.data)
  | none => (false, none)

section

variable (uv : UvInet) (getnameinfo : Sockaddr → Int → UvResult NameInfo) (req : NameInfoReq)

/-- `get_name_info_req::name_info_sync(const sockaddr &, int)`. -/
def nameInfoSync (addr : Sockaddr) (flags : Int) : NameInfoReq × Bool × NameField × NameField :=
  let out := getnameinfo addr flags
  let req := out.fill (fun w b => b.write w) req
  (req, decide (out.code = 0), .host, .service)

/-- `get_name_info_req::name_info_sync(const std::string &, unsigned int, int)`. -/
def nameInfoSyncIp (ip : String) (port : UInt32) (flags : Int) :
    NameInfoReq × Bool × NameField × NameField :=
  nameInfoSync getnameinfo req (uv.ipAddr ip port) flags

/-- `get_name_info_req::name_info_sync(const socket_address &, int)`. -/
def nameInfoSyncAddress (addr : SocketAddress) (flags : Int) :
    NameInfoReq × Bool × NameField × NameField :=
  nameInfoSyncIp uv getnameinfo req addr.ip addr.port flags

end

/-- The pair, with the strings behind its pointers. -/
def namesRead (r : NameInfoReq × Bool × NameField × NameField) :
    Bool × Option (List UInt8) × Option (List UInt8) :=
  (r.2.1, r.1.read r.2.2.1, r.1.read r.2.2.2)

/-- The functions that return a pair. -/
inductive PairQuery
  | timeout
  | priority
  | addrInfoSync (l : Lookup)
  | nameInfoSync (addr : Sockaddr) (flags : Int)
  | nameInfoSyncIp (ip : String) (port : UInt32) (flags : Int)
  | nameInfoSyncAddress (addr : SocketAddress) (flags : Int)

namespace PairQuery

/-- What the function is called on. -/
abbrev State : PairQuery → Type
  | timeout | priority => Unit
  | addrInfoSync _ => AddrInfoReq
  | nameInfoSync .. | nameInfoSyncIp .. | nameInfoSyncAddress .. => NameInfoReq

/-- What the call of libuv comes to. -/
abbrev Outcome : PairQuery → Type
  | timeout => BackendTimeout
  | priority => UvResult Int32
  | addrInfoSync _ => LookupOutcome
  | nameInfoSync .. | nameInfoSyncIp .. | nameInfoSyncAddress .. => Sockaddr → Int → UvResult NameInfo

/-- The second member of the pair. -/
abbrev Value : PairQuery → Type
  | timeout => UInt64
  | priority => Int32
  | addrInfoSync _ => Option ℕ
  | nameInfoSync .. | nameInfoSyncIp .. | nameInfoSyncAddress .. =>
    Option (List UInt8) × Option (List UInt8)

/-- The pair. -/
def run (uv : UvInet) : (q : PairQuery) → q.State → q.Outcome → Bool × q.Value
  | timeout, _, out => loopTimeout (BackendTimeout.code out)
  | priority, _, out => threadPriority out
  | addrInfoSync l, s, out => Uvw.addrInfoSync s l out
  | nameInfoSync addr flags, req, out => namesRead (Uvw.nameInfoSync out req addr flags)
  | nameInfoSyncIp ip port flags, req, out => namesRead (Uvw.nameInfoSyncIp uv out req ip port flags)
  | nameInfoSyncAddress addr flags, req, out =>
    namesRead (Uvw.nameInfoSyncAddress uv out req addr flags)

/-- The names that libuv produces for an address. -/
def names (out : UvResult NameInfo) : Option (Option (List UInt8) × Option (List UInt8)) :=
  out.toOption.map fun w => (some w.host.1, some w.service.1)

/-- The list that libuv produces for a lookup: the next one. -/
def list (s : AddrInfoReq) : LookupOutcome → Option (Option ℕ)
  | .found => some (some s.lists.issued)
  | .rejected .. | .failed .. => none

/-- What libuv produces. -/
def produced (uv : UvInet) : (q : PairQuery) → q.State → q.Outcome → Option q.Value
  | timeout, _, out => Option.map (fun n => .ofNat n.1) out
  | priority, _, out => Except.toOption out
  | addrInfoSync _, s, out => list s out
  | nameInfoSync addr flags, _, out => names (out addr flags)
  | nameInfoSyncIp ip port flags, _, out => names (out (uv.ipAddr ip port) flags)
  | nameInfoSyncAddress addr flags, _, out => names (out (uv.ipAddr addr.ip addr.port) flags)

end PairQuery

/-- The flag tells whether there is a value, and if there is, it is the second member. -/
def PairReports {V : Type} (value : Option V) (r : Bool × V) : Prop :=
  (r.1 = true ↔ value.isSome = true) ∧ ∀ v, value = some v → r.2 = v

/-- The pair reports what libuv has produced. -/
def PairQuery.Truthful (uv : UvInet) (q : PairQuery) (s : q.State) (out : q.Outcome) : Prop :=
  PairReports (q.produced uv s out) (q.run uv s out)

/-! ## Codes -/

section

variable {W V : Type} {out : UvResult W} {f : W → V} {x : V}

/-- The code is `0` if there is a value. -/
lemma UvResult.code_eq_zero_iff : out.code = 0 ↔ out.toOption.isSome = true := by
  cases out with
  | error err => exact iff_of_false err.2 Bool.false_ne_true
  | ok w => exact iff_of_true rfl rfl

/-- **A flag that is the code being `0`** reports the value. -/
lemma pairReports_of_code (h : ∀ w, out = .ok w → x = f w) :
    PairReports (out.toOption.map f) (decide (out.code = 0), x) := by
  refine ⟨?_, fun v hv => ?_⟩
  · rw [decide_eq_true_eq, UvResult.code_eq_zero_iff, Option.isSome_map]
  · cases out with
    | error err => cases hv
    | ok w => exact (h w rfl).trans (Option.some.inj hv)

end

/-- The names that libuv has written are read back. -/
lemma read_write (req : NameInfoReq) (w : NameInfo) :
    (req.write w).read .host = some w.host.1 ∧ (req.write w).read .service = some w.service.1 :=
  ⟨scan_terminated (terminated_write req.host w.host_fits),
    scan_terminated (terminated_write req.service w.service_fits)⟩

/-- The names of an address, for all three overloads. -/
lemma nameInfoSync_reports (getnameinfo : Sockaddr → Int → UvResult NameInfo) (req : NameInfoReq)
    (addr : Sockaddr) (flags : Int) :
    PairReports (PairQuery.names (getnameinfo addr flags))
      (namesRead (nameInfoSync getnameinfo req addr flags)) := by
  refine pairReports_of_code fun w hw => ?_
  have hreq : (nameInfoSync getnameinfo req addr flags).1 = req.write w := by
    rw [nameInfoSync, hw]
    rfl
  show ((nameInfoSync getnameinfo req addr flags).1.read .host,
    (nameInfoSync getnameinfo req addr flags).1.read .service) = _
  rw [hreq, (read_write req w).1, (read_write req w).2]

/-- The list of a lookup, whatever the request held before. -/
lemma addrInfoSync_reports (s : AddrInfoReq) (l : Lookup) (out : LookupOutcome) :
    PairReports (PairQuery.list s out) (addrInfoSync s l out) := by
  have hanswers : (s.nodeAddrInfoSync l.args out).answers =
      s.answers ++ [⟨decide (out.code = 0), (s.uvGetaddrinfo l.args out).addrinfo⟩] := by
    cases out <;> rfl
  have hpair : addrInfoSync s l out = (decide (out.code = 0), (s.uvGetaddrinfo l.args out).addrinfo) := by
    rw [addrInfoSync, hanswers, List.getLast?_concat]
  rw [hpair]
  cases out with
  | rejected code nonzero =>
    exact ⟨iff_of_false (fun h => nonzero (decide_eq_true_iff.mp h)) Bool.false_ne_true, nofun⟩
  | failed code nonzero =>
    exact ⟨iff_of_false (fun h => nonzero (decide_eq_true_iff.mp h)) Bool.false_ne_true, nofun⟩
  | found => exact ⟨iff_of_true rfl rfl, fun v hv => Option.some.inj hv⟩

/-- **Timeouts**: the flag is set when there is none. -/
lemma loopTimeout_flag (out : BackendTimeout) :
    (loopTimeout out.code).1 = true ↔ ¬ out.isSome = true := by
  cases out with
  | none => exact iff_of_true rfl Bool.false_ne_true
  | some n =>
    refine iff_of_false (fun h => ?_) (not_not.mpr rfl)
    have hcode : (n.1 : Int) = -1 := beq_iff_eq.mp h
    omega

/-- so the pair never reports what libuv has produced. -/
lemma not_timeout_reports (out : BackendTimeout) (time : Fin (2 ^ 31) → UInt64) :
    ¬ PairReports (out.map time) (loopTimeout out.code) := by
  intro h
  have hvalue : (loopTimeout out.code).1 = true ↔ out.isSome = true := by
    rw [h.1, Option.isSome_map]
  exact not_iff_self ((loopTimeout_flag out).symm.trans hvalue)

/-- **Which pairs tell the truth**: for every result of the call of libuv, the flag of the pair is true
exactly if libuv has produced a value, which then is the second member, for all functions but
`loop::timeout`, for which this is never so. -/
theorem validity_flags_iff (uv : UvInet) (q : PairQuery) (s : q.State) (out : q.Outcome) :
    q.Truthful uv s out ↔ q ≠ .timeout := by
  cases q with
  | timeout => exact iff_of_false (not_timeout_reports out _) (not_not.mpr rfl)
  | priority =>
    have hreports : PairReports ((Except.toOption out).map id) (threadPriority out) :=
      pairReports_of_code fun w hw => by rw [hw]; rfl
    rw [Option.map_id] at hreports
    exact iff_of_true hreports nofun
  | addrInfoSync l => exact iff_of_true (addrInfoSync_reports s l out) nofun
  | nameInfoSync addr flags =>
    exact iff_of_true (nameInfoSync_reports out s addr flags) nofun
  | nameInfoSyncIp ip port flags =>
    exact iff_of_true (nameInfoSync_reports out s (uv.ipAddr ip port) flags) nofun
  | nameInfoSyncAddress addr flags =>
    exact iff_of_true (nameInfoSync_reports out s (uv.ipAddr addr.ip addr.port) flags) nofun

/-- Without a timeout, `loop::timeout` reports `2 ^ 64 - 1` milliseconds. -/
theorem loop_timeout_minus_one :
    loopTimeout (BackendTimeout.code none) = (true, 18446744073709551615) ∧
      ¬ PairQuery.timeout.Truthful .loopback () none :=
  ⟨rfl, fun h => Bool.false_ne_true (h.1.mp rfl)⟩

end Uvw
