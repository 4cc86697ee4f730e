import Uvw.Address
import Uvw.Strings

/-!
# Queries that fill a local buffer

`sock` and `peer` of tcp and udp handles, `thread::name`, `utilities::os::passwd` and `handle::fd` hand
libuv the address of a local that is not initialised, drop the code of the call and make their result of
what the local holds then.  A call that fails writes nothing.

`LocalQuery.Faithful` says what one expects for every initial content of the local: that the result does
not depend on it, and is the failure value of the documentation if the call fails.
`local_queries_faithful_iff` finds this for the calls that succeed and for no others.
-/

namespace Uvw

open CString ObjectMemory

/-! ## What libuv does with a buffer -/

/-- A call of libuv: a failure with its code, or a success with what it writes. -/
inductive UvAnswer (W : Type)
  | failed (code : Int)
  | wrote (w : W)

namespace UvAnswer

variable {B W : Type}

/-- The buffer after the call. -/
def fill (write : W → B → B) : UvAnswer W → B → B
  | failed _, b => b
  | wrote w, b => write w b

/-- The call fails. -/
def Failed : UvAnswer W → Prop
  | failed _ => True
  | wrote _ => False

end UvAnswer

/-- A socket address as libuv writes it: the record its family stands for, or another one. -/
structure SockRecord where
  len : ℕ
  bytes : Object UInt8 len
  fits : len ≤ 128
  hasFamily : 2 ≤ len
  inet : family (mem bytes) = afInet → 16 ≤ len
  inet6 : family (mem bytes) = afInet6 → 28 ≤ len

/-- libuv writes the record over the first bytes. -/
def SockRecord.write (r : SockRecord) (storage : SockaddrStorage) : SockaddrStorage := fun i =>
  if h : i.1 < r.len then r.bytes ⟨i, h⟩ else storage i

/-- A name as libuv writes it: with its terminator it fits into the buffer. -/
abbrev ThreadName := { name : Text UInt8 // name.1.length < defaultSize }

/-- libuv writes the name and its terminator over the first bytes. -/
def ThreadName.write (name : ThreadName) (buf : Object UInt8 defaultSize) : Object UInt8 defaultSize :=
  CString.write name.1.1 buf

/-- A `uv_passwd_t`; the pointers are addresses, `0` being null. -/
structure UvPasswd where
  username : ℕ
  uid : ℕ
  gid : ℕ
  shell : ℕ
  homedir : ℕ
deriving DecidableEq, Repr

/-- `passwd_info`: what the `shared_ptr` points to, or a null pointer. -/
structure PasswdInfo where
  value : Option UvPasswd
deriving DecidableEq, Repr

namespace PasswdInfo

/-- `passwd_info::operator bool`. -/
def toBool (info : PasswdInfo) : Bool := info.value.isSome

/-- What the deleter hands to `free` by way of `uv_os_free_passwd`, which looks at `username` only. -/
def destroy (info : PasswdInfo) : List ℕ :=
  match info.value with
  | some passwd => if passwd.username = 0 then [] else [passwd.username]
  | none => []

end PasswdInfo

/-! ## The queries -/

section

variable (uv : UvInet) (storage : SockaddrStorage) (answer : UvAnswer SockRecord)

/-- The common body of the queries for a socket address. -/
def sockQuery : SocketAddress := uv.sockAddrStorage (answer.fill SockRecord.write storage)

/-- `tcp_handle::sock`, with the answer of `uv_tcp_getsockname`. -/
def tcpSock : SocketAddress := sockQuery uv storage answer

/-- `tcp_handle::peer`, with the answer of `uv_tcp_getpeername`. -/
def tcpPeer : SocketAddress := sockQuery uv storage answer

/-- `udp_handle::peer`, with the answer of `uv_udp_getpeername`. -/
def udpPeer : SocketAddress := sockQuery uv storage answer

/-- `udp_handle::sock`, with the answer of `uv_udp_getsockname`. -/
def udpSock : SocketAddress := sockQuery uv storage answer

end

/-- `thread::name(thread &)`, with the answer of `uv_thread_getname`; `none` where it reads beyond the
buffer. -/
def threadName (buf : Object UInt8 defaultSize) (answer : UvAnswer ThreadName) : Option (List UInt8) :=
  scan (List.ofFn (answer.fill ThreadName.write buf))

/-- `utilities::os::passwd`, with the answer of `uv_os_get_passwd`. -/
def osPasswd (passwd : UvPasswd) (answer : UvAnswer UvPasswd) : PasswdInfo :=
  { value := some (answer.fill (fun w _ => w) passwd) }

/-- `handle::fd`, with the answer of `uv_fileno`. -/
def handleFd (fd : Int) (answer : UvAnswer ℕ) : Int := answer.fill (fun w _ => Int.ofNat w) fd

/-- The queries. -/
inductive LocalQuery
  | tcpSock | tcpPeer | udpPeer | udpSock | threadName | passwd | fd
deriving DecidableEq, Repr

namespace LocalQuery

/-- The local that libuv is to fill. -/
abbrev Buffer : LocalQuery → Type
  | tcpSock | tcpPeer | udpPeer | udpSock => SockaddrStorage
  | threadName => Object UInt8 defaultSize
  | passwd => UvPasswd
  | fd => Int

/-- What libuv writes. -/
abbrev Written : LocalQuery → Type
  | tcpSock | tcpPeer | udpPeer | udpSock => SockRecord
  | threadName => ThreadName
  | passwd => UvPasswd
  | fd => ℕ

/-- What is returned. -/
abbrev Result : LocalQuery → Type
  | tcpSock | tcpPeer | udpPeer | udpSock => SocketAddress
  | threadName => Option (List UInt8)
  | passwd => PasswdInfo
  | fd => Int

/-- A query whose local holds `b` at first. -/
def run (uv : UvInet) : (q : LocalQuery) → q.Buffer → UvAnswer q.Written → q.Result
  | tcpSock => Uvw.tcpSock uv
  | tcpPeer => Uvw.tcpPeer uv
  | udpPeer => Uvw.udpPeer uv
  | udpSock => Uvw.udpSock uv
  | threadName => Uvw.threadName
  | passwd => osPasswd
  | fd => handleFd

/-- The result is the failure value of the documentation. -/
def IsFailure : (q : LocalQuery) → q.Result → Prop
  | tcpSock, r | tcpPeer, r | udpPeer, r | udpSock, r => r = { ip := "", port := 0 }
  | threadName, r => r = some []
  | passwd, r => r.toBool = false ∧ r.destroy = []
  | fd, r => r < 0

/-- The result does not depend on what the local held, and is the failure value if the call fails. -/
def Faithful (uv : UvInet) (q : LocalQuery) (answer : UvAnswer q.Written) : Prop :=
  ∀ b b' : q.Buffer, q.run uv b answer = q.run uv b' answer ∧
    (answer.Failed → q.IsFailure (q.run uv b answer))

end LocalQuery

/-! ## Calls that succeed -/

section

variable {uv : UvInet} {p p' : Memory UInt8} {n : ℕ}

/-- What `sock_addr` makes of a pointer depends only on as many bytes as the family requires. -/
lemma sockAddr_congr (h : ∀ i < n, p i = p' i) (hfamily : 2 ≤ n) (hinet : family p = afInet → 16 ≤ n)
    (hinet6 : family p = afInet6 → 28 ≤ n) : uv.sockAddr p = uv.sockAddr p' := by
  have hsame : family p' = family p := by
    rw [family, family, h 0 (by omega), h 1 (by omega)]
  have hslice : ∀ len, len ≤ n → p.slice 0 len = p'.slice 0 len := by
    intro len hlen
    funext i
    exact h (0 + i) (by omega)
  rw [UvInet.sockAddr, UvInet.sockAddr, hsame]
  by_cases hin : family p = afInet
  · rw [if_pos hin, if_pos hin, hslice 16 (hinet hin)]
  · rw [if_neg hin, if_neg hin]
    by_cases hin6 : family p = afInet6
    · rw [if_pos hin6, if_pos hin6, hslice 28 (hinet6 hin6)]
    · rw [if_neg hin6, if_neg hin6]

/-- The storage begins with the record. -/
lemma SockRecord.mem_write (r : SockRecord) (storage : SockaddrStorage) {i : ℕ} (hi : i < r.len) :
    mem (r.write storage) i = mem r.bytes i := by
  rw [mem, mem, Object.at_of_lt (hi.trans_le r.fits), Object.at_of_lt hi, SockRecord.write, dif_pos hi]

lemma sockQuery_wrote (r : SockRecord) (storage : SockaddrStorage) :
    sockQuery uv storage (.wrote r) = uv.sockAddr (mem r.bytes) := by
  have hfamily : family (mem (r.write storage)) = family (mem r.bytes) := by
    have h0 : 0 < r.len := Nat.lt_of_lt_of_le (by decide) r.hasFamily
    rw [family, family, r.mem_write storage h0, r.mem_write storage r.hasFamily]
  exact sockAddr_congr (fun i hi => r.mem_write storage hi) r.hasFamily
    (fun h => r.inet (hfamily ▸ h)) (fun h => r.inet6 (hfamily ▸ h))

lemma threadName_wrote (name : ThreadName) (buf : Object UInt8 defaultSize) :
    threadName buf (.wrote name) = some name.1.1 :=
  scan_terminated (terminated_write buf name.2)

end

/-! ## Calls that fail -/

/-- A storage that holds what was left of an address of `127.0.0.1`. -/
lemma sockQuery_failed {uv : UvInet} (hdoc : uv.Documented) {r : SockaddrIn}
    (hr : uv.ip4Addr "127.0.0.1" 80 = some r) (code : Int) :
    sockQuery uv (fun i => mem r i) (.failed code) ≠ { ip := "", port := 0 } := by
  obtain ⟨name, hname, _⟩ := hdoc.ip4_inverse _ _ _ hr
  have hport : netPort (mem r) = 80 := hdoc.ip4_port _ _ _ hr
  have hfamily : family (mem fun i : Fin 128 => mem r i) = afInet := by
    rw [← hdoc.ip4_family _ _ _ hr]
    rfl
  have hrecord : Memory.slice (mem fun i : Fin 128 => mem r i) 0 16 = r := by
    funext i
    have hi : 0 + i.1 < 16 := by omega
    have hi' : 0 + i.1 < 128 := by omega
    rw [Memory.slice, mem, Object.at_of_lt hi', mem, Object.at_of_lt hi]
    exact congrArg r (Fin.ext (Nat.zero_add i))
  have haddress : sockQuery uv (fun i => mem r i) (.failed code) = { ip := name, port := 80 } := by
    rw [sockQuery, UvAnswer.fill, UvInet.sockAddrStorage, UvInet.sockAddr, if_pos hfamily, hrecord,
      UvInet.sockAddrIn, hname, hport]
    rfl
  rw [haddress]
  intro heq
  have hzero : (80 : UInt32) = 0 := congrArg SocketAddress.port heq
  exact absurd hzero (by decide)

/-- A name that was never written. -/
lemma threadName_failed (code : Int) : threadName (fun _ => 1) (.failed code) ≠ some [] := by
  have hnone : (0 : UInt8) ∉ List.ofFn fun _ : Fin defaultSize => (1 : UInt8) := by
    rw [List.mem_ofFn]
    rintro ⟨_, h⟩
    cases h
  rw [threadName, UvAnswer.fill, scan, if_neg hnone]
  exact (Option.some_ne_none []).symm

/-- A `passwd_info` is never null. -/
lemma osPasswd_toBool (passwd : UvPasswd) (answer : UvAnswer UvPasswd) :
    (osPasswd passwd answer).toBool = true := rfl

/-- **Which queries are faithful**: the result of `sock` and `peer`, `thread::name`, `os::passwd` and `fd`
does not depend on what their local held before, and is the failure value of the documentation if the
call of libuv fails, exactly if that succeeds. -/
theorem local_queries_faithful_iff {uv : UvInet} (hdoc : uv.Documented)
    (hloopback : (uv.ip4Addr "127.0.0.1" 80).isSome = true) (q : LocalQuery)
    (answer : UvAnswer q.Written) : q.Faithful uv answer ↔ ¬ answer.Failed := by
  obtain ⟨r, hr⟩ := Option.isSome_iff_exists.mp hloopback
  cases answer with
  | failed code =>
    refine iff_of_false (fun h => ?_) (not_not.mpr trivial)
    have hfailure : ∀ b : q.Buffer, q.IsFailure (q.run uv b (.failed code)) :=
      fun b => (h b b).2 trivial
    cases q with
    | tcpSock | tcpPeer | udpPeer | udpSock =>
      exact sockQuery_failed hdoc hr code (hfailure fun i => mem r i)
    | threadName => exact threadName_failed code (hfailure fun _ => (1 : UInt8))
    | passwd =>
      have hnull := (hfailure (⟨0, 0, 0, 0, 0⟩ : UvPasswd)).1
      exact Bool.noConfusion ((osPasswd_toBool _ _).symm.trans hnull)
    | fd => exact Int.lt_irrefl 0 (hfailure (0 : Int))
  | wrote w =>
    refine iff_of_true (fun b b' => ⟨?_, fun hfailed => hfailed.elim⟩) id
    cases q with
    | tcpSock | tcpPeer | udpPeer | udpSock =>
      exact (sockQuery_wrote w b).trans (sockQuery_wrote w b').symm
    | threadName => exact (threadName_wrote w b).trans (threadName_wrote w b').symm
    | passwd => rfl
    | fd => rfl

/-- `sock` of a tcp handle, when `uv_tcp_getsockname` fails with `UV_EBADF`. -/
theorem local_queries_faithful_iff_loopback :
    LocalQuery.tcpSock.Faithful .loopback (.failed (-9)) ↔ ¬ True :=
  local_queries_faithful_iff UvInet.loopback_documented rfl .tcpSock (.failed (-9))

/-- `fd` of a handle that has none returns whatever its local held. -/
theorem handle_fd_returns_garbage : ¬ LocalQuery.fd.Faithful .loopback (.failed (-9)) := by
  intro h
  have hsame : (0 : Int) = 1 := (h (0 : Int) (1 : Int)).1
  exact absurd hsame (by decide)

end Uvw
