import Mathlib.Data.Fin.VecNotation
import Uvw.Foundation.ObjectMemory

/-!
# Addresses as text and as bytes

`details::ip_addr` turns a literal and a port into a `sockaddr`, which `bind`, `connect`, `send`,
`try_send` and `name_info` hand to libuv; `details::sock_addr` goes back.  The records are modelled as
the bytes they consist of, in the layout of Linux: the family in the first two, the port in network
order in the next two.  A `sockaddr_in` has sixteen bytes, as many as a `sockaddr`; a `sockaddr_in6` has
twenty-eight, of which a `sockaddr` returned by value keeps the first sixteen.  A pointer to a record is
the memory from it on: whoever reads more than the record finds what follows it.

`address_survives_iff` says which addresses libuv is handed as they were written, and
`sockAddrStorage_ip6Addr` that the way back loses nothing of either family.
-/

namespace Uvw

open ObjectMemory

/-! ## The records -/

abbrev Sockaddr := Object UInt8 16

abbrev SockaddrIn := Object UInt8 16

abbrev SockaddrIn6 := Object UInt8 28

abbrev SockaddrStorage := Object UInt8 128

/-- `AF_INET`. -/
def afInet : ℕ := 2

/-- `AF_INET6`. -/
def afInet6 : ℕ := 10

/-- `sa_family`, in the order of the host. -/
def family (p : Memory UInt8) : ℕ := (p 0).toNat + 256 * (p 1).toNat

/-- `ntohs` of `sin_port` or `sin6_port`. -/
def netPort (p : Memory UInt8) : ℕ := 256 * (p 2).toNat + (p 3).toNat

/-- A record on its own. -/
def mem {n : ℕ} (r : Object UInt8 n) : Memory UInt8 := r.at fun _ => 0

/-- What a socket address denotes. -/
inductive Endpoint
  | inet (addr : Object UInt8 4) (port : ℕ)
  | inet6 (addr : Object UInt8 16) (scope : Object UInt8 4) (port : ℕ)

/-- What libuv and the system make of a pointer to a `sockaddr`: they read as many bytes as its family
requires. -/
def endpoint (p : Memory UInt8) : Option Endpoint :=
  if family p = afInet then some (.inet (p.slice 4 4) (netPort p))
  else if family p = afInet6 then some (.inet6 (p.slice 8 16) (p.slice 24 4) (netPort p))
  else none

section

variable {n k : ℕ} (r : Object UInt8 n) (hk : k ≤ n) (rest : Memory UInt8)

/-- The family is read from the first two bytes, -/
lemma family_first (h : 2 ≤ k) : family ((r.first hk).at rest) = family (mem r) := by
  have h0 : (r.first hk).at rest 0 = mem r 0 := Object.first_at_of_lt hk _ (by omega)
  have h1 : (r.first hk).at rest 1 = mem r 1 := Object.first_at_of_lt hk _ (by omega)
  rw [family, family, h0, h1]

/-- and the port from the first four. -/
lemma netPort_first (h : 4 ≤ k) : netPort ((r.first hk).at rest) = netPort (mem r) := by
  have h2 : (r.first hk).at rest 2 = mem r 2 := Object.first_at_of_lt hk _ (by omega)
  have h3 : (r.first hk).at rest 3 = mem r 3 := Object.first_at_of_lt hk _ (by omega)
  rw [netPort, netPort, h2, h3]

end

/-! ## What libuv provides -/

/-- `uv_ip4_addr`, `uv_ip6_addr`, `uv_ip4_name` and `uv_ip6_name`; `none` is a failure. -/
structure UvInet where
  ip4Addr : String → Int → Option SockaddrIn
  ip6Addr : String → Int → Option SockaddrIn6
  ip4Name : SockaddrIn → Option String
  ip6Name : SockaddrIn6 → Option String

/-- What is assumed of them: they fill in the family and, cut to sixteen bits, the port, and a record
obtained from a literal prints as a literal that leads to the same record, or to the same address where
the name leaves out the scope. -/
structure UvInet.Documented (uv : UvInet) : Prop where
  ip4_family : ∀ ip port r, uv.ip4Addr ip port = some r → family (mem r) = afInet
  ip4_port : ∀ ip port r, uv.ip4Addr ip port = some r → netPort (mem r) = (port % 65536).toNat
  ip4_inverse : ∀ ip port r, uv.ip4Addr ip port = some r →
    ∃ name, uv.ip4Name r = some name ∧ uv.ip4Addr name port = some r
  ip6_family : ∀ ip port r, uv.ip6Addr ip port = some r → family (mem r) = afInet6
  ip6_port : ∀ ip port r, uv.ip6Addr ip port = some r → netPort (mem r) = (port % 65536).toNat
  ip6_inverse : ∀ ip port r, uv.ip6Addr ip port = some r →
    ∃ name r', uv.ip6Name r = some name ∧ uv.ip6Addr name port = some r' ∧
      (mem r').slice 8 16 = (mem r).slice 8 16

/-! ## The conversions -/

/-- A `socket_address`. -/
structure SocketAddress where
  ip : String
  port : UInt32
deriving DecidableEq, Repr

/-- `static_cast<int>(port)`. -/
def signedPort (port : UInt32) : Int := port.toBitVec.toInt

namespace UvInet

variable (uv : UvInet)

/-- `details::ip_addr`. -/
def ipAddr (addr : String) (port : UInt32) : Sockaddr :=
  match uv.ip4Addr addr (signedPort port) with
  | some addrIn => addrIn.first le_rfl
  | none =>
    match uv.ip6Addr addr (signedPort port) with
    | some addrIn6 => addrIn6.first (by decide)
    | none => fun _ => 0

/-- `details::sock_addr(const sockaddr_in &)`. -/
def sockAddrIn (addr : SockaddrIn) : SocketAddress :=
  match uv.ip4Name addr with
  | some name => { ip := name, port := .ofNat (netPort (mem addr)) }
  | none => { ip := "", port := 0 }

/-- `details::sock_addr(const sockaddr_in6 &)`. -/
def sockAddrIn6 (addr : SockaddrIn6) : SocketAddress :=
  match uv.ip6Name addr with
  | some name => { ip := name, port := .ofNat (netPort (mem addr)) }
  | none => { ip := "", port := 0 }

/-- `details::sock_addr(const sockaddr &)`, which reads the record its family stands for. -/
def sockAddr (addr : Memory UInt8) : SocketAddress :=
  if family addr = afInet then uv.sockAddrIn (addr.slice 0 16)
  else if family addr = afInet6 then uv.sockAddrIn6 (addr.slice 0 28)
  else { ip := "", port := 0 }

/-- `details::sock_addr(const sockaddr_storage &)`. -/
def sockAddrStorage (storage : SockaddrStorage) : SocketAddress := uv.sockAddr (mem storage)

end UvInet

/-! ## The calls -/

/-- The calls of libuv that take a socket address. -/
inductive UvNetCall
  | tcpBind (addr : Sockaddr) (flags : UInt32)
  | tcpConnect (addr : Sockaddr)
  | udpConnect (addr : Sockaddr)
  | udpBind (addr : Sockaddr) (flags : UInt32)
  | udpSend (data : List UInt8) (addr : Sockaddr)
  | udpTrySend (data : List UInt8) (addr : Sockaddr)
  | getnameinfo (addr : Sockaddr) (flags : Int)

/-- The address libuv is given a pointer to. -/
def UvNetCall.addr : UvNetCall → Sockaddr
  | tcpBind addr _ | tcpConnect addr | udpConnect addr | udpBind addr _ | udpSend _ addr
  | udpTrySend _ addr | getnameinfo addr _ => addr

/-- The methods of `tcp_handle`, `udp_handle` and `get_name_info_req` that take an address, with their
other arguments. -/
inductive AddressMethod
  | tcpBind (opts : UInt32)
  | tcpConnect
  | udpConnect
  | udpBind (opts : UInt32)
  | udpSend (data : List UInt8)
  | udpTrySend (data : List UInt8)
  | nameInfo (flags : Int)
  | nameInfoSync (flags : Int)
deriving DecidableEq, Repr

namespace AddressMethod

/-- The overload that takes a `sockaddr`. -/
def call (addr : Sockaddr) : AddressMethod → UvNetCall
  | tcpBind opts => .tcpBind addr opts
  | tcpConnect => .tcpConnect addr
  | udpConnect => .udpConnect addr
  | udpBind opts => .udpBind addr opts
  | udpSend data => .udpSend data addr
  | udpTrySend data => .udpTrySend data addr
  | nameInfo flags | nameInfoSync flags => .getnameinfo addr flags

variable (m : AddressMethod) (uv : UvInet)

/-- The overload that takes a literal and a port. -/
def callIp (ip : String) (port : UInt32) : UvNetCall := m.call (uv.ipAddr ip port)

/-- The overload that takes a `socket_address`. -/
def callAddress (addr : SocketAddress) : UvNetCall := m.callIp uv addr.ip addr.port

@[simp] lemma call_addr (addr : Sockaddr) : (m.call addr).addr = addr := by
  cases m <;> rfl

end AddressMethod

/-! ## What survives -/

namespace UvInet

variable (uv : UvInet) (ip : String) (port : UInt32)

/-- What a literal and a port denote. -/
def denoted : Option Endpoint :=
  match uv.ip4Addr ip (signedPort port) with
  | some r => some (.inet ((mem r).slice 4 4) port.toNat)
  | none => (uv.ip6Addr ip (signedPort port)).map fun r =>
      .inet6 ((mem r).slice 8 16) ((mem r).slice 24 4) port.toNat

/-- The canonical spelling of a literal. -/
def canonical : Option String :=
  match uv.ip4Addr ip (signedPort port) with
  | some r => uv.ip4Name r
  | none => (uv.ip6Addr ip (signedPort port)).bind uv.ip6Name

/-- The text is an IPv4 literal. -/
def IsIp4 : Prop := (uv.ip4Addr ip (signedPort port)).isSome = true

/-- The text is an IPv4 or an IPv6 literal. -/
def IsLiteral : Prop := uv.IsIp4 ip port ∨ (uv.ip6Addr ip (signedPort port)).isSome = true

/-- What a method hands to libuv denotes the literal and the port, and prints as the canonical spelling
and the port, whatever follows it in memory. -/
def Survives (m : AddressMethod) : Prop :=
  ∃ e name, uv.denoted ip port = some e ∧ uv.canonical ip port = some name ∧
    ∀ rest, endpoint ((m.callAddress uv { ip, port }).addr.at rest) = some e ∧
      uv.sockAddr ((m.callAddress uv { ip, port }).addr.at rest) = { ip := name, port }

variable {uv ip port}

/-- The port that is stored for a port in range. -/
lemma signedPort_mod (h : port < 65536) : (signedPort port % 65536).toNat = port.toNat := by
  have hlt : port.toNat < 65536 := UInt32.lt_iff_toNat_lt.mp h
  have hsigned : signedPort port = port.toNat :=
    BitVec.toInt_eq_toNat_of_lt (show 2 * port.toNat < 2 ^ 32 by omega)
  rw [hsigned]
  omega

/-- **IPv4 addresses survive**: the record fits into the object. -/
lemma survives_of_ip4Addr (hdoc : uv.Documented) (hport : port < 65536) {r : SockaddrIn}
    (hr : uv.ip4Addr ip (signedPort port) = some r) (m : AddressMethod) : uv.Survives ip port m := by
  have hobj : (m.callAddress uv { ip, port }).addr = r.first le_rfl := by
    rw [AddressMethod.callAddress, AddressMethod.callIp, AddressMethod.call_addr, ipAddr, hr]
  have hstored : netPort (mem r) = port.toNat :=
    (hdoc.ip4_port _ _ _ hr).trans (signedPort_mod hport)
  obtain ⟨name, hname, _⟩ := hdoc.ip4_inverse _ _ _ hr
  refine ⟨.inet ((mem r).slice 4 4) port.toNat, name, ?_, ?_, fun rest => ?_⟩
  · rw [denoted, hr]
  · rw [canonical, hr]
    exact hname
  rw [hobj]
  have hfamily : family ((r.first le_rfl).at rest) = afInet :=
    (family_first r le_rfl rest (by decide)).trans (hdoc.ip4_family _ _ _ hr)
  constructor
  · rw [endpoint, if_pos hfamily, netPort_first r le_rfl rest (by decide), hstored,
      slice_first le_rfl (by decide)]
    rfl
  · rw [sockAddr, if_pos hfamily, Object.first_self, Object.slice_zero_at, sockAddrIn, hname]
    simp [hstored]

instance : Nontrivial UInt8 := ⟨0, 1, by decide⟩

/-- **IPv6 addresses do not**: whatever follows the object is read as the second half of the
address. -/
lemma not_survives_of_ip6Addr (hdoc : uv.Documented) {r : SockaddrIn6}
    (hnone : uv.ip4Addr ip (signedPort port) = none)
    (hr : uv.ip6Addr ip (signedPort port) = some r) (m : AddressMethod) :
    ¬ uv.Survives ip port m := by
  have hk : 16 ≤ 28 := by decide
  have hobj : (m.callAddress uv { ip, port }).addr = r.first hk := by
    rw [AddressMethod.callAddress, AddressMethod.callIp, AddressMethod.call_addr, ipAddr, hnone, hr]
  rintro ⟨e, name, hdenoted, _, hall⟩
  rw [denoted, hnone, hr] at hdenoted
  obtain rfl := Option.some.inj hdenoted
  have hslice : ∀ rest, ((r.first hk).at rest).slice 8 16 = (mem r).slice 8 16 := by
    intro rest
    have hfamily : family ((r.first hk).at rest) = afInet6 :=
      (family_first r hk rest (by decide)).trans (hdoc.ip6_family _ _ _ hr)
    have hend := (hall rest).1
    rw [hobj, endpoint, hfamily, if_neg (by decide), if_pos rfl] at hend
    exact (Endpoint.inet6.inj (Option.some.inj hend)).1
  exact absurd ((slice_first_iff hk (by decide) _).mp hslice) (by decide)

/-- Nothing is lost on the way back: a `sockaddr_storage` that begins with the record of an IPv6
literal prints as its canonical spelling and its port. -/
lemma sockAddrStorage_ip6Addr (hdoc : uv.Documented) (hport : port < 65536)
    {r : SockaddrIn6} (hr : uv.ip6Addr ip (signedPort port) = some r) {storage : SockaddrStorage}
    (hstorage : (mem storage).slice 0 28 = r) :
    ∃ name, uv.ip6Name r = some name ∧ uv.sockAddrStorage storage = { ip := name, port } := by
  have hstored : netPort (mem r) = port.toNat :=
    (hdoc.ip6_port _ _ _ hr).trans (signedPort_mod hport)
  obtain ⟨name, r', hname, _⟩ := hdoc.ip6_inverse _ _ _ hr
  have hfamily : family (mem storage) = afInet6 := by
    rw [← hdoc.ip6_family _ _ _ hr, ← hstorage]
    rfl
  refine ⟨name, hname, ?_⟩
  rw [sockAddrStorage, sockAddr, hfamily, if_neg (by decide), if_pos rfl, hstorage, sockAddrIn6,
    hname]
  simp [hstored]

end UvInet

/-- **Which addresses survive**: what `bind`, `connect`, `send`, `try_send` and `name_info` hand to
libuv for a literal and a port denotes these, and `sock_addr` gives them back, exactly if the literal
is an IPv4 address. -/
theorem address_survives_iff {uv : UvInet} (hdoc : uv.Documented) (m : AddressMethod) {ip : String}
    {port : UInt32} (hport : port < 65536) (hip : uv.IsLiteral ip port) :
    uv.Survives ip port m ↔ uv.IsIp4 ip port := by
  constructor
  · intro hsurvives
    by_contra hnot
    obtain ⟨r, hr⟩ := Option.isSome_iff_exists.mp (hip.resolve_left hnot)
    have hnone : uv.ip4Addr ip (signedPort port) = none := Option.not_isSome_iff_eq_none.mp hnot
    exact UvInet.not_survives_of_ip6Addr hdoc hnone hr m hsurvives
  · intro hip4
    obtain ⟨r, hr⟩ := Option.isSome_iff_exists.mp hip4
    exact UvInet.survives_of_ip4Addr hdoc hport hr m

/-! ### The loopback addresses -/

/-- `htons`, byte by byte. -/
def portBytes (port : Int) : UInt8 × UInt8 :=
  (.ofNat ((port % 65536).toNat / 256), .ofNat ((port % 65536).toNat % 256))

/-- The two bytes of a port make up the port again. -/
lemma portBytes_value (port : Int) :
    256 * (portBytes port).1.toNat + (portBytes port).2.toNat = (port % 65536).toNat := by
  have hlt : (port % 65536).toNat < 65536 := by omega
  simp only [portBytes, UInt8.toNat_ofNat']
  omega

/-- The record of `127.0.0.1`. -/
def SockaddrIn.loopback (port : Int) : SockaddrIn :=
  ![2, 0, (portBytes port).1, (portBytes port).2, 127, 0, 0, 1, 0, 0, 0, 0, 0, 0, 0, 0]

/-- The record of `::1`. -/
def SockaddrIn6.loopback (port : Int) : SockaddrIn6 :=
  ![10, 0, (portBytes port).1, (portBytes port).2, 0, 0, 0, 0, 0, 0, 0, 0, 0, 0, 0, 0,
    0, 0, 0, 0, 0, 0, 0, 1, 0, 0, 0, 0]

/-- The functions of libuv on the loopback addresses; they know no other. -/
def UvInet.loopback : UvInet where
  ip4Addr ip port := if ip = "127.0.0.1" then some (.loopback port) else none
  ip6Addr ip port := if ip = "::1" then some (.loopback port) else none
  ip4Name r := if r 4 = 127 ∧ r 5 = 0 ∧ r 6 = 0 ∧ r 7 = 1 then some "127.0.0.1" else none
  ip6Name r := if (∀ i : Fin 15, mem r (8 + i) = 0) ∧ r 23 = 1 then some "::1" else none

/-- The loopback parses its own address only, -/
lemma UvInet.loopback_ip4Addr {ip : String} {port : Int} {r : SockaddrIn}
    (h : UvInet.loopback.ip4Addr ip port = some r) : ip = "127.0.0.1" ∧ r = .loopback port := by
  obtain ⟨hip, heq⟩ := Option.ite_none_right_eq_some.mp h
  exact ⟨hip, (Option.some.inj heq).symm⟩

/-- in either family, -/
lemma UvInet.loopback_ip6Addr {ip : String} {port : Int} {r : SockaddrIn6}
    (h : UvInet.loopback.ip6Addr ip port = some r) : ip = "::1" ∧ r = .loopback port := by
  obtain ⟨hip, heq⟩ := Option.ite_none_right_eq_some.mp h
  exact ⟨hip, (Option.some.inj heq).symm⟩

/-- and behaves as documented. -/
lemma UvInet.loopback_documented : UvInet.loopback.Documented where
  ip4_family ip port r h := by
    obtain ⟨_, rfl⟩ := loopback_ip4Addr h
    rfl
  ip4_port ip port r h := by
    obtain ⟨_, rfl⟩ := loopback_ip4Addr h
    exact portBytes_value port
  ip4_inverse ip port r h := by
    obtain ⟨rfl, rfl⟩ := loopback_ip4Addr h
    exact ⟨"127.0.0.1", rfl, h⟩
  ip6_family ip port r h := by
    obtain ⟨_, rfl⟩ := loopback_ip6Addr h
    rfl
  ip6_port ip port r h := by
    obtain ⟨_, rfl⟩ := loopback_ip6Addr h
    exact portBytes_value port
  ip6_inverse ip port r h := by
    obtain ⟨rfl, rfl⟩ := loopback_ip6Addr h
    exact ⟨"::1", _, by rfl, h, rfl⟩

/-- `connect("127.0.0.1", 80)`. -/
theorem address_survives_loopback : UvInet.loopback.Survives "127.0.0.1" 80 .tcpConnect := by
  have hip : UvInet.loopback.IsIp4 "127.0.0.1" 80 := rfl
  exact (address_survives_iff UvInet.loopback_documented _ (by decide) (Or.inl hip)).mpr hip

/-- `bind("::1", 80)`: libuv reads the second half of the address from whatever follows. -/
theorem address_ip6_loopback_lost : ¬ UvInet.loopback.Survives "::1" 80 (.tcpBind 0) :=
  UvInet.not_survives_of_ip6Addr UvInet.loopback_documented rfl rfl _

end Uvw
