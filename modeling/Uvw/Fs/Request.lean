import Mathlib.Algebra.Group.Int.Defs
import Mathlib.Algebra.Group.Nat.Defs
import Uvw.Fs.Uv

/-!
# The filesystem requests

The asynchronous and synchronous methods of `file_req` and `fs_req`, the callbacks they hand to libuv
and the `fs_event` these publish.  Both classes derive from `fs_request`: `FsRequest σ` is what they
share, `σ` being the members of the class itself.  An asynchronous method ends with a call of libuv;
it is modelled as the request, the call and the callback at that point (`Issued`).  A synchronous one
takes what libuv makes of its call as an argument.

### Outline

* `FsEvent` and its constructor;
* `FsRequest`, the common bodies of the methods, and the callbacks;
* the methods of `file_req`, then those of `fs_req`;
* `FileCall`, `FsCall` and `FsClass`, the calls a program can make on the two classes.
-/

namespace Uvw

/-! ## Conversions -/

/-- `static_cast<std::size_t>` of a `ssize_t`. -/
def sizeT (x : Int) : ℕ := (x % 2 ^ 64).toNat

/-- `static_cast<uv_file>` of a `ssize_t`. -/
def uvFile (x : Int) : Int := x.bmod (2 ^ 32)

/-- `BAD_FD`. -/
def badFd : Int := -1

/-! ## Events -/

/-- An `fs_event`; the members the constructor does not set are `none`. -/
structure FsEvent where
  type : FsType
  path : Option String
  result : ℕ
  read : Option (List UInt8)
  readlink : Option String
  stat : Option FileInfo
  statfs : Option FsInfo
  /-- Name, type and `eos`. -/
  dirent : Option (String × DirentType × Bool)
deriving DecidableEq, Repr

/-- The constructor of `fs_event` without data; `dirents` are those a `uv_dir_t` points to.  It has
no value where the source reads through a pointer that leads to nothing of the kind. -/
def fsEvent (dirents : Dirent) (req : UvFs) : Option FsEvent :=
  let ev : FsEvent :=
    { type := req.fsType, path := req.path, result := sizeT req.result, read := none,
      readlink := none, stat := none, statfs := none, dirent := none }
  match req.fsType with
  | .stat | .lstat | .fstat =>
    match req.ptr with
    | .statbuf => some { ev with stat := some req.statbuf }
    | _ => none
  | .readlink =>
    match req.ptr with
    | .text s => some { ev with readlink := some s }
    | .null => some ev
    | _ => none
  | .readdir =>
    match req.dir with
    | some d =>
      if d.dirents then
        some { ev with dirent := some (dirents.name, dirents.type, decide (req.result = 0)) }
      else none
    | none => none
  | .statfs =>
    match req.ptr with
    | .statfs s => some { ev with statfs := some s }
    | _ => none
  | _ => some ev

/-- The events a filesystem request publishes. -/
inductive FsPublished
  | error (code : Int)
  | fs (ev : FsEvent)
deriving DecidableEq, Repr

/-! ## The requests -/

/-- What `file_req` and `fs_req` share: the `uv_fs_t` and, from `resource`, `self_ptr`; `own` are the
members of the class itself. -/
structure FsRequest (σ : Type) where
  raw : UvFs
  selfPtr : Bool
  own : σ
deriving DecidableEq, Repr

/-- The callbacks the methods hand to libuv. -/
inductive FsCallback
  | fsRequest | fsOpen | fsClose | fsRead
deriving DecidableEq, Repr

/-- An asynchronous method at its call of libuv. -/
structure Issued (σ : Type) where
  req : FsRequest σ
  call : UvFsCall
  callback : FsCallback
deriving DecidableEq, Repr

namespace FsRequest

variable {σ : Type} (x : FsRequest σ)

/-- `uv_fs_req_cleanup(this->raw())`. -/
def cleanup : FsRequest σ := { x with raw := x.raw.cleanup }

/-- The common end of the asynchronous methods: the clean-up and the call. -/
def issue (call : UvFsCall) (callback : FsCallback) : Issued σ := { req := x.cleanup, call, callback }

/-- The common part of the synchronous methods: the clean-up and the call, whose code is dropped. -/
def callSync (call : UvFsCall) (out : FsOutcome) : FsRequest σ :=
  { x with raw := x.raw.cleanup.perform call out }

/-- `!(req->result < 0)`. -/
def success : Bool := !decide (x.raw.result < 0)

/-- The synchronous methods that return nothing but the flag. -/
def flagSync (call : UvFsCall) (out : FsOutcome) : Bool × FsRequest σ :=
  let x := x.callSync call out
  (x.success, x)

/-- The synchronous methods that return the flag and a size. -/
def sizeSync (call : UvFsCall) (out : FsOutcome) : (Bool × ℕ) × FsRequest σ :=
  let x := x.callSync call out
  ((x.success, if x.raw.result < 0 then 0 else sizeT x.raw.result), x)

/-- The synchronous methods that return the flag and the `statbuf`. -/
def statbufSync (call : UvFsCall) (out : FsOutcome) : (Bool × FileInfo) × FsRequest σ :=
  let x := x.callSync call out
  ((x.success, x.raw.statbuf), x)

/-- The synchronous methods that return the flag and `req->path`. -/
def pathSync (call : UvFsCall) (out : FsOutcome) : (Bool × Option String) × FsRequest σ :=
  let x := x.callSync call out
  ((x.success, x.raw.path), x)

/-- `request::reserve`. -/
def reserve : FsRequest σ := { x with selfPtr := false }

/-- The common body of the callbacks: the request is reserved, and an error is published, or the
members become `own` and the `fs_event` is published with what `attach` adds to it. -/
def answer (dirents : Dirent) (own : σ) (attach : FsEvent → FsEvent) :
    Option (FsPublished × FsRequest σ) :=
  let x := x.reserve
  if x.raw.result < 0 then some (.error x.raw.result, x)
  else (fsEvent dirents x.raw).map fun ev => (.fs (attach ev), { x with own })

variable {x} (dirents : Dirent) (own : σ) (attach : FsEvent → FsEvent)

/-- A negative result is published as an error. -/
lemma answer_of_neg (h : x.raw.result < 0) :
    x.answer dirents own attach = some (.error x.raw.result, x.reserve) :=
  if_pos h

/-- Any other result is published as an `fs_event`. -/
lemma answer_of_nonneg (h : 0 ≤ x.raw.result) :
    x.answer dirents own attach =
      (fsEvent dirents x.raw).map fun ev => (.fs (attach ev), { x.reserve with own }) :=
  if_neg (Int.not_lt.mpr h)

/-- A callback leaves the `uv_fs_t` alone. -/
lemma answer_raw {p : FsPublished} {y : FsRequest σ}
    (h : x.answer dirents own attach = some (p, y)) : y.raw = x.raw := by
  by_cases hneg : x.raw.result < 0
  · rw [answer_of_neg dirents own attach hneg] at h
    simp only [Option.some.injEq, Prod.mk.injEq] at h
    obtain ⟨-, rfl⟩ := h
    rfl
  · rw [answer_of_nonneg dirents own attach (Int.not_lt.mp hneg), Option.map_eq_some_iff] at h
    obtain ⟨ev, -, hev⟩ := h
    simp only [Prod.mk.injEq] at hev
    obtain ⟨-, rfl⟩ := hev
    rfl

lemma answer_of_event (h : 0 ≤ x.raw.result) {ev : FsEvent}
    (hev : fsEvent dirents x.raw = some ev) :
    x.answer dirents own attach = some (.fs (attach ev), { x.reserve with own }) := by
  rw [answer_of_nonneg dirents own attach h, hev, Option.map_some]

end FsRequest

/-- The members of `file_req`. -/
structure FileMembers where
  current : Option (List UInt8)
  file : Int
deriving DecidableEq, Repr

/-- The member of `fs_req`. -/
structure FsMembers where
  dirents : Dirent
deriving DecidableEq, Repr

abbrev FileReq := FsRequest FileMembers

abbrev FsReq := FsRequest FsMembers

/-- A `uv_fs_t` as the constructor of the request leaves it, all zero. -/
def UvFs.fresh : UvFs :=
  { fsType := .custom, result := 0, path := none, ptr := .null, statbuf := ⟨[]⟩ }

/-- A new `file_req`. -/
def FileReq.fresh : FileReq :=
  { raw := .fresh, selfPtr := false, own := { current := none, file := badFd } }

/-- A new `fs_req`; its `dirents` are not initialised. -/
def FsReq.fresh (dirents : Dirent) : FsReq :=
  { raw := .fresh, selfPtr := false, own := { dirents } }

/-- What an operation writes through the buffer it was given. -/
def writeBuffer (out : FsOutcome) (buf : List UInt8) : List UInt8 :=
  match out with
  | .performed _ (.data bytes) => bytes ++ buf.drop bytes.length
  | _ => buf

/-- What an operation writes through the `dirents` of the directory it was given. -/
def writeDirents (out : FsOutcome) (dirents : Dirent) : Dirent :=
  match out with
  | .performed _ (.dirent e) => e
  | _ => dirents

/-! ## `file_req` -/

namespace FileReq

variable (x : FileReq)

/-- The entry `fs_event` would find behind a `uv_dir_t`; a `file_req` never opens one. -/
def noDirents : Dirent := { name := "", type := .unknown }

/-- `fs_request::fs_request_callback`. -/
def fsRequestCallback : Option (FsPublished × FileReq) := x.answer noDirents x.own id

/-- `file_req::fs_open_callback`. -/
def fsOpenCallback : Option (FsPublished × FileReq) :=
  x.answer noDirents { x.own with file := uvFile x.raw.result } id

/-- `file_req::fs_close_callback`. -/
def fsCloseCallback : Option (FsPublished × FileReq) :=
  x.answer noDirents { x.own with file := badFd } id

/-- `file_req::fs_read_callback`: the buffer moves into the event. -/
def fsReadCallback : Option (FsPublished × FileReq) :=
  x.answer noDirents { x.own with current := none } fun ev => { ev with read := x.own.current }

/-- The callback libuv was given. -/
def callback : FsCallback → FileReq → Option (FsPublished × FileReq)
  | .fsRequest => fsRequestCallback
  | .fsOpen => fsOpenCallback
  | .fsClose => fsCloseCallback
  | .fsRead => fsReadCallback

def close : Issued FileMembers := x.issue (.close x.own.file) .fsClose

def closeSync (out : FsOutcome) : Bool × FileReq :=
  let x := x.callSync (.close x.own.file) out
  let x := if x.raw.result ≥ 0 then { x with own := { x.own with file := badFd } } else x
  (x.success, x)

def «open» (path : String) (flags mode : Int) : Issued FileMembers :=
  x.issue (.open path flags mode) .fsOpen

def openSync (path : String) (flags mode : Int) (out : FsOutcome) : Bool × FileReq :=
  let x := x.callSync (.open path flags mode) out
  let x :=
    if x.raw.result ≥ 0 then { x with own := { x.own with file := uvFile x.raw.result } } else x
  (x.success, x)

/-- `std::make_unique<char[]>(len)`. -/
def makeBuffer (len : UInt32) : List UInt8 := List.replicate len.toNat 0

def read (offset : Int) (len : UInt32) : Issued FileMembers :=
  let x := { x with own := { x.own with current := some (makeBuffer len) } }
  x.issue (.read x.own.file len offset) .fsRead

def readSync (offset : Int) (len : UInt32) (out : FsOutcome) :
    (Bool × Option (List UInt8) × ℕ) × FileReq :=
  let x := { x with own := { x.own with current := some (writeBuffer out (makeBuffer len)) } }
  let x := x.callSync (.read x.own.file len offset) out
  ((x.success, x.own.current, if x.raw.result < 0 then 0 else sizeT x.raw.result),
    { x with own := { x.own with current := none } })

/-- `file_req::write(std::unique_ptr<char[]>, unsigned int, int64_t)`. -/
def write (buf : List UInt8) (len : UInt32) (offset : Int) : Issued FileMembers :=
  let x := { x with own := { x.own with current := some buf } }
  x.issue (.write x.own.file len offset) .fsRequest

/-- `file_req::write(char *, unsigned int, int64_t)`: the buffer stays with the caller. -/
def writeRaw (len : UInt32) (offset : Int) : Issued FileMembers :=
  x.issue (.write x.own.file len offset) .fsRequest

def writeSync (buf : List UInt8) (len : UInt32) (offset : Int) (out : FsOutcome) :
    (Bool × ℕ) × FileReq :=
  let x := { x with own := { x.own with current := some buf } }
  x.sizeSync (.write x.own.file len offset) out

def stat : Issued FileMembers := x.issue (.fstat x.own.file) .fsRequest

def statSync (out : FsOutcome) : (Bool × FileInfo) × FileReq :=
  x.statbufSync (.fstat x.own.file) out

def sync : Issued FileMembers := x.issue (.fsync x.own.file) .fsRequest

def syncSync (out : FsOutcome) : Bool × FileReq := x.flagSync (.fsync x.own.file) out

def datasync : Issued FileMembers := x.issue (.fdatasync x.own.file) .fsRequest

def datasyncSync (out : FsOutcome) : Bool × FileReq := x.flagSync (.fdatasync x.own.file) out

def truncate (offset : Int) : Issued FileMembers :=
  x.issue (.ftruncate x.own.file offset) .fsRequest

def truncateSync (offset : Int) (out : FsOutcome) : Bool × FileReq :=
  x.flagSync (.ftruncate x.own.file offset) out

def sendfile (out : Int) (offset : Int) (length : ℕ) : Issued FileMembers :=
  x.issue (.sendfile out x.own.file offset length) .fsRequest

def sendfileSync (dst : Int) (offset : Int) (length : ℕ) (out : FsOutcome) :
    (Bool × ℕ) × FileReq :=
  x.sizeSync (.sendfile dst x.own.file offset length) out

def chmod (mode : Int) : Issued FileMembers := x.issue (.fchmod x.own.file mode) .fsRequest

def chmodSync (mode : Int) (out : FsOutcome) : Bool × FileReq :=
  x.flagSync (.fchmod x.own.file mode) out

def futime (atime mtime : UInt64) : Issued FileMembers :=
  x.issue (.futime x.own.file atime mtime) .fsRequest

def futimeSync (atime mtime : UInt64) (out : FsOutcome) : Bool × FileReq :=
  x.flagSync (.futime x.own.file atime mtime) out

def chown (uid gid : ℕ) : Issued FileMembers := x.issue (.fchown x.own.file uid gid) .fsRequest

def chownSync (uid gid : ℕ) (out : FsOutcome) : Bool × FileReq :=
  x.flagSync (.fchown x.own.file uid gid) out

end FileReq

/-! ## `fs_req` -/

namespace FsReq

variable (x : FsReq)

/-- `fs_request::fs_request_callback`, the callback of all methods of `fs_req`. -/
def fsRequestCallback : Option (FsPublished × FsReq) := x.answer x.own.dirents x.own id

def unlink (path : String) : Issued FsMembers := x.issue (.unlink path) .fsRequest

def unlinkSync (path : String) (out : FsOutcome) : Bool × FsReq := x.flagSync (.unlink path) out

def mkdir (path : String) (mode : Int) : Issued FsMembers := x.issue (.mkdir path mode) .fsRequest

def mkdirSync (path : String) (mode : Int) (out : FsOutcome) : Bool × FsReq :=
  x.flagSync (.mkdir path mode) out

def mkdtemp (tpl : String) : Issued FsMembers := x.issue (.mkdtemp tpl) .fsRequest

def mkdtempSync (tpl : String) (out : FsOutcome) : (Bool × Option String) × FsReq :=
  x.pathSync (.mkdtemp tpl) out

def mkstemp (tpl : String) : Issued FsMembers := x.issue (.mkstemp tpl) .fsRequest

/-- `fs_req::mkstemp_sync`; a success without a path has no value. -/
def mkstempSync (tpl : String) (out : FsOutcome) : Option ((Bool × String × ℕ) × FsReq) :=
  let x := x.callSync (.mkstemp tpl) out
  if x.success then x.raw.path.map fun path => ((true, path, sizeT x.raw.result), x)
  else some ((false, "", 0), x)

def lutime (path : String) (atime mtime : UInt64) : Issued FsMembers :=
  x.issue (.lutime path atime mtime) .fsRequest

def lutimeSync (path : String) (atime mtime : UInt64) (out : FsOutcome) : Bool × FsReq :=
  x.flagSync (.lutime path atime mtime) out

def rmdir (path : String) : Issued FsMembers := x.issue (.rmdir path) .fsRequest

def rmdirSync (path : String) (out : FsOutcome) : Bool × FsReq := x.flagSync (.rmdir path) out

def scandir (path : String) (flags : Int) : Issued FsMembers :=
  x.issue (.scandir path flags) .fsRequest

def scandirSync (path : String) (flags : Int) (out : FsOutcome) : (Bool × ℕ) × FsReq :=
  x.sizeSync (.scandir path flags) out

/-- `fs_req::scandir_next`, with the name of the entry or a null pointer. -/
def scandirNext : Option ((Bool × DirentType × Option String) × FsReq) :=
  let x := x.cleanup
  (x.raw.scandirNext x.own.dirents).map fun r =>
    let x := { x with raw := r.2.1, own := { dirents := r.2.2 } }
    if uvEof ≠ r.1 then ((true, x.own.dirents.type, some x.own.dirents.name), x)
    else ((false, .unknown, none), x)

def stat (path : String) : Issued FsMembers := x.issue (.stat path) .fsRequest

def statSync (path : String) (out : FsOutcome) : (Bool × FileInfo) × FsReq :=
  x.statbufSync (.stat path) out

def lstat (path : String) : Issued FsMembers := x.issue (.lstat path) .fsRequest

def lstatSync (path : String) (out : FsOutcome) : (Bool × FileInfo) × FsReq :=
  x.statbufSync (.lstat path) out

def statfs (path : String) : Issued FsMembers := x.issue (.statfs path) .fsRequest

/-- `fs_req::statfs_sync`, which reads through `req->ptr` whatever the result. -/
def statfsSync (path : String) (out : FsOutcome) : Option ((Bool × FsInfo) × FsReq) :=
  let x := x.callSync (.statfs path) out
  match x.raw.ptr with
  | .statfs s => some ((x.success, s), x)
  | _ => none

def rename (old path : String) : Issued FsMembers := x.issue (.rename old path) .fsRequest

def renameSync (old path : String) (out : FsOutcome) : Bool × FsReq :=
  x.flagSync (.rename old path) out

def copyfile (old path : String) (flags : Int) : Issued FsMembers :=
  x.issue (.copyfile old path flags) .fsRequest

def copyfileSync (old path : String) (flags : Int) (out : FsOutcome) : Bool × FsReq :=
  x.flagSync (.copyfile old path flags) out

def access (path : String) (mode : Int) : Issued FsMembers :=
  x.issue (.access path mode) .fsRequest

def accessSync (path : String) (mode : Int) (out : FsOutcome) : Bool × FsReq :=
  x.flagSync (.access path mode) out

def chmod (path : String) (mode : Int) : Issued FsMembers := x.issue (.chmod path mode) .fsRequest

def chmodSync (path : String) (mode : Int) (out : FsOutcome) : Bool × FsReq :=
  x.flagSync (.chmod path mode) out

def utime (path : String) (atime mtime : UInt64) : Issued FsMembers :=
  x.issue (.utime path atime mtime) .fsRequest

def utimeSync (path : String) (atime mtime : UInt64) (out : FsOutcome) : Bool × FsReq :=
  x.flagSync (.utime path atime mtime) out

def link (old path : String) : Issued FsMembers := x.issue (.link old path) .fsRequest

def linkSync (old path : String) (out : FsOutcome) : Bool × FsReq :=
  x.flagSync (.link old path) out

def symlink (old path : String) (flags : Int) : Issued FsMembers :=
  x.issue (.symlink old path flags) .fsRequest

def symlinkSync (old path : String) (flags : Int) (out : FsOutcome) : Bool × FsReq :=
  x.flagSync (.symlink old path flags) out

def readlink (path : String) : Issued FsMembers := x.issue (.readlink path) .fsRequest

def readlinkSync (path : String) (out : FsOutcome) : (Bool × FsPtr × ℕ) × FsReq :=
  let x := x.callSync (.readlink path) out
  ((x.success, x.raw.ptr, if x.raw.result < 0 then 0 else sizeT x.raw.result), x)

def realpath (path : String) : Issued FsMembers := x.issue (.realpath path) .fsRequest

def realpathSync (path : String) (out : FsOutcome) : (Bool × Option String) × FsReq :=
  x.pathSync (.realpath path) out

def chown (path : String) (uid gid : ℕ) : Issued FsMembers :=
  x.issue (.chown path uid gid) .fsRequest

def chownSync (path : String) (uid gid : ℕ) (out : FsOutcome) : Bool × FsReq :=
  x.flagSync (.chown path uid gid) out

def lchown (path : String) (uid gid : ℕ) : Issued FsMembers :=
  x.issue (.lchown path uid gid) .fsRequest

def lchownSync (path : String) (uid gid : ℕ) (out : FsOutcome) : Bool × FsReq :=
  x.flagSync (.lchown path uid gid) out

def opendir (path : String) : Issued FsMembers := x.issue (.opendir path) .fsRequest

def opendirSync (path : String) (out : FsOutcome) : Bool × FsReq := x.flagSync (.opendir path) out

/-- `fs_req::closedir`: the directory is taken before the clean-up. -/
def closedir : Issued FsMembers := x.issue (.closedir x.raw.dir) .fsRequest

def closedirSync (out : FsOutcome) : Bool × FsReq := x.flagSync (.closedir x.raw.dir) out

/-- The directory with its `dirents` set to those of the request. -/
def bindDirents (dir : UvDir) : UvDir := { dir with dirents := true, nentries := 1 }

/-- `fs_req::readdir`, which writes through the directory before the clean-up. -/
def readdir : Option (Issued FsMembers) :=
  x.raw.dir.map fun dir => x.issue (.readdir (bindDirents dir)) .fsRequest

/-- `fs_req::readdir_sync`; its flag is `req->result != 0`. -/
def readdirSync (out : FsOutcome) : Option ((Bool × DirentType × String) × FsReq) :=
  x.raw.dir.map fun dir =>
    let x := x.callSync (.readdir (bindDirents dir)) out
    let x := { x with own := { dirents := writeDirents out x.own.dirents } }
    ((decide (x.raw.result ≠ 0), x.own.dirents.type, x.own.dirents.name), x)

end FsReq

/-! ## Calls -/

/-- The asynchronous methods of `file_req`. -/
inductive FileCall
  | close
  | open (path : String) (flags mode : Int)
  | read (offset : Int) (len : UInt32)
  | write (buf : List UInt8) (len : UInt32) (offset : Int)
  | writeRaw (len : UInt32) (offset : Int)
  | stat
  | sync
  | datasync
  | truncate (offset : Int)
  | sendfile (out offset : Int) (length : ℕ)
  | chmod (mode : Int)
  | futime (atime mtime : UInt64)
  | chown (uid gid : ℕ)
deriving DecidableEq, Repr

/-- The asynchronous methods of `fs_req`. -/
inductive FsCall
  | unlink (path : String)
  | mkdir (path : String) (mode : Int)
  | mkdtemp (tpl : String)
  | mkstemp (tpl : String)
  | lutime (path : String) (atime mtime : UInt64)
  | rmdir (path : String)
  | scandir (path : String) (flags : Int)
  | stat (path : String)
  | lstat (path : String)
  | statfs (path : String)
  | rename (old path : String)
  | copyfile (old path : String) (flags : Int)
  | access (path : String) (mode : Int)
  | chmod (path : String) (mode : Int)
  | utime (path : String) (atime mtime : UInt64)
  | link (old path : String)
  | symlink (old path : String) (flags : Int)
  | readlink (path : String)
  | realpath (path : String)
  | chown (path : String) (uid gid : ℕ)
  | lchown (path : String) (uid gid : ℕ)
  | opendir (path : String)
  | closedir
  | readdir
deriving DecidableEq, Repr

def FileCall.issue (x : FileReq) : FileCall → Issued FileMembers
  | .close => x.close
  | .open path flags mode => FileReq.open x path flags mode
  | .read offset len => x.read offset len
  | .write buf len offset => x.write buf len offset
  | .writeRaw len offset => x.writeRaw len offset
  | .stat => x.stat
  | .sync => x.sync
  | .datasync => x.datasync
  | .truncate offset => x.truncate offset
  | .sendfile out offset length => x.sendfile out offset length
  | .chmod mode => x.chmod mode
  | .futime atime mtime => x.futime atime mtime
  | .chown uid gid => x.chown uid gid

/-- `readdir` without a directory reads through a null pointer and has no value. -/
def FsCall.issue (x : FsReq) : FsCall → Option (Issued FsMembers)
  | .unlink path => some (x.unlink path)
  | .mkdir path mode => some (x.mkdir path mode)
  | .mkdtemp tpl => some (x.mkdtemp tpl)
  | .mkstemp tpl => some (x.mkstemp tpl)
  | .lutime path atime mtime => some (x.lutime path atime mtime)
  | .rmdir path => some (x.rmdir path)
  | .scandir path flags => some (x.scandir path flags)
  | .stat path => some (x.stat path)
  | .lstat path => some (x.lstat path)
  | .statfs path => some (x.statfs path)
  | .rename old path => some (x.rename old path)
  | .copyfile old path flags => some (x.copyfile old path flags)
  | .access path mode => some (x.access path mode)
  | .chmod path mode => some (x.chmod path mode)
  | .utime path atime mtime => some (x.utime path atime mtime)
  | .link old path => some (x.link old path)
  | .symlink old path flags => some (x.symlink old path flags)
  | .readlink path => some (x.readlink path)
  | .realpath path => some (x.realpath path)
  | .chown path uid gid => some (x.chown path uid gid)
  | .lchown path uid gid => some (x.lchown path uid gid)
  | .opendir path => some (x.opendir path)
  | .closedir => some x.closedir
  | .readdir => x.readdir

/-- The two classes. -/
inductive FsClass
  | file | fs
deriving DecidableEq, Repr

namespace FsClass

/-- The members of a class. -/
abbrev Members : FsClass → Type
  | file => FileMembers
  | fs => FsMembers

/-- The asynchronous methods of a class. -/
abbrev Call : FsClass → Type
  | file => FileCall
  | fs => FsCall

/-- An object of a class. -/
abbrev Req (c : FsClass) : Type := FsRequest c.Members

/-- A new object; the `dirents` of an `fs_req` are not initialised. -/
def fresh : (c : FsClass) → Dirent → c.Req
  | file, _ => FileReq.fresh
  | fs, dirents => FsReq.fresh dirents

/-- Calling a method. -/
def issue : (c : FsClass) → c.Call → c.Req → Option (Issued c.Members)
  | file, m, x => some (m.issue x)
  | fs, m, x => m.issue x

/-- What a performed operation writes through the pointers libuv was given. -/
def written : (c : FsClass) → UvFsCall → FsOutcome → c.Members → c.Members
  | file, .read .., out, own => { own with current := own.current.map (writeBuffer out) }
  | file, _, _, own => own
  | fs, _, out, own => { dirents := writeDirents out own.dirents }

/-- The request when its callback starts. -/
def done (c : FsClass) (call : UvFsCall) (result : Int) (payload : FsPayload) (x : c.Req) : c.Req :=
  { x with
    raw := x.raw.done call result payload
    own := c.written call (.performed result payload) x.own }

/-- The callback libuv was given. -/
def callback : (c : FsClass) → FsCallback → c.Req → Option (FsPublished × c.Req)
  | file, cb, x => FileReq.callback cb x
  | fs, _, x => FsReq.fsRequestCallback x

/-- Every callback has the common body. -/
lemma callback_eq_answer (c : FsClass) (cb : FsCallback) (x : c.Req) :
    ∃ dirents own attach, c.callback cb x = x.answer dirents own attach := by
  cases c with
  | file =>
    cases cb with
    | fsRequest => exact ⟨FileReq.noDirents, x.own, id, rfl⟩
    | fsOpen => exact ⟨FileReq.noDirents, { x.own with file := uvFile x.raw.result }, id, rfl⟩
    | fsClose => exact ⟨FileReq.noDirents, { x.own with file := badFd }, id, rfl⟩
    | fsRead =>
      exact ⟨FileReq.noDirents, { x.own with current := none },
        fun ev => { ev with read := x.own.current }, rfl⟩
  | fs => exact ⟨x.own.dirents, x.own, id, rfl⟩

end FsClass

namespace Issued

variable {σ : Type} (i : Issued σ)

/-- The request after a refusal. -/
def refuse : FsRequest σ := { i.req with raw := i.req.raw.init i.call }

/-- The request after an acceptance. -/
def accept : FsRequest σ := { i.req with raw := i.req.raw.accept i.call }

end Issued

end Uvw
