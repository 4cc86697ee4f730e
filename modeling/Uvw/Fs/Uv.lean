import Uvw.Resource

/-!
# The filesystem calls of libuv

`UvFs` is the part of a `uv_fs_t` that the library or libuv reads and writes, `UvFsCall` a call of a
`uv_fs_*` function with its arguments, and `FsOutcome` what libuv and the operating system make of
it: refused up front, with a negative code and the request only initialised, or performed with a
result and what the operation delivers.  `UvFs.perform` and `UvFs.cleanup` write the documented
effects on the request: which field a delivered value ends up in and what the clean-up clears.
-/

namespace Uvw

/-- `uv_fs_type`, in the names of `fs_request::fs_type`. -/
inductive FsType
  | unknown | custom | open | close | read | write | sendfile | stat | lstat | fstat | ftruncate
  | utime | futime | access | chmod | fchmod | fsync | fdatasync | unlink | rmdir | mkdir | mkdtemp
  | rename | scandir | link | symlink | readlink | chown | fchown | realpath | copyfile | lchown
  | opendir | readdir | closedir | statfs | mkstemp | lutime
deriving DecidableEq, Repr

/-- `uv_dirent_type_t`. -/
inductive DirentType
  | unknown | file | dir | link | fifo | socket | char | block
deriving DecidableEq, Repr

/-- A `uv_dirent_t`. -/
structure Dirent where
  name : String
  type : DirentType
deriving DecidableEq, Repr

/-- A `uv_dir_t`: which stream it is, whether its `dirents` point to those of the request, and
`nentries`. -/
structure UvDir where
  id : ℕ
  dirents : Bool
  nentries : ℕ
deriving DecidableEq, Repr

/-- A `uv_statfs_t`, as the bytes libuv fills in; `uvw` copies it and reads none of its fields. -/
structure FsInfo where
  bytes : List UInt8
deriving DecidableEq, Repr

/-- What `uv_fs_t::ptr` points to. -/
inductive FsPtr
  | null
  /-- The `statbuf` of the request itself. -/
  | statbuf
  | statfs (s : FsInfo)
  | text (s : String)
  | dir (d : UvDir)
  | entries (es : List Dirent)
deriving DecidableEq, Repr

/-- A `uv_fs_t`. -/
structure UvFs where
  fsType : FsType
  result : Int
  path : Option String
  ptr : FsPtr
  statbuf : FileInfo
deriving DecidableEq, Repr

/-- A call of a `uv_fs_*` function, without the loop, the request and the callback.  Times are the
bits of a `double`, which the library passes on unread. -/
inductive UvFsCall
  | close (file : Int)
  | open (path : String) (flags mode : Int)
  | read (file : Int) (len : UInt32) (offset : Int)
  | write (file : Int) (len : UInt32) (offset : Int)
  | fstat (file : Int)
  | fsync (file : Int)
  | fdatasync (file : Int)
  | ftruncate (file offset : Int)
  | sendfile (out file offset : Int) (length : ℕ)
  | fchmod (file mode : Int)
  | futime (file : Int) (atime mtime : UInt64)
  | fchown (file : Int) (uid gid : ℕ)
  | unlink (path : String)
  | mkdir (path : String) (mode : Int)
  | mkdtemp (tpl : String)
  | mkstemp (tpl : String)
  | lutime (path : String) (atime mtime : UInt64)
  | rmdir (path : String)
  | scandir (path : String) (flags : Int)
  | stat (path : String)
  | lstat (path : String)
  | statfs (path : String)
  | rename (old path : String)
  | copyfile (old path : String) (flags : Int)
  | access (path : String) (mode : Int)
  | chmod (path : String) (mode : Int)
  | utime (path : String) (atime mtime : UInt64)
  | link (old path : String)
  | symlink (old path : String) (flags : Int)
  | readlink (path : String)
  | realpath (path : String)
  | chown (path : String) (uid gid : ℕ)
  | lchown (path : String) (uid gid : ℕ)
  | opendir (path : String)
  | closedir (dir : Option UvDir)
  | readdir (dir : UvDir)
deriving DecidableEq, Repr

namespace UvFsCall

/-- The type `uv_fs_*` gives the request. -/
def fsType : UvFsCall → FsType
  | close .. => .close
  | «open» .. => .open
  | read .. => .read
  | write .. => .write
  | fstat .. => .fstat
  | fsync .. => .fsync
  | fdatasync .. => .fdatasync
  | ftruncate .. => .ftruncate
  | sendfile .. => .sendfile
  | fchmod .. => .fchmod
  | futime .. => .futime
  | fchown .. => .fchown
  | unlink .. => .unlink
  | mkdir .. => .mkdir
  | mkdtemp .. => .mkdtemp
  | mkstemp .. => .mkstemp
  | lutime .. => .lutime
  | rmdir .. => .rmdir
  | scandir .. => .scandir
  | stat .. => .stat
  | lstat .. => .lstat
  | statfs .. => .statfs
  | rename .. => .rename
  | copyfile .. => .copyfile
  | access .. => .access
  | chmod .. => .chmod
  | utime .. => .utime
  | link .. => .link
  | symlink .. => .symlink
  | readlink .. => .readlink
  | realpath .. => .realpath
  | chown .. => .chown
  | lchown .. => .lchown
  | opendir .. => .opendir
  | closedir .. => .closedir
  | readdir .. => .readdir

/-- The path `uv_fs_*` stores in the request: the first one for the calls that take two. -/
def path : UvFsCall → Option String
  | «open» path .. | unlink path | mkdir path _ | mkdtemp path | mkstemp path | lutime path ..
  | rmdir path | scandir path _ | stat path | lstat path | statfs path | rename path _
  | copyfile path .. | access path _ | chmod path _ | utime path .. | link path _ | symlink path ..
  | readlink path | realpath path | chown path .. | lchown path .. | opendir path => some path
  | _ => none

/-- What `ptr` holds from the call on: the directory handed to `uv_fs_readdir` or
`uv_fs_closedir`. -/
def ptr : UvFsCall → FsPtr
  | readdir dir | closedir (some dir) => .dir dir
  | _ => .null

end UvFsCall

/-- What a performed operation delivers besides its result. -/
inductive FsPayload
  | none
  | stat (s : FileInfo)
  | statfs (s : FsInfo)
  /-- The content of a link, a resolved pathname or a generated name. -/
  | text (s : String)
  /-- The bytes read. -/
  | data (bytes : List UInt8)
  | dir (d : UvDir)
  | dirent (e : Dirent)
  | entries (es : List Dirent)
deriving DecidableEq, Repr

/-- What becomes of a call. -/
inductive FsOutcome
  /-- Refused at once: libuv returns the negative code and calls nothing back. -/
  | refused (code : Int)
  /-- Performed, now or later, with the result in the request. -/
  | performed (result : Int) (payload : FsPayload)
deriving DecidableEq, Repr

/-- The payload is what a successful call delivers. -/
def FsPayload.fits (call : UvFsCall) (result : Int) (payload : FsPayload) : Bool :=
  match call with
  | .stat _ | .lstat _ | .fstat _ => (payload matches .stat _)
  | .statfs _ => (payload matches .statfs _)
  | .readlink _ | .realpath _ | .mkdtemp _ | .mkstemp _ => (payload matches .text _)
  | .read _ len _ =>
    match payload with
    | .data bytes => decide (result = bytes.length ∧ bytes.length ≤ len.toNat)
    | _ => false
  | .opendir _ => (payload matches .dir _)
  | .readdir _ =>
    match payload with
    | .none => decide (result = 0)
    | .dirent _ => decide (result = 1)
    | _ => false
  | .scandir .. =>
    match payload with
    | .entries es => decide (result = es.length)
    | _ => false
  | _ => (payload matches .none)

/-- The outcomes libuv can produce for a call; it always refuses to close a null directory. -/
def FsOutcome.Valid (call : UvFsCall) : FsOutcome → Prop
  | .refused code => code < 0
  | .performed result payload => call ≠ .closedir none ∧
    (result < 0 ∧ payload = .none ∨ 0 ≤ result ∧ payload.fits call result = true)

instance (call : UvFsCall) : DecidablePred (FsOutcome.Valid call)
  | .refused code => inferInstanceAs (Decidable (code < 0))
  | .performed result payload => inferInstanceAs (Decidable (call ≠ .closedir none ∧
      (result < 0 ∧ payload = .none ∨ 0 ≤ result ∧ payload.fits call result = true)))

/-- What `uv_fs_*` returns: for a synchronous call its result. -/
def FsOutcome.code : FsOutcome → Int
  | .refused code => code
  | .performed result _ => result

namespace UvFs

/-- `uv_fs_req_cleanup`, as far as the fields go. -/
def cleanup (r : UvFs) : UvFs := { r with path := none, ptr := .null }

/-- The initialisation every `uv_fs_*` begins with. -/
def init (call : UvFsCall) (r : UvFs) : UvFs :=
  { r with fsType := call.fsType, result := 0, path := none, ptr := .null }

/-- The request once the call is accepted. -/
def accept (call : UvFsCall) (r : UvFs) : UvFs :=
  { r.init call with path := call.path, ptr := call.ptr }

/-- The operation is done: its result and what it delivers are stored in the request. -/
def done (call : UvFsCall) (result : Int) (payload : FsPayload) (r : UvFs) : UvFs :=
  let r := { r with result }
  match payload with
  | .stat s => { r with statbuf := s, ptr := .statbuf }
  | .statfs s => { r with ptr := .statfs s }
  | .text s =>
    match call with
    -- the generated name replaces the template in the copy of the path; what a failed call leaves of
    -- the template is not modelled
    | .mkdtemp _ | .mkstemp _ => { r with path := some s }
    | _ => { r with ptr := .text s }
  | .dir d => { r with ptr := .dir d }
  | .entries es => { r with ptr := .entries es }
  | .none =>
    match call with
    -- the directory has been freed, unless the operation was cancelled before it began
    | .closedir _ => if result < 0 then r else { r with ptr := .null }
    | _ => r
  | .data _ | .dirent _ => r

/-- A synchronous call. -/
def perform (call : UvFsCall) (out : FsOutcome) (r : UvFs) : UvFs :=
  match out with
  | .refused _ => r.init call
  | .performed result payload => (r.accept call).done call result payload

/-- What an operation stores: its result, and what it delivers. -/
lemma done_eq (call : UvFsCall) (result : Int) (payload : FsPayload) (r : UvFs) :
    ∃ path ptr statbuf, r.done call result payload = { r with result, path, ptr, statbuf } := by
  unfold done
  cases payload with
  | text s => cases call <;> exact ⟨_, _, _, rfl⟩
  | none =>
    cases call with
    | closedir dir =>
      dsimp only
      split <;> exact ⟨_, _, _, rfl⟩
    | _ => exact ⟨_, _, _, rfl⟩
  | _ => exact ⟨_, _, _, rfl⟩

/-- The result is stored as it is, -/
@[simp] lemma done_result (call : UvFsCall) (result : Int) (payload : FsPayload) (r : UvFs) :
    (r.done call result payload).result = result := by
  obtain ⟨path, ptr, statbuf, hdone⟩ := r.done_eq call result payload
  rw [hdone]

/-- and the type of the request is left alone. -/
@[simp] lemma done_fsType (call : UvFsCall) (result : Int) (payload : FsPayload) (r : UvFs) :
    (r.done call result payload).fsType = r.fsType := by
  obtain ⟨path, ptr, statbuf, hdone⟩ := r.done_eq call result payload
  rw [hdone]

/-- `uv_fs_scandir_next`: the code it returns, the request, whose list loses the entries handed out,
and the entry stored through its argument.  A request that holds something other than a listing has
no value. -/
def scandirNext (r : UvFs) (ent : Dirent) : Option (Int × UvFs × Dirent) :=
  if r.result < 0 then some (r.result, r, ent)
  else
    match r.ptr with
    | .null => some (uvEof, r, ent)
    | .entries [] => some (uvEof, { r with ptr := .null }, ent)
    | .entries (e :: es) => some (0, { r with ptr := .entries es }, e)
    | _ => none

/-- After a clean-up there is no listing to hand out: libuv returns the stored error, or `UV_EOF`. -/
lemma scandirNext_cleanup (r : UvFs) (ent : Dirent) :
    r.cleanup.scandirNext ent =
      some (if r.result < 0 then r.result else uvEof, r.cleanup, ent) := by
  have hresult : r.cleanup.result = r.result := rfl
  have hptr : r.cleanup.ptr = .null := rfl
  rw [scandirNext, hresult, hptr]
  by_cases hneg : r.result < 0
  · rw [if_pos hneg, if_pos hneg]
  · rw [if_neg hneg, if_neg hneg]

/-- The directory `static_cast<uv_dir_t *>(req->ptr)` points to. -/
def dir (r : UvFs) : Option UvDir :=
  match r.ptr with
  | .dir d => some d
  | _ => none

end UvFs

end Uvw
