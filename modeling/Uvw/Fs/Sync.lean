import Uvw.Fs.Request

/-!
# The flags of the synchronous filesystem methods

Every synchronous method of `file_req` and `fs_req` returns a flag, alone or as the first member of a
pair.  None of them looks at the code `uv_fs_*` returns: the flag is computed from `req->result`, which
a performed call sets to that code and a refused one leaves at `0`.

### Outline

* `SyncReturn`, what the methods return, and `FsClass.sync`, the synchronous methods as calls;
* `FsClass.sync_flag`, the flag in terms of what the call leaves in `req->result`;
* `fs_sync_flags`, the flag in terms of the code, for the calls libuv performs.
-/

namespace Uvw

/-- What a synchronous method returns besides its flag. -/
inductive SyncValue
  | none
  | size (n : ℕ)
  | stat (s : FileInfo)
  | statfs (s : FsInfo)
  | path (path : Option String)
  | temp (path : String) (file : ℕ)
  | link (content : FsPtr) (size : ℕ)
  | data (buf : Option (List UInt8)) (size : ℕ)
  | entry (type : DirentType) (name : String)
deriving DecidableEq, Repr

/-- A synchronous method when it returns. -/
structure SyncReturn (σ : Type) where
  flag : Bool
  value : SyncValue
  req : FsRequest σ
deriving DecidableEq, Repr

namespace SyncReturn

variable {σ α : Type}

/-- The methods that return a flag only. -/
def ofFlag (r : Bool × FsRequest σ) : SyncReturn σ := { flag := r.1, value := .none, req := r.2 }

/-- The methods that return a pair. -/
def ofPair (value : α → SyncValue) (r : (Bool × α) × FsRequest σ) : SyncReturn σ :=
  { flag := r.1.1, value := value r.1.2, req := r.2 }

end SyncReturn

/-- The synchronous methods of `file_req`; there is none for a `write` from a plain pointer. -/
def FileCall.runSync (x : FileReq) (out : FsOutcome) : FileCall → Option (SyncReturn FileMembers)
  | .close => some (.ofFlag (x.closeSync out))
  | .open path flags mode => some (.ofFlag (x.openSync path flags mode out))
  | .read offset len => some (.ofPair (fun v => .data v.1 v.2) (x.readSync offset len out))
  | .write buf len offset => some (.ofPair .size (x.writeSync buf len offset out))
  | .writeRaw .. => none
  | .stat => some (.ofPair .stat (x.statSync out))
  | .sync => some (.ofFlag (x.syncSync out))
  | .datasync => some (.ofFlag (x.datasyncSync out))
  | .truncate offset => some (.ofFlag (x.truncateSync offset out))
  | .sendfile dst offset length => some (.ofPair .size (x.sendfileSync dst offset length out))
  | .chmod mode => some (.ofFlag (x.chmodSync mode out))
  | .futime atime mtime => some (.ofFlag (x.futimeSync atime mtime out))
  | .chown uid gid => some (.ofFlag (x.chownSync uid gid out))

/-- The synchronous methods of `fs_req`; one that reads through a null pointer has no value. -/
def FsCall.runSync (x : FsReq) (out : FsOutcome) : FsCall → Option (SyncReturn FsMembers)
  | .unlink path => some (.ofFlag (x.unlinkSync path out))
  | .mkdir path mode => some (.ofFlag (x.mkdirSync path mode out))
  | .mkdtemp tpl => some (.ofPair .path (x.mkdtempSync tpl out))
  | .mkstemp tpl => (x.mkstempSync tpl out).map (.ofPair fun v => .temp v.1 v.2)
  | .lutime path atime mtime => some (.ofFlag (x.lutimeSync path atime mtime out))
  | .rmdir path => some (.ofFlag (x.rmdirSync path out))
  | .scandir path flags => some (.ofPair .size (x.scandirSync path flags out))
  | .stat path => some (.ofPair .stat (x.statSync path out))
  | .lstat path => some (.ofPair .stat (x.lstatSync path out))
  | .statfs path => (x.statfsSync path out).map (.ofPair .statfs)
  | .rename old path => some (.ofFlag (x.renameSync old path out))
  | .copyfile old path flags => some (.ofFlag (x.copyfileSync old path flags out))
  | .access path mode => some (.ofFlag (x.accessSync path mode out))
  | .chmod path mode => some (.ofFlag (x.chmodSync path mode out))
  | .utime path atime mtime => some (.ofFlag (x.utimeSync path atime mtime out))
  | .link old path => some (.ofFlag (x.linkSync old path out))
  | .symlink old path flags => some (.ofFlag (x.symlinkSync old path flags out))
  | .readlink path => some (.ofPair (fun v => .link v.1 v.2) (x.readlinkSync path out))
  | .realpath path => some (.ofPair .path (x.realpathSync path out))
  | .chown path uid gid => some (.ofFlag (x.chownSync path uid gid out))
  | .lchown path uid gid => some (.ofFlag (x.lchownSync path uid gid out))
  | .opendir path => some (.ofFlag (x.opendirSync path out))
  | .closedir => some (.ofFlag (x.closedirSync out))
  | .readdir => (x.readdirSync out).map (.ofPair fun v => .entry v.1 v.2)

namespace FsClass

/-- The synchronous counterpart of a method. -/
def sync : (c : FsClass) → c.Call → FsOutcome → c.Req → Option (SyncReturn c.Members)
  | file, m, out, x => m.runSync x out
  | fs, m, out, x => m.runSync x out

/-- The flag in terms of `req->result`. -/
def flag : (c : FsClass) → c.Call → Int → Bool
  | fs, .readdir, result => decide (result ≠ 0)
  | _, _, result => !decide (result < 0)

end FsClass

/-- What a call leaves in `req->result`: one that is refused does not get beyond the
initialisation. -/
def FsOutcome.stored : FsOutcome → Int
  | .refused _ => 0
  | .performed result _ => result

@[simp] lemma UvFs.perform_result (call : UvFsCall) (out : FsOutcome) (r : UvFs) :
    (r.perform call out).result = out.stored := by
  cases out with
  | refused code => rfl
  | performed result payload => exact UvFs.done_result call result payload _

@[simp] lemma FsRequest.callSync_result {σ : Type} (x : FsRequest σ) (call : UvFsCall)
    (out : FsOutcome) : (x.callSync call out).raw.result = out.stored :=
  UvFs.perform_result call out _

@[simp] lemma FsRequest.callSync_success {σ : Type} (x : FsRequest σ) (call : UvFsCall)
    (out : FsOutcome) : (x.callSync call out).success = !decide (out.stored < 0) := by
  rw [FsRequest.success, FsRequest.callSync_result]

/-- The updates of `file` leave the flag of `close_sync` alone. -/
lemma FileReq.closeSync_flag (x : FileReq) (out : FsOutcome) :
    (x.closeSync out).1 = !decide (out.stored < 0) := by
  unfold FileReq.closeSync
  dsimp only
  split
  · exact FsRequest.callSync_success x _ out
  · exact FsRequest.callSync_success x _ out

/-- `open_sync` tells by its flag whether the stored result is an error. -/
lemma FileReq.openSync_flag (x : FileReq) (path : String) (flags mode : Int) (out : FsOutcome) :
    (x.openSync path flags mode out).1 = !decide (out.stored < 0) := by
  unfold FileReq.openSync
  dsimp only
  split
  · exact FsRequest.callSync_success x _ out
  · exact FsRequest.callSync_success x _ out

namespace FsClass

variable {c : FsClass} {m : c.Call} {x : c.Req} {out : FsOutcome} {r : SyncReturn c.Members}

/-- **The flag of every synchronous method**: `req->result` decides it, whatever came before.  So a
refused call, which leaves the result at `0`, is taken for a success by all of them but `readdir_sync`,
which takes it for the end of the stream. -/
lemma sync_flag (h : c.sync m out x = some r) : r.flag = c.flag m out.stored := by
  cases c with
  | file =>
    cases m with
    | writeRaw => cases h
    | close =>
      obtain rfl := Option.some.inj h
      exact FileReq.closeSync_flag x out
    | «open» path flags mode =>
      obtain rfl := Option.some.inj h
      exact FileReq.openSync_flag x path flags mode out
    | _ =>
      obtain rfl := Option.some.inj h
      exact FsRequest.callSync_success _ _ _
  | fs =>
    cases m with
    | mkstemp tpl =>
      obtain ⟨p, hp, rfl⟩ := Option.map_eq_some_iff.mp h
      simp only [FsReq.mkstempSync, FsRequest.callSync_success] at hp
      split at hp
      next hflag =>
        obtain ⟨path, _, rfl⟩ := Option.map_eq_some_iff.mp hp
        exact hflag.symm
      next hflag =>
        obtain rfl := Option.some.inj hp
        exact (Bool.eq_false_iff.mpr hflag).symm
    | statfs path =>
      obtain ⟨p, hp, rfl⟩ := Option.map_eq_some_iff.mp h
      simp only [FsReq.statfsSync] at hp
      split at hp
      · obtain rfl := Option.some.inj hp
        exact FsRequest.callSync_success _ _ _
      · cases hp
    | readdir =>
      obtain ⟨p, hp, rfl⟩ := Option.map_eq_some_iff.mp h
      obtain ⟨dir, _, rfl⟩ := Option.map_eq_some_iff.mp hp
      show decide ((x.callSync _ out).raw.result ≠ 0) = _
      rw [FsRequest.callSync_result]
      rfl
    | _ =>
      obtain rfl := Option.some.inj h
      exact FsRequest.callSync_success _ _ _

/-- The methods that return whatever the code, and `statfs_sync` after a success: it reads through
`req->ptr`, which a failure leaves null. -/
def Returns : (c : FsClass) → c.Call → Int → Prop
  | file, .writeRaw .., _ => False
  | fs, .statfs _, code => 0 ≤ code
  | _, _, _ => True

/-- What the flag says of the code: that it is a success, and for `readdir_sync`, after a success, that
an entry was read. -/
def FlagTells : (c : FsClass) → c.Call → Int → Bool → Prop
  | fs, .readdir, code, flag => 0 ≤ code → (flag = true ↔ code ≠ 0)
  | _, _, code, flag => flag = true ↔ 0 ≤ code

/-- The flag of every method says of the code what it is to say. -/
lemma flagTells_flag (m : c.Call) (code : Int) : c.FlagTells m code (c.flag m code) := by
  have hflag : (!decide (code < 0)) = true ↔ 0 ≤ code := by simp
  cases c with
  | file => exact hflag
  | fs =>
    cases m with
    | readdir => exact fun _ => decide_eq_true_iff
    | _ => exact hflag

/-- **Synchronous methods return**: after a performed call `mkstemp_sync` finds a path, `statfs_sync`
a record and `readdir_sync`, whose call was made, a directory. -/
lemma sync_isSome {i : Issued c.Members} {result : Int} {payload : FsPayload}
    (hissue : c.issue m x = some i)
    (hvalid : (FsOutcome.performed result payload).Valid i.call) (hret : c.Returns m result) :
    (c.sync m (.performed result payload) x).isSome = true := by
  cases c with
  | file =>
    cases m with
    | writeRaw => exact hret.elim
    | _ => rfl
  | fs =>
    cases m with
    | mkstemp tpl =>
      -- the request holds the template, or the name generated from it
      have hpath : (x.callSync (.mkstemp tpl) (.performed result payload)).raw.path.isSome = true := by
        cases payload <;> rfl
      simp only [sync, FsCall.runSync, FsReq.mkstempSync, Option.isSome_map]
      split
      · rw [Option.isSome_map, hpath]
      · rfl
    | statfs path =>
      obtain rfl := Option.some.inj hissue
      rcases hvalid.2 with ⟨hneg, _⟩ | ⟨_, hfits⟩
      · exact absurd hret (Int.not_le.mpr hneg)
      · cases payload with
        | statfs s => rfl
        | _ => cases hfits
    | readdir =>
      obtain ⟨dir, hdir, rfl⟩ := Option.map_eq_some_iff.mp hissue
      simp [sync, FsCall.runSync, FsReq.readdirSync, hdir]
    | _ => rfl

end FsClass

end Uvw
