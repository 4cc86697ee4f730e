import Uvw.Fs.Answers
import Uvw.Fs.Sync

/-!
# The payloads of the filesystem calls

Ten operations deliver more than a code.  A program finds what they deliver in two places written
independently: in the value returned by the synchronous method, and in the `fs_event` published after
the asynchronous one.  `SyncReturn.payload` and `FsEvent.payload` read it there, and
`fs_payloads_right_iff` compares it with what libuv has delivered.  Nine operations hand it over as it
is; `realpath` hands over `req->path`, the path that was resolved, in place of what it resolves to.
-/

namespace Uvw

namespace FsPayload

/-- The bytes read into a buffer: as many as were counted. -/
def filled (buf : List UInt8) (count : ℕ) : FsPayload :=
  if count ≤ buf.length then .data (buf.take count) else .none

lemma filled_append {bytes rest : List UInt8} {count : ℕ} (h : count = bytes.length) :
    filled (bytes ++ rest) count = .data bytes := by
  subst h
  rw [filled, if_pos (by simp), List.take_left]

end FsPayload

/-- The payload a synchronous method returns; that of `readdir_sync` is valid if the flag says so. -/
def SyncReturn.payload {σ : Type} (r : SyncReturn σ) : FsPayload :=
  match r.value with
  | .stat s => .stat s
  | .statfs s => .statfs s
  | .path (some path) => .text path
  | .temp path _ => .text path
  | .link (.text content) _ => .text content
  | .data (some buf) count => .filled buf count
  | .entry type name => if r.flag then .dirent { name, type } else .none
  | _ => .none

/-- The payload an `fs_event` carries: for each type, the member meant for it. -/
def FsEvent.payload (ev : FsEvent) : FsPayload :=
  match ev.type with
  | .stat | .lstat | .fstat => (ev.stat.map FsPayload.stat).getD .none
  | .statfs => (ev.statfs.map FsPayload.statfs).getD .none
  | .readlink => (ev.readlink.map FsPayload.text).getD .none
  | .realpath | .mkdtemp | .mkstemp => (ev.path.map FsPayload.text).getD .none
  | .read => (ev.read.map fun buf => FsPayload.filled buf ev.result).getD .none
  | .readdir =>
    match ev.dirent with
    | some (name, type, false) => .dirent { name, type }
    | _ => .none
  | _ => .none

namespace UvFsCall

/-- The operations that deliver a payload. -/
def CarriesPayload : UvFsCall → Prop
  | stat _ | lstat _ | fstat _ | statfs _ | readlink _ | realpath _ | mkdtemp _ | mkstemp _
  | read .. | readdir _ => True
  | _ => False

/-- What both methods hand over: the payload, but for `realpath` the path in the request. -/
def handed : UvFsCall → FsPayload → FsPayload
  | realpath path, _ => .text path
  | _, payload => payload

lemma handed_eq_iff {call : UvFsCall} {payload : FsPayload} :
    call.handed payload = payload ↔ ∀ path, call = .realpath path → payload = .text path := by
  cases call with
  | realpath path =>
    constructor
    · intro hpayload path' hcall
      cases hcall
      exact hpayload.symm
    · intro hpayload
      exact (hpayload path rfl).symm
  | _ => exact ⟨fun _ _ hcall => (by cases hcall), fun _ => rfl⟩

end UvFsCall

variable {call : UvFsCall} {result : Int} {payload : FsPayload}

/-- A count of bytes read survives the conversion to `std::size_t`. -/
lemma sizeT_of_read {len : UInt32} {bytes : List UInt8} (hcount : result = bytes.length)
    (hlen : bytes.length ≤ len.toNat) : sizeT result = bytes.length := by
  have hlt : len.toNat < 2 ^ 32 := len.toNat_lt
  unfold sizeT
  omega

/-- The event of an operation other than `read` carries what is handed over. -/
lemma fsEvent_payload (hcarries : call.CarriesPayload) (hread : call.fsType ≠ .read)
    (hfits : payload.fits call result = true)
    (hdir : ∀ dir, call = .readdir dir → dir.dirents = true) {dirents : Dirent}
    (hentry : ∀ e, payload = .dirent e → dirents = e) (r : UvFs) :
    ∃ ev, fsEvent dirents ((r.accept call).done call result payload) = some ev ∧
      ev.payload = call.handed payload := by
  cases call with
  | readdir dir =>
    have hset : dir.dirents = true := hdir dir rfl
    cases payload with
    | none =>
      obtain rfl : result = 0 := of_decide_eq_true hfits
      refine ⟨_, if_pos hset, rfl⟩
    | dirent e =>
      obtain rfl : result = 1 := of_decide_eq_true hfits
      obtain rfl : dirents = e := hentry e rfl
      refine ⟨_, if_pos hset, rfl⟩
    | _ => cases hfits
  | read => exact absurd rfl hread
  | stat | lstat | fstat | statfs | readlink | realpath | mkdtemp | mkstemp =>
    cases payload <;> first | exact ⟨_, rfl, rfl⟩ | cases hfits
  | _ => exact hcarries.elim

namespace FsClass

/-- Both methods come back with the payload libuv has delivered. -/
def PayloadsRight (c : FsClass) (m : c.Call) (x : c.Req) (result : Int) (payload : FsPayload) :
    Prop :=
  ∃ r ev x', c.sync m (.performed result payload) x = some r ∧
    c.answer x m (.performed result payload) = some ([.fs ev], x') ∧
    r.payload = payload ∧ ev.payload = payload

variable {c : FsClass} {m : c.Call} {x : c.Req} {i : Issued c.Members}

/-- **The synchronous methods**: after a success they return what is handed over. -/
lemma sync_payload (hissue : c.issue m x = some i) (hcarries : i.call.CarriesPayload)
    (hresult : 0 ≤ result) (hfits : payload.fits i.call result = true) :
    ∃ r, c.sync m (.performed result payload) x = some r ∧ r.payload = i.call.handed payload := by
  have hnot : ¬ result < 0 := Int.not_lt.mpr hresult
  cases c with
  | file =>
    obtain rfl := Option.some.inj hissue
    cases m with
    | stat =>
      cases payload with
      | stat s => exact ⟨_, rfl, rfl⟩
      | _ => cases hfits
    | read offset len =>
      cases payload with
      | data bytes =>
        obtain ⟨hcount, hlen⟩ := of_decide_eq_true hfits
        refine ⟨_, rfl, ?_⟩
        show FsPayload.filled (bytes ++ _) (if result < 0 then 0 else sizeT result) = _
        rw [if_neg hnot]
        exact FsPayload.filled_append (sizeT_of_read hcount hlen)
      | _ => cases hfits
    | _ => exact hcarries.elim
  | fs =>
    cases m with
    | readdir =>
      obtain ⟨dir, hdir, rfl⟩ := Option.map_eq_some_iff.mp hissue
      simp only [sync, FsCall.runSync, FsReq.readdirSync, hdir, Option.map_some]
      -- the end of the stream, or one entry
      cases payload with
      | none =>
        obtain rfl : result = 0 := of_decide_eq_true hfits
        exact ⟨_, rfl, rfl⟩
      | dirent e =>
        obtain rfl : result = 1 := of_decide_eq_true hfits
        exact ⟨_, rfl, rfl⟩
      | _ => cases hfits
    | mkstemp tpl =>
      obtain rfl := Option.some.inj hissue
      cases payload with
      | text name =>
        simp only [sync, FsCall.runSync, FsReq.mkstempSync, FsRequest.callSync_success,
          FsOutcome.stored, hnot, decide_false, Bool.not_false, if_true]
        exact ⟨_, rfl, rfl⟩
      | _ => cases hfits
    | stat | lstat | statfs | readlink | realpath | mkdtemp =>
      obtain rfl := Option.some.inj hissue
      cases payload <;> first | exact ⟨_, rfl, rfl⟩ | cases hfits
    | _ =>
      obtain rfl := Option.some.inj hissue
      exact hcarries.elim

/-- `fs_req` reads no file. -/
lemma issue_fsType_ne_read {m : fs.Call} {x : fs.Req} {i : Issued fs.Members}
    (hissue : fs.issue m x = some i) : i.call.fsType ≠ .read := by
  cases m with
  | readdir =>
    obtain ⟨dir, _, rfl⟩ := Option.map_eq_some_iff.mp hissue
    exact FsType.noConfusion
  | _ =>
    obtain rfl := Option.some.inj hissue
    exact FsType.noConfusion

/-- **The callbacks**: after a success the event carries what is handed over. -/
lemma answer_payload (hissue : c.issue m x = some i) (hcarries : i.call.CarriesPayload)
    (hresult : 0 ≤ result) (hfits : payload.fits i.call result = true) :
    ∃ ev x', c.answer x m (.performed result payload) = some ([.fs ev], x') ∧
      ev.payload = i.call.handed payload := by
  have hdone : 0 ≤ (c.done i.call result payload i.accept).raw.result := by
    show 0 ≤ (UvFs.done i.call result payload _).result
    rwa [UvFs.done_result]
  rw [answer, hissue, Option.bind_some]
  dsimp only
  cases c with
  | file =>
    cases m with
    | read offset len =>
      obtain rfl := Option.some.inj hissue
      cases payload with
      | data bytes =>
        obtain ⟨hcount, hlen⟩ := of_decide_eq_true hfits
        refine ⟨_, _, congrArg _ (FsRequest.answer_of_event _ _ _ hdone rfl), ?_⟩
        exact FsPayload.filled_append (sizeT_of_read hcount hlen)
      | _ => cases hfits
    | stat =>
      obtain rfl := Option.some.inj hissue
      have hentry : ∀ e, payload = .dirent e → FileReq.noDirents = e := by
        rintro e rfl
        cases hfits
      obtain ⟨ev, hev, hpayload⟩ := fsEvent_payload hcarries FsType.noConfusion hfits
        (fun dir hcall => by cases hcall) hentry x.raw.cleanup
      exact ⟨ev, _, congrArg _ (FsRequest.answer_of_event _ _ id hdone hev), hpayload⟩
    | _ =>
      obtain rfl := Option.some.inj hissue
      exact hcarries.elim
  | fs =>
    -- libuv has written the entry through the `dirents` of the request
    have hentry : ∀ e, payload = .dirent e →
        writeDirents (.performed result payload) i.req.own.dirents = e := by
      rintro e rfl
      rfl
    obtain ⟨ev, hev, hpayload⟩ := fsEvent_payload hcarries (issue_fsType_ne_read hissue) hfits
      (fun dir => issue_readdir_dirents hissue) hentry i.req.raw
    exact ⟨ev, _, congrArg _ (FsRequest.answer_of_event _ _ id hdone hev), hpayload⟩

end FsClass

/-- **Which payloads are right**: after a success the synchronous method and the event of the
asynchronous one come back with the payload libuv has delivered, except for `realpath` of a path that
does not resolve to itself. -/
theorem fs_payloads_right_iff {c : FsClass} {m : c.Call} {x : c.Req} {i : Issued c.Members}
    (hissue : c.issue m x = some i) (hcarries : i.call.CarriesPayload) (hresult : 0 ≤ result)
    (hvalid : (FsOutcome.performed result payload).Valid i.call) :
    c.PayloadsRight m x result payload ↔ ∀ path, i.call = .realpath path → payload = .text path := by
  have hfits : payload.fits i.call result = true := by
    rcases hvalid.2 with ⟨hneg, _⟩ | ⟨_, hfits⟩
    · omega
    · exact hfits
  obtain ⟨r, hr, hsync⟩ := FsClass.sync_payload hissue hcarries hresult hfits
  obtain ⟨ev, x', hev, hasync⟩ := FsClass.answer_payload hissue hcarries hresult hfits
  have hright : c.PayloadsRight m x result payload ↔ i.call.handed payload = payload := by
    constructor
    · rintro ⟨r', ev', x'', hr', -, hpayload, -⟩
      obtain rfl := Option.some.inj (hr.symm.trans hr')
      exact hsync.symm.trans hpayload
    · intro hhanded
      exact ⟨r, ev, x', hr, hev, hsync.trans hhanded, hasync.trans hhanded⟩
  rw [hright, UvFsCall.handed_eq_iff]

/-- `realpath` of an absolute path that is its own resolution. -/
theorem fs_payloads_right_realpath_root :
    FsClass.fs.PayloadsRight (.realpath "/") (FsReq.fresh FileReq.noDirents) 0 (.text "/") := by
  have hissue : FsClass.fs.issue (.realpath "/") (FsReq.fresh FileReq.noDirents) =
      some (FsReq.realpath _ "/") := rfl
  refine (fs_payloads_right_iff hissue trivial (by decide) (by decide)).mpr ?_
  intro path hcall
  cases hcall
  rfl

/-- `realpath` of a symbolic link: both methods come back with the name of the link. -/
theorem fs_realpath_payload_wrong :
    ¬ FsClass.fs.PayloadsRight (.realpath "link") (FsReq.fresh FileReq.noDirents) 0
      (.text "/target") := by
  rintro ⟨r, ev, x', hr, _, hpayload, _⟩
  obtain rfl := Option.some.inj hr
  exact absurd hpayload (by decide)

end Uvw
