import Uvw.Foundation.History
import Uvw.Foundation.TransitionSystem
import Uvw.Fs.Answers
import Uvw.Fs.Sync

/-!
# The descriptor of a file request

A `file_req` keeps the descriptor of the file it has opened in its member `file`.  The synchronous
methods set it in their bodies, the asynchronous ones in their callbacks, before these publish
anything.  `FileRun` is a request with the history of the calls made on it, and `file_follows_descriptor`
compares the member with what that history says: with `descriptor`, the descriptor the latest
successful open has delivered unless a close has succeeded since.
-/

namespace Uvw

open TransitionSystem

/-! ## Calls of libuv -/

/-- The descriptor a call works on. -/
def UvFsCall.file? : UvFsCall → Option Int
  | close file | read file .. | write file .. | fstat file | fsync file | fdatasync file
  | ftruncate file _ | sendfile _ file .. | fchmod file _ | futime file .. | fchown file .. => some file
  | _ => none

/-- The outcomes libuv can produce; the descriptor `uv_fs_open` delivers is an `int`. -/
def UvFsCall.Produces (call : UvFsCall) (out : FsOutcome) : Prop :=
  out.Valid call ∧ (call.fsType = .open → out.code < 2 ^ 31)

/-- A synchronous open or close leaves its outcome in `req->result`. -/
def UvFsCall.Leaves (call : UvFsCall) (out : FsOutcome) : Prop :=
  call.fsType = .open ∨ call.fsType = .close → out.stored = out.code

instance (call : UvFsCall) : DecidablePred call.Produces := fun out =>
  inferInstanceAs (Decidable (out.Valid call ∧ (call.fsType = .open → out.code < 2 ^ 31)))

instance (call : UvFsCall) : DecidablePred call.Leaves := fun out =>
  inferInstanceAs
    (Decidable (call.fsType = .open ∨ call.fsType = .close → out.stored = out.code))

/-- The call of libuv in a synchronous method. -/
def FileCall.syncCall (x : FileReq) : FileCall → UvFsCall
  | close => .close x.own.file
  | «open» path flags mode => .open path flags mode
  | read offset len => .read x.own.file len offset
  | write _ len offset => .write x.own.file len offset
  | writeRaw len offset => .write x.own.file len offset
  | stat => .fstat x.own.file
  | sync => .fsync x.own.file
  | datasync => .fdatasync x.own.file
  | truncate offset => .ftruncate x.own.file offset
  | sendfile out offset length => .sendfile out x.own.file offset length
  | chmod mode => .fchmod x.own.file mode
  | futime atime mtime => .futime x.own.file atime mtime
  | chown uid gid => .fchown x.own.file uid gid

/-- `file_req::operator file_handle`. -/
def FileReq.fileHandle (x : FileReq) : Int := x.own.file

/-! ## Histories -/

/-- What happens on a `file_req`. -/
inductive FileEntry
  | issued (call : UvFsCall)
  | done (call : UvFsCall) (out : FsOutcome)
  /-- An event, with the value of `file` its listener finds. -/
  | published (ev : FsPublished) (file : Int)
deriving DecidableEq, Repr

/-- What becomes of the descriptor: a successful open delivers one, and a successful close leaves
none. -/
def FileEntry.change : FileEntry → Option Int
  | done (.open ..) out => if 0 ≤ out.code then some out.code else none
  | done (.close _) out => if 0 ≤ out.code then some badFd else none
  | _ => none

/-- The descriptor delivered by the latest successful open that no successful close has followed. -/
def descriptor (log : List FileEntry) : Int := (History.latest FileEntry.change log).getD badFd

/-- A call is issued on the descriptor, and a listener finds it in `file`. -/
def FileEntry.OnDescriptor (past : List FileEntry) : FileEntry → Prop
  | issued call => ∀ fd, call.file? = some fd → fd = descriptor past
  | done .. => True
  | published _ file => file = descriptor past

/-- A request with the asynchronous call in flight and its callback, and the history. -/
structure FileRun where
  req : FileReq
  inFlight : Option (UvFsCall × FsCallback)
  log : List FileEntry
deriving DecidableEq, Repr

/-- What happens next: a synchronous method is called; an asynchronous one is, and libuv accepts it or
refuses it with a code; or the callback of the call in flight runs. -/
inductive FileAction
  | sync (m : FileCall) (out : FsOutcome)
  | accepted (m : FileCall)
  | refused (m : FileCall) (code : Int)
  | complete (result : Int) (payload : FsPayload)

namespace FileRun

/-- A new `file_req`. -/
def start : FileRun := { req := .fresh, inFlight := none, log := [] }

/-- One action; the callbacks end with the event they publish, so that the calls of its listener are
the actions that follow. -/
def step (s : FileRun) : FileAction → Option FileRun
  | .sync m out =>
    if s.inFlight = none ∧ (m.syncCall s.req).Produces out ∧ (m.syncCall s.req).Leaves out then
      (m.runSync s.req out).map fun r =>
        { s with
          req := r.req
          log := s.log ++ [.issued (m.syncCall s.req), .done (m.syncCall s.req) out] }
    else none
  | .accepted m =>
    let i := m.issue s.req
    if s.inFlight = none then
      some { req := i.accept, inFlight := some (i.call, i.callback), log := s.log ++ [.issued i.call] }
    else none
  | .refused m code =>
    let i := m.issue s.req
    if s.inFlight = none ∧ i.call.Produces (.refused code) then
      some
        { s with
          req := i.refuse
          log := s.log ++ [.issued i.call, .done i.call (.refused code)] }
    else none
  | .complete result payload =>
    match s.inFlight with
    | none => none
    | some (call, cb) =>
      if call.Produces (.performed result payload) then
        (FileReq.callback cb (FsClass.file.done call result payload s.req)).map fun p =>
          { req := p.2
            inFlight := none
            log := s.log ++
              [.done call (.performed result payload), .published p.1 p.2.fileHandle] }
      else none

/-- `file` follows the opens and closes of the history, and so does everything in it. -/
def Follows (s : FileRun) : Prop :=
  s.req.fileHandle = descriptor s.log ∧ History.EachAfter FileEntry.OnDescriptor s.log

end FileRun

/-! ## Descriptors in a history -/

/-- One entry more changes the descriptor or leaves it. -/
lemma descriptor_append (log : List FileEntry) (e : FileEntry) :
    descriptor (log ++ [e]) = e.change.getD (descriptor log) := History.latest_append_getD badFd

/-- An open that has succeeded delivers the descriptor until another one, or a close, does. -/
lemma descriptor_of_open {past rest : List FileEntry} {path : String} {flags mode : Int}
    {out : FsOutcome} (hpos : 0 ≤ out.code) (hsince : ∀ e ∈ rest, e.change = none) :
    descriptor (past ++ .done (.open path flags mode) out :: rest) = out.code := by
  have hlatest : History.latest FileEntry.change
      (past ++ .done (.open path flags mode) out :: rest) = some out.code :=
    History.latest_eq_some_iff.mpr ⟨past, _, rest, rfl, if_pos hpos, hsince⟩
  rw [descriptor, hlatest, Option.getD_some]

/-- What the descriptor becomes with the outcome of a call. -/
def afterCall (call : UvFsCall) (out : FsOutcome) (file : Int) : Int :=
  (FileEntry.done call out).change.getD file

/-- A call that fails leaves the member alone. -/
lemma afterCall_of_neg (call : UvFsCall) {out : FsOutcome} (h : out.code < 0) (file : Int) :
    afterCall call out file = file := by
  have hnot : ¬ 0 ≤ out.code := Int.not_le.mpr h
  cases call with
  | close => rw [afterCall, FileEntry.change, if_neg hnot, Option.getD_none]
  | «open» => rw [afterCall, FileEntry.change, if_neg hnot, Option.getD_none]
  | _ => rfl

/-- A call whose outcome is known at once. -/
lemma descriptor_append_call (log : List FileEntry) (call : UvFsCall) (out : FsOutcome) :
    descriptor (log ++ [.issued call, .done call out]) = afterCall call out (descriptor log) := by
  rw [List.append_cons, descriptor_append, descriptor_append]
  rfl

/-- A completion and the event it publishes. -/
lemma descriptor_append_completion (log : List FileEntry) (call : UvFsCall) (out : FsOutcome)
    (ev : FsPublished) (file : Int) :
    descriptor (log ++ [.done call out, .published ev file]) =
      afterCall call out (descriptor log) := by
  rw [List.append_cons, descriptor_append, descriptor_append]
  rfl

/-! ## What the methods do to the member -/

/-- The cast of a result that is an `int` keeps it. -/
lemma uvFile_eq {n : Int} (hpos : 0 ≤ n) (hlt : n < 2 ^ 31) : uvFile n = n := by
  have hlow : -(2 ^ 32 / 2 : ℕ) ≤ n := by omega
  have hhigh : n < ((2 ^ 32 + 1) / 2 : ℕ) := by omega
  exact Int.bmod_eq_of_le hlow hhigh

/-- The synchronous methods give libuv the same calls as the asynchronous ones. -/
lemma FileCall.syncCall_eq_issue (x : FileReq) (m : FileCall) : m.syncCall x = (m.issue x).call := by
  cases m <;> rfl

/-- Every call on a descriptor is on the one in `file`. -/
lemma FileCall.issue_call_file {x : FileReq} {m : FileCall} {fd : Int}
    (h : (m.issue x).call.file? = some fd) : fd = x.own.file := by
  cases m <;> first | exact (Option.some.inj h).symm | cases h

/-- Calling libuv does not touch the member. -/
lemma FileCall.issue_file (x : FileReq) (m : FileCall) : (m.issue x).req.own.file = x.own.file := by
  cases m <;> rfl

/-- **The synchronous methods**: `open_sync` and `close_sync` follow the outcome of their call, the
others leave the member alone. -/
lemma FileCall.runSync_file {x : FileReq} {m : FileCall} {out : FsOutcome}
    {r : SyncReturn FileMembers} (hprod : (m.syncCall x).Produces out)
    (hleaves : (m.syncCall x).Leaves out) (h : m.runSync x out = some r) :
    r.req.own.file = afterCall (m.syncCall x) out x.own.file := by
  cases m with
  | writeRaw => cases h
  | close =>
    obtain rfl := Option.some.inj h
    have hresult : (x.callSync (.close x.own.file) out).raw.result = out.code :=
      (FsRequest.callSync_result x _ out).trans (hleaves (Or.inr rfl))
    rcases Int.lt_or_le out.code 0 with hneg | hpos
    · rw [afterCall_of_neg _ hneg]
      simp only [SyncReturn.ofFlag, FileReq.closeSync, hresult, if_neg (Int.not_le.mpr hneg)]
      rfl
    · simp only [SyncReturn.ofFlag, FileReq.closeSync, hresult, if_pos hpos, afterCall, syncCall,
        FileEntry.change, Option.getD_some]
  | «open» path flags mode =>
    obtain rfl := Option.some.inj h
    have hresult : (x.callSync (.open path flags mode) out).raw.result = out.code :=
      (FsRequest.callSync_result x _ out).trans (hleaves (Or.inl rfl))
    rcases Int.lt_or_le out.code 0 with hneg | hpos
    · rw [afterCall_of_neg _ hneg]
      simp only [SyncReturn.ofFlag, FileReq.openSync, hresult, if_neg (Int.not_le.mpr hneg)]
      rfl
    · have hfile : uvFile out.code = out.code := uvFile_eq hpos (hprod.2 rfl)
      simp only [SyncReturn.ofFlag, FileReq.openSync, hresult, if_pos hpos, hfile, afterCall, syncCall,
        FileEntry.change, Option.getD_some]
  | _ =>
    obtain rfl := Option.some.inj h
    rfl

/-- The callback belongs to the call: opens and closes have their own. -/
def FsCallback.Of : UvFsCall → FsCallback → Prop
  | .open .., cb => cb = .fsOpen
  | .close _, cb => cb = .fsClose
  | _, cb => cb = .fsRequest ∨ cb = .fsRead

/-- Every method hands libuv the callback of its operation. -/
lemma FileCall.issue_callback (x : FileReq) (m : FileCall) :
    FsCallback.Of (m.issue x).call (m.issue x).callback := by
  cases m <;> first | exact rfl | exact Or.inl rfl | exact Or.inr rfl

/-- What a callback makes of the member after a success. -/
def FsCallback.member (result file : Int) : FsCallback → Int
  | fsOpen => uvFile result
  | fsClose => badFd
  | fsRequest | fsRead => file

/-- After a success a callback sets the member as its operation says, -/
lemma FileReq.callback_file_of_nonneg {x y : FileReq} {cb : FsCallback} {ev : FsPublished}
    (hpos : 0 ≤ x.raw.result) (h : FileReq.callback cb x = some (ev, y)) :
    y.own.file = cb.member x.raw.result x.own.file := by
  cases cb <;>
  · simp only [callback, fsRequestCallback, fsOpenCallback, fsCloseCallback, fsReadCallback,
      FsRequest.answer_of_nonneg _ _ _ hpos] at h
    obtain ⟨ev', _, heq⟩ := Option.map_eq_some_iff.mp h
    obtain rfl := (Prod.ext_iff.mp heq).2
    rfl

/-- and after a failure it leaves it alone. -/
lemma FileReq.callback_file_of_neg {x y : FileReq} {cb : FsCallback} {ev : FsPublished}
    (hneg : x.raw.result < 0) (h : FileReq.callback cb x = some (ev, y)) :
    y.own.file = x.own.file := by
  obtain ⟨dirents, own, attach, hcb⟩ := FsClass.callback_eq_answer .file cb x
  have heq : some (ev, y) = some (.error x.raw.result, x.reserve) :=
    h.symm.trans (hcb.trans (FsRequest.answer_of_neg dirents own attach hneg))
  obtain rfl := (Prod.ext_iff.mp (Option.some.inj heq)).2
  rfl

/-- **The callbacks** follow the outcome of their call before they publish. -/
lemma FileReq.callback_file {x y : FileReq} {call : UvFsCall} {cb : FsCallback} {out : FsOutcome}
    {ev : FsPublished} (hof : FsCallback.Of call cb) (hprod : call.Produces out)
    (hresult : x.raw.result = out.code) (h : FileReq.callback cb x = some (ev, y)) :
    y.own.file = afterCall call out x.own.file := by
  rcases Int.lt_or_le out.code 0 with hneg | hpos
  · rw [afterCall_of_neg _ hneg]
    exact callback_file_of_neg (hresult ▸ hneg) h
  · have hmember := callback_file_of_nonneg (hresult ▸ hpos) h
    rw [hresult] at hmember
    rw [hmember]
    cases call with
    | «open» =>
      obtain rfl : cb = .fsOpen := hof
      rw [FsCallback.member, uvFile_eq hpos (hprod.2 rfl), afterCall, FileEntry.change, if_pos hpos,
        Option.getD_some]
    | close =>
      obtain rfl : cb = .fsClose := hof
      rw [FsCallback.member, afterCall, FileEntry.change, if_pos hpos, Option.getD_some]
    | _ => rcases hof with rfl | rfl <;> rfl

/-- libuv does not touch the member. -/
lemma FileReq.done_file (x : FileReq) (call : UvFsCall) (result : Int) (payload : FsPayload) :
    (FsClass.file.done call result payload x).own.file = x.own.file := by
  cases call <;> rfl

/-! ## Runs -/

namespace FileRun

/-- The request follows its history, and the callback in flight belongs to its call. -/
structure Inv (s : FileRun) : Prop where
  follows : s.Follows
  callback : ∀ call cb, s.inFlight = some (call, cb) → FsCallback.Of call cb

/-- Nothing has been opened yet. -/
lemma start_inv : start.Inv where
  follows := ⟨rfl, History.eachAfter_nil⟩
  callback _ _ h := by cases h

variable {s s' : FileRun}

/-- A call issued on the descriptor and the outcome that follows at once. -/
lemma Follows.append_call (h : s.Follows) (m : FileCall) (out : FsOutcome) :
    History.EachAfter FileEntry.OnDescriptor
      (s.log ++ [.issued (m.issue s.req).call, .done (m.issue s.req).call out]) :=
  h.2.append_two (fun _ hfd => (FileCall.issue_call_file hfd).trans h.1) trivial

/-- **Step lemma.** -/
lemma step_inv {a : FileAction} (hinv : s.Inv) (hstep : s.step a = some s') : s'.Inv := by
  obtain ⟨hfollows, hcallback⟩ := hinv
  cases a with
  | sync m out =>
    rw [step] at hstep
    split at hstep
    next hguard =>
      obtain ⟨hnone, hprod, hleaves⟩ := hguard
      obtain ⟨r, hr, rfl⟩ := Option.map_eq_some_iff.mp hstep
      refine ⟨⟨?_, ?_⟩, hcallback⟩
      · have hfile : r.req.own.file = afterCall (m.syncCall s.req) out s.req.own.file :=
          FileCall.runSync_file hprod hleaves hr
        show r.req.own.file = _
        rw [descriptor_append_call, hfile, ← hfollows.1]
        rfl
      · rw [FileCall.syncCall_eq_issue]
        exact hfollows.append_call m out
    next => cases hstep
  | accepted m =>
    simp only [step] at hstep
    split at hstep
    next =>
      obtain rfl := Option.some.inj hstep
      refine ⟨⟨?_, ?_⟩, ?_⟩
      · rw [descriptor_append]
        exact (FileCall.issue_file s.req m).trans hfollows.1
      · exact History.eachAfter_append.mpr
          ⟨hfollows.2, fun _ hfd => (FileCall.issue_call_file hfd).trans hfollows.1⟩
      · intro call cb hcall
        obtain ⟨rfl, rfl⟩ := Prod.ext_iff.mp (Option.some.inj hcall)
        exact FileCall.issue_callback s.req m
    next => cases hstep
  | refused m code =>
    simp only [step] at hstep
    split at hstep
    next hguard =>
      obtain rfl := Option.some.inj hstep
      have hneg : (FsOutcome.refused code).code < 0 := hguard.2.1
      refine ⟨⟨?_, hfollows.append_call m (.refused code)⟩, hcallback⟩
      rw [descriptor_append_call, afterCall_of_neg _ hneg]
      exact (FileCall.issue_file s.req m).trans hfollows.1
    next => cases hstep
  | complete result payload =>
    simp only [step] at hstep
    split at hstep
    next => cases hstep
    next call cb hflight =>
      split at hstep
      next hprod =>
        obtain ⟨⟨ev, y⟩, hp, rfl⟩ := Option.map_eq_some_iff.mp hstep
        have hfile : y.own.file = afterCall call (.performed result payload) s.req.own.file := by
          rw [← FileReq.done_file s.req call result payload]
          exact FileReq.callback_file (hcallback call cb hflight) hprod (UvFs.done_result _ _ _ _) hp
        have hmember : s.req.own.file = descriptor s.log := hfollows.1
        rw [hmember] at hfile
        have hlistener : y.fileHandle =
            descriptor (s.log ++ [.done call (.performed result payload)]) := by
          rw [descriptor_append]
          exact hfile
        refine ⟨⟨?_, hfollows.2.append_two trivial hlistener⟩, fun _ _ h => by cases h⟩
        rw [descriptor_append_completion]
        exact hfile
      next => cases hstep

end FileRun

end Uvw
