import Uvw.Foundation.Ledger
import Uvw.Foundation.TransitionSystem
import Uvw.Fs.Answers
import Uvw.Fs.Sync

/-!
# The life of a directory stream

The `uv_dir_t` returned by `opendir` lives nowhere but in `req->ptr`, which the clean-up at the start of
every method clears and, depending on the type of the request, frees.  `DirStream` follows one
`fs_req` with two ledgers, one of the `uv_dir_t`s and one of the entry names libuv allocates, and with
what the clean-ups free.  Between `opendir` and `closedir` the program calls `readdir` and
`readdir_sync` only, and it does not cancel the closing; with no stream open it may call anything else.

`directory_streams_kept` says that in every state every call was given the stream that was open, that
no clean-up has freed a stream, and that each is freed exactly once, by its `closedir`.

### Outline

* what `uv_fs_req_cleanup` frees;
* `DirStream` and its actions;
* the invariant `DirStream.Inv` and its step lemma.
-/

namespace Uvw

open TransitionSystem

/-! ## What a clean-up frees -/

namespace UvFs

/-- The `uv_dir_t` freed by `uv_fs_req_cleanup`: the one in `ptr`, unless the type of the request says
that it is still in use. -/
def freedDir (r : UvFs) : Option ℕ :=
  match r.fsType with
  | .opendir | .readdir => none
  | _ => r.dir.map UvDir.id

/-- The entry name freed by `uv_fs_req_cleanup`: that of the last batch read by `readdir`, `name` being
where `dirents.name` points to. -/
def freedName (r : UvFs) (name : Option ℕ) : Option ℕ :=
  match r.fsType, r.dir with
  | .readdir, some d => if d.dirents = true ∧ 0 < r.result then name else none
  | _, _ => none

lemma freedName_of_fsType {r : UvFs} (h : r.fsType ≠ .readdir) (name : Option ℕ) :
    r.freedName name = none := by
  unfold freedName
  split
  · rename_i htype _
    exact absurd htype h
  · rfl

lemma freedDir_of_fsType {r : UvFs} (h : r.fsType = .opendir ∨ r.fsType = .readdir) :
    r.freedDir = none := by
  unfold freedDir
  rcases h with h | h <;> rw [h]

lemma freedDir_of_dir {r : UvFs} (h : r.dir = none) : r.freedDir = none := by
  unfold freedDir
  split
  · rfl
  · rfl
  · rw [h, Option.map_none]

end UvFs

/-- The `uv_dir_t` a call is given. -/
def UvFsCall.stream : UvFsCall → Option ℕ
  | .readdir dir => some dir.id
  | .closedir dir => dir.map UvDir.id
  | _ => none

/-- The stream in the request after a call, `stream` being the one open before. -/
def FsOutcome.streamAfter (call : UvFsCall) (out : FsOutcome) (stream : Option ℕ) : Option ℕ :=
  match call, out with
  | .opendir _, .performed _ (.dir d) => some d.id
  | .closedir _, .performed result _ => if 0 ≤ result then none else stream
  | _, _ => stream

/-! ## A request and what libuv allocates for it -/

/-- An `fs_req` and the memory libuv has allocated for its directory streams. -/
structure DirStream where
  req : FsReq
  /-- The object has not been destroyed. -/
  alive : Bool
  inFlight : Option (Issued FsMembers)
  /-- The `uv_dir_t`s. -/
  dirs : Ledger
  /-- The entry names. -/
  names : Ledger
  /-- Where `dirents.name` points to. -/
  name : Option ℕ
  /-- The stream that was opened and not closed. -/
  stream : Option ℕ
  /-- For every `readdir` and `closedir`, the `uv_dir_t` libuv was given and the stream open then. -/
  given : List (Option ℕ × Option ℕ)
  /-- The `uv_dir_t`s freed by a clean-up. -/
  cleaned : List ℕ

/-- What a program and libuv can do with an `fs_req`. -/
inductive DirAction
  /-- A synchronous method. -/
  | sync (m : FsCall) (out : FsOutcome)
  /-- An asynchronous method, which libuv accepts when `code` is `0`. -/
  | async (m : FsCall) (code : Int)
  /-- libuv completes the operation and calls back. -/
  | complete (result : Int) (payload : FsPayload)
  /-- `fs_req::~fs_req`. -/
  | destroy

namespace DirStream

/-- A new request; its `dirents` are not initialised. -/
def create (dirents : Dirent) : DirStream where
  req := FsReq.fresh dirents
  alive := true
  inFlight := none
  dirs := .empty
  names := .empty
  name := none
  stream := none
  given := []
  cleaned := []

variable (s : DirStream)

/-- The effect of `uv_fs_req_cleanup` on the memory. -/
def cleanup : DirStream :=
  let dir := s.req.raw.freedDir
  let name := s.req.raw.freedName s.name
  { s with
    dirs := s.dirs.releaseAny dir
    cleaned := s.cleaned ++ dir.toList
    names := s.names.releaseAny name
    name := if name.isSome then none else s.name }

/-- libuv is given a directory. -/
def give (call : UvFsCall) : DirStream :=
  match call with
  | .readdir _ | .closedir _ => { s with given := s.given ++ [(call.stream, s.stream)] }
  | _ => s

/-- The effect of a call on the memory: `opendir` allocates a `uv_dir_t`, `readdir` a name, and
`closedir` frees the `uv_dir_t`. -/
def perform (call : UvFsCall) (out : FsOutcome) : DirStream :=
  let s := { s with stream := out.streamAfter call s.stream }
  match call, out with
  | .opendir _, .performed _ (.dir _) => { s with dirs := s.dirs.issue }
  | .readdir _, .performed _ (.dirent _) =>
    { s with names := s.names.issue, name := some s.names.issued }
  | .closedir (some d), .performed result _ =>
    if 0 ≤ result then { s with dirs := s.dirs.release d.id } else s
  | _, _ => s

/-- The methods a program calls: those on the stream while one is open, the others otherwise. -/
def Allowed (stream : Option ℕ) : FsCall → Prop
  | .readdir | .closedir => stream ≠ none
  | _ => stream = none

instance (stream : Option ℕ) : DecidablePred (Allowed stream) := fun m => by
  cases m <;> (unfold Allowed; infer_instance)

/-- What libuv can make of a call: it refuses nothing on an open directory and closes it whenever it gets
to it, as nobody cancels the closing, and what it allocates is new. -/
def Possible (call : UvFsCall) (out : FsOutcome) : Prop :=
  out.Valid call ∧
    match call, out with
    | .readdir _, .refused _ => False
    | .closedir (some _), .refused _ => False
    | .closedir (some _), .performed result _ => 0 ≤ result
    | .opendir _, .performed _ (.dir d) => d.id = s.dirs.issued
    | _, _ => True

instance (call : UvFsCall) (out : FsOutcome) : Decidable (s.Possible call out) := by
  unfold Possible
  refine @instDecidableAnd _ _ inferInstance ?_
  split <;> infer_instance

/-- The request is neither destroyed nor busy. -/
def Idle : Prop := s.alive = true ∧ s.inFlight = none

instance : Decidable s.Idle := by unfold Idle; infer_instance

/-- One action. -/
def step : DirAction → Option DirStream
  | .sync m out =>
    if s.Idle ∧ Allowed s.stream m then
      (FsClass.fs.issue m s.req).bind fun i =>
        if s.Possible i.call out then
          (FsClass.fs.sync m out s.req).map fun r =>
            { (s.cleanup.give i.call).perform i.call out with req := r.req }
        else none
    else none
  | .async m code =>
    if s.Idle ∧ Allowed s.stream m then
      (FsClass.fs.issue m s.req).bind fun i =>
        if code = 0 then some { s.cleanup.give i.call with req := i.accept, inFlight := some i }
        else if s.Possible i.call (.refused code) then
          some { (s.cleanup.give i.call).perform i.call (.refused code) with req := i.refuse }
        else none
    else none
  | .complete result payload =>
    s.inFlight.bind fun i =>
      if s.Possible i.call (.performed result payload) then
        (FsClass.fs.callback i.callback (FsClass.fs.done i.call result payload s.req)).map fun p =>
          { s.perform i.call (.performed result payload) with req := p.2, inFlight := none }
      else none
  | .destroy =>
    if s.Idle ∧ s.stream = none then some { s.cleanup with req := s.req.cleanup, alive := false }
    else none

/-- What is expected of the streams and of the names of their entries. -/
structure Sound : Prop where
  /-- Every `readdir` and `closedir` is given the stream that is open. -/
  given : ∀ p ∈ s.given, p.1 = p.2 ∧ p.2 ≠ none
  /-- An open stream is not freed. -/
  in_use : ∀ d, s.stream = some d → s.dirs.Outstanding d
  /-- No clean-up frees a stream. -/
  cleaned : s.cleaned = []
  /-- A stream that has been closed was freed exactly once. -/
  freed_once : ∀ d < s.dirs.issued, s.stream ≠ some d → s.dirs.released.count d = 1
  /-- No name is freed twice. -/
  names : ∀ n, s.names.released.count n ≤ 1

/-! ## The invariant -/

/-- What always holds of the memory. -/
structure Kept : Prop where
  dirs : s.dirs.Sound
  names : s.names.Sound
  given : ∀ p ∈ s.given, p.1 = p.2 ∧ p.2 ≠ none
  cleaned : s.cleaned = []
  /-- The open stream is the only one that was not freed. -/
  outstanding : ∀ d, s.dirs.Outstanding d ↔ s.stream = some d

/-- What holds of the `uv_fs_t` between two operations: it holds the open stream, under a type that
keeps the clean-up away from it, and a name the clean-up would free was not freed before. -/
structure Rests (r : UvFs) : Prop where
  dir : r.dir.map UvDir.id = s.stream
  type : s.stream ≠ none → r.fsType = .opendir ∨ r.fsType = .readdir
  name : ∀ n, r.freedName s.name = some n → s.names.Outstanding n

/-- The invariant. -/
structure Inv : Prop extends s.Kept where
  idle : s.inFlight = none → s.Rests s.req.raw
  flying : ∀ i, s.inFlight = some i → i.call.stream = s.stream ∧ s.req = i.accept

variable {s} {call : UvFsCall} {out : FsOutcome} {r : UvFs}

/-! ### What a call does to the `uv_fs_t` -/

lemma perform_fsType : (r.perform call out).fsType = call.fsType := by
  cases out with
  | refused code => rfl
  | performed result payload => exact UvFs.done_fsType call result payload _

/-- A refusal leaves no stream: libuv refuses nothing on an open directory. -/
lemma stream_of_refused {code : Int} (h : s.Possible call (.refused code)) : call.stream = none := by
  cases call with
  | readdir dir => exact absurd h.2 id
  | closedir dir =>
    cases dir with
    | none => rfl
    | some d => exact absurd h.2 id
  | _ => rfl

/-- A closing that is performed succeeds. -/
lemma closedir_result {dir : Option UvDir} {result : Int} {payload : FsPayload}
    (h : s.Possible (.closedir dir) (.performed result payload)) : 0 ≤ result := by
  cases dir with
  | none => exact absurd rfl h.1.1
  | some d => exact h.2

/-- After a call the request holds the stream that is open then. -/
lemma perform_dir (hcall : call.stream = s.stream) (hout : s.Possible call out) :
    (r.perform call out).dir.map UvDir.id = out.streamAfter call s.stream := by
  cases out with
  | refused code =>
    have hnone := stream_of_refused hout
    have hafter : (FsOutcome.refused code).streamAfter call s.stream = s.stream := by
      cases call <;> rfl
    rw [hafter, ← hcall, hnone]
    rfl
  | performed result payload =>
    have hvalid := hout.1
    cases call with
    | opendir path =>
      cases payload with
      | dir d => rfl
      | _ => exact hcall
    | readdir dir =>
      cases payload with
      | none | dirent e => exact hcall
      | _ => simp [FsOutcome.Valid, FsPayload.fits] at hvalid
    | closedir dir =>
      have hresult : 0 ≤ result := closedir_result hout
      cases payload with
      | none =>
        have hleft : r.perform (.closedir dir) (.performed result .none) =
            { r.accept (.closedir dir) with result, ptr := .null } := if_neg (Int.not_lt.mpr hresult)
        rw [hleft]
        exact (if_pos hresult).symm
      | _ => simp [FsOutcome.Valid, FsPayload.fits] at hvalid
    | _ =>
      cases payload with
      | dir d => simp [FsOutcome.Valid, FsPayload.fits] at hvalid
      | _ => exact hcall

/-- Only `opendir` and `readdir` leave a stream in the request. -/
lemma fsType_of_streamAfter (hcall : call.stream = s.stream) (hout : s.Possible call out)
    (h : out.streamAfter call s.stream ≠ none) :
    call.fsType = .opendir ∨ call.fsType = .readdir := by
  rw [← hcall] at h
  cases call with
  | opendir path => exact Or.inl rfl
  | readdir dir => exact Or.inr rfl
  | closedir dir =>
    cases out with
    | refused code => exact absurd (stream_of_refused hout) h
    | performed result payload => exact absurd (if_pos (closedir_result hout)) h
  | _ => exact absurd rfl h

/-! ### What a call does to the memory -/

lemma Kept.perform (h : s.Kept) (hcall : call.stream = s.stream) (hout : s.Possible call out) :
    (s.perform call out).Kept := by
  cases call with
  | opendir path =>
    cases out with
    | refused code => exact h
    | performed result payload =>
      cases payload with
      | dir d =>
        have hid : d.id = s.dirs.issued := hout.2
        have hclosed : s.stream = none := hcall.symm
        refine { h with dirs := h.dirs.issue, outstanding := fun i => ?_ }
        show s.dirs.issue.Outstanding i ↔ some d.id = some i
        rw [h.dirs.outstanding_issue, h.outstanding, hclosed, hid]
        simp [eq_comm]
      | _ => exact h
  | readdir dir =>
    cases out with
    | refused code => exact h
    | performed result payload =>
      cases payload with
      | dirent e => exact { h with names := h.names.issue }
      | _ => exact h
  | closedir dir =>
    cases out with
    | refused code => cases dir <;> exact h
    | performed result payload =>
      cases dir with
      | none => exact absurd rfl hout.1.1
      | some d =>
        have hresult : 0 ≤ result := closedir_result hout
        have hopen : s.stream = some d.id := hcall.symm
        have hheld : s.dirs.Outstanding d.id := (h.outstanding d.id).mpr hopen
        have hclose : s.perform (.closedir (some d)) (.performed result payload) =
            { s with stream := none, dirs := s.dirs.release d.id } := by
          simp [DirStream.perform, FsOutcome.streamAfter, hresult]
        rw [hclose]
        refine { h with dirs := Ledger.sound_release_iff.mpr ⟨h.dirs, hheld⟩, outstanding := fun i => ?_ }
        rw [Ledger.outstanding_release, h.outstanding, hopen]
        simp [eq_comm]
  | _ => exact h

/-- What a call changes: the stream that is open, and the memory. -/
lemma perform_eq (s : DirStream) (call : UvFsCall) (out : FsOutcome) :
    ∃ dirs names name, s.perform call out =
      { s with stream := out.streamAfter call s.stream, dirs, names, name } := by
  unfold DirStream.perform
  dsimp only
  split
  · exact ⟨_, _, _, rfl⟩
  · exact ⟨_, _, _, rfl⟩
  · split <;> exact ⟨_, _, _, rfl⟩
  · exact ⟨_, _, _, rfl⟩

/-- The stream is the one that the call leaves open. -/
lemma perform_stream : (s.perform call out).stream = out.streamAfter call s.stream := by
  obtain ⟨dirs, names, name, hperform⟩ := s.perform_eq call out
  rw [hperform]

/-- After a call a clean-up frees no name but that of the entry just read. -/
lemma Kept.perform_name (h : s.Kept) (hout : s.Possible call out) (n : ℕ)
    (hn : (r.perform call out).freedName (s.perform call out).name = some n) :
    (s.perform call out).names.Outstanding n := by
  by_cases htype : call.fsType = .readdir
  · cases call <;> cases htype
    rename_i dir
    cases out with
    | refused code => exact hout.2.elim
    | performed result payload =>
      have hvalid := hout.1
      cases payload with
      | none =>
        have hle : ¬ 0 < result := by
          have := hvalid.2
          simp [FsPayload.fits] at this
          omega
        have hnone : (if dir.dirents = true ∧ 0 < result then s.name else none) = some n := hn
        simp [hle] at hnone
      | dirent e =>
        have hfresh : (if dir.dirents = true ∧ 0 < result then some s.names.issued else none) =
            some n := hn
        obtain rfl : s.names.issued = n := by
          split at hfresh
          · exact Option.some.inj hfresh
          · cases hfresh
        exact h.names.outstanding_issue.mpr (Or.inr rfl)
      | _ => simp [FsOutcome.Valid, FsPayload.fits] at hvalid
  · have hnone := UvFs.freedName_of_fsType (r := r.perform call out)
      (by rw [perform_fsType]; exact htype) (s.perform call out).name
    rw [hnone] at hn
    cases hn

/-- **Between two operations** the request is at rest again. -/
lemma Kept.perform_rests (h : s.Kept) (hcall : call.stream = s.stream)
    (hout : s.Possible call out) : (s.perform call out).Rests (r.perform call out) where
  dir := by
    rw [perform_stream]
    exact perform_dir hcall hout
  type := by
    rw [perform_stream, perform_fsType]
    exact fsType_of_streamAfter hcall hout
  name := h.perform_name hout

/-! ### What a clean-up does -/

/-- **A clean-up frees no stream**, and no name twice. -/
lemma Kept.cleanup (h : s.Kept) (hrests : s.Rests s.req.raw) :
    s.cleanup.Kept ∧ s.cleanup.dirs = s.dirs := by
  have hdir : s.req.raw.freedDir = none := by
    by_cases hopen : s.stream = none
    · apply UvFs.freedDir_of_dir
      have hmap := hrests.dir
      rw [hopen, Option.map_eq_none_iff] at hmap
      exact hmap
    · exact UvFs.freedDir_of_fsType (hrests.type hopen)
  have hdirs : s.cleanup.dirs = s.dirs := by
    show s.dirs.releaseAny s.req.raw.freedDir = s.dirs
    rw [hdir]
    rfl
  have hcleaned : s.cleanup.cleaned = s.cleaned := by
    show s.cleaned ++ s.req.raw.freedDir.toList = s.cleaned
    rw [hdir, Option.toList_none, List.append_nil]
  refine ⟨⟨?_, h.names.releaseAny hrests.name, h.given, hcleaned.trans h.cleaned, ?_⟩, hdirs⟩
  · rw [hdirs]
    exact h.dirs
  · rw [hdirs]
    exact h.outstanding

/-- A `readdir` or `closedir` is given the stream that is open. -/
lemma Kept.give (h : s.Kept) (hcall : call.stream = s.stream)
    (hopen : call.fsType = .readdir ∨ call.fsType = .closedir → s.stream ≠ none) :
    (s.give call).Kept := by
  have hadd : s.stream ≠ none → ∀ p ∈ s.given ++ [(call.stream, s.stream)], p.1 = p.2 ∧ p.2 ≠ none := by
    intro hne p hp
    rcases List.mem_append.mp hp with hp | hp
    · exact h.given p hp
    · rw [List.mem_singleton.mp hp]
      exact ⟨hcall, hne⟩
  cases call with
  | readdir dir => exact { h with given := hadd (hopen (Or.inl rfl)) }
  | closedir dir => exact { h with given := hadd (hopen (Or.inr rfl)) }
  | _ => exact h

/-! ### What a method calls -/

variable {m : FsCall} {i : Issued FsMembers}

/-- A method begins with the clean-up, and gives libuv the stream in the request if it is one of those
on streams. -/
lemma issue_spec (hissue : FsClass.fs.issue m s.req = some i) (hallowed : Allowed s.stream m)
    (hrests : s.Rests s.req.raw) :
    i.req = s.req.cleanup ∧ i.call.stream = s.stream ∧
      (i.call.fsType = .readdir ∨ i.call.fsType = .closedir → s.stream ≠ none) := by
  cases m with
  | readdir =>
    obtain ⟨dir, hdir, rfl⟩ := Option.map_eq_some_iff.mp hissue
    have hstream := hrests.dir
    rw [hdir, Option.map_some] at hstream
    exact ⟨rfl, hstream, fun _ => hallowed⟩
  | closedir =>
    obtain rfl := Option.some.inj hissue
    exact ⟨rfl, hrests.dir, fun _ => hallowed⟩
  | _ =>
    obtain rfl := Option.some.inj hissue
    have hclosed : s.stream = none := hallowed
    exact ⟨rfl, hclosed.symm, fun h => h.elim nofun nofun⟩

/-- A synchronous method cleans up and performs the call of its asynchronous counterpart. -/
lemma sync_raw {x : FsReq} {v : SyncReturn FsMembers} (hissue : FsClass.fs.issue m x = some i)
    (hsync : FsClass.fs.sync m out x = some v) :
    v.req.raw = x.raw.cleanup.perform i.call out := by
  cases m with
  | readdir =>
    obtain ⟨dir, hdir, rfl⟩ := Option.map_eq_some_iff.mp hissue
    have hmethod : (x.readdirSync out).map (SyncReturn.ofPair fun v => .entry v.1 v.2) = some v := hsync
    rw [FsReq.readdirSync, hdir] at hmethod
    obtain rfl := Option.some.inj hmethod
    rfl
  | mkstemp tpl =>
    obtain rfl := Option.some.inj hissue
    obtain ⟨p, hp, rfl⟩ := Option.map_eq_some_iff.mp hsync
    unfold FsReq.mkstempSync at hp
    by_cases hflag : (x.callSync (.mkstemp tpl) out).success = true
    · simp only [hflag, if_true, Option.map_eq_some_iff] at hp
      obtain ⟨path, -, rfl⟩ := hp
      rfl
    · simp only [hflag, Bool.false_eq_true, if_false, Option.some.injEq] at hp
      obtain rfl := hp
      rfl
  | statfs path =>
    obtain rfl := Option.some.inj hissue
    obtain ⟨p, hp, rfl⟩ := Option.map_eq_some_iff.mp hsync
    unfold FsReq.statfsSync at hp
    dsimp only at hp
    split at hp
    · obtain rfl := Option.some.inj hp
      rfl
    · cases hp
  | _ =>
    obtain rfl := Option.some.inj hissue
    obtain rfl := Option.some.inj hsync
    rfl

/-! ### The invariant is kept -/

variable {a : DirAction} {s' : DirStream}

lemma inv_create (dirents : Dirent) : (create dirents).Inv where
  dirs := Ledger.sound_empty
  names := Ledger.sound_empty
  given _ hp := absurd hp List.not_mem_nil
  cleaned := rfl
  outstanding d := ⟨fun h => absurd h.1 (Nat.not_lt_zero d), nofun⟩
  idle _ := ⟨rfl, fun h => absurd rfl h, nofun⟩
  flying _ hi := nomatch hi

/-- The state in which libuv receives a call. -/
lemma Inv.received (h : s.Inv) (hidle : s.Idle) (hissue : FsClass.fs.issue m s.req = some i)
    (hallowed : Allowed s.stream m) :
    (s.cleanup.give i.call).Kept ∧ i.call.stream = (s.cleanup.give i.call).stream ∧
      i.req = s.req.cleanup ∧ ∀ out, s.Possible i.call out ↔ (s.cleanup.give i.call).Possible i.call out := by
  have hrests := h.idle hidle.2
  obtain ⟨hreq, hcall, hopen⟩ := issue_spec hissue hallowed hrests
  obtain ⟨hkept, hdirs⟩ := h.toKept.cleanup hrests
  have hgive : (s.cleanup.give i.call).dirs = s.cleanup.dirs ∧
      (s.cleanup.give i.call).stream = s.stream := by
    unfold give
    split <;> exact ⟨rfl, rfl⟩
  refine ⟨hkept.give hcall hopen, hcall.trans hgive.2.symm, hreq, fun out => ?_⟩
  unfold Possible
  rw [hgive.1, hdirs]

/-- What holds of the memory does not depend on the request. -/
lemma Kept.frame (h : s.Kept) (x : FsReq) (alive : Bool) (f : Option (Issued FsMembers)) :
    Kept { s with req := x, alive, inFlight := f } :=
  ⟨h.dirs, h.names, h.given, h.cleaned, h.outstanding⟩

/-- A call that is over leaves the invariant. -/
lemma Kept.finish (h : s.Kept) (hcall : call.stream = s.stream) (hout : s.Possible call out)
    {x : FsReq} (hraw : x.raw = r.perform call out) {f : Option (Issued FsMembers)} (hf : f = none) :
    Inv { s.perform call out with req := x, inFlight := f } where
  toKept := (h.perform hcall hout).frame x _ f
  idle _ := by
    have hrests : (s.perform call out).Rests (r.perform call out) := h.perform_rests hcall hout
    rw [← hraw] at hrests
    exact ⟨hrests.dir, hrests.type, hrests.name⟩
  flying i hi := by
    rw [hf] at hi
    cases hi

/-- What is in flight stays in flight when libuv carries out a call, -/
lemma perform_inFlight : (s.perform call out).inFlight = s.inFlight := by
  obtain ⟨dirs, names, name, hperform⟩ := s.perform_eq call out
  rw [hperform]

/-- and when it is given a directory. -/
lemma give_inFlight : (s.give call).inFlight = s.inFlight := by
  unfold give
  split <;> rfl

/-- **Step lemma.** -/
lemma inv_step (h : s.Inv) (hstep : s.step a = some s') : s'.Inv := by
  cases a with
  | sync m out =>
    simp only [step, Option.ite_none_right_eq_some, Option.bind_eq_some_iff,
      Option.map_eq_some_iff] at hstep
    obtain ⟨⟨hidle, hallowed⟩, i, hissue, hout, v, hsync, rfl⟩ := hstep
    obtain ⟨hkept, hcall, -, hposs⟩ := h.received hidle hissue hallowed
    have hflight : ((s.cleanup.give i.call).perform i.call out).inFlight = none := by
      rw [perform_inFlight, give_inFlight]
      exact hidle.2
    exact hkept.finish hcall ((hposs out).mp hout) (sync_raw hissue hsync) hflight
  | async m code =>
    simp only [step, Option.ite_none_right_eq_some, Option.bind_eq_some_iff] at hstep
    obtain ⟨⟨hidle, hallowed⟩, i, hissue, hstep⟩ := hstep
    obtain ⟨hkept, hcall, hreq, hposs⟩ := h.received hidle hissue hallowed
    by_cases haccept : code = 0
    · rw [if_pos haccept] at hstep
      obtain rfl := Option.some.inj hstep
      refine { hkept.frame i.accept _ (some i) with idle := nofun, flying := fun j hj => ?_ }
      obtain rfl := Option.some.inj hj
      exact ⟨hcall, rfl⟩
    · rw [if_neg haccept, Option.ite_none_right_eq_some] at hstep
      obtain ⟨hout, hstep⟩ := hstep
      obtain rfl := Option.some.inj hstep
      have hflight : ((s.cleanup.give i.call).perform i.call (.refused code)).inFlight = none := by
        rw [perform_inFlight, give_inFlight]
        exact hidle.2
      exact hkept.finish (r := i.req.raw) hcall ((hposs _).mp hout) rfl hflight
  | complete result payload =>
    simp only [step, Option.ite_none_right_eq_some, Option.bind_eq_some_iff,
      Option.map_eq_some_iff] at hstep
    obtain ⟨i, hflying, hout, ⟨ev, y⟩, hcallback, rfl⟩ := hstep
    obtain ⟨hcall, hreq⟩ := h.flying i hflying
    have hraw : y.raw = i.req.raw.perform i.call (.performed result payload) := by
      rw [FsRequest.answer_raw _ _ _ hcallback, hreq]
      rfl
    exact h.toKept.finish hcall hout hraw rfl
  | destroy =>
    simp only [step, Option.ite_none_right_eq_some, Option.some.injEq] at hstep
    obtain ⟨⟨hidle, hclosed⟩, rfl⟩ := hstep
    have hrests := h.idle hidle.2
    obtain ⟨hkept, -⟩ := h.toKept.cleanup hrests
    refine { hkept.frame s.req.cleanup false s.cleanup.inFlight with
      idle := fun _ => ⟨hclosed.symm, fun hne => absurd hclosed hne, fun n hn => ?_⟩
      flying := fun i hi => ?_ }
    · have hnone : s.req.cleanup.raw.freedName s.cleanup.name = none := by
        unfold UvFs.freedName
        split
        · rename_i hdir
          cases hdir
        · rfl
      rw [hnone] at hn
      cases hn
    · have hnone : s.inFlight = some i := hi
      rw [hidle.2] at hnone
      cases hnone

/-- The invariant gives what is expected. -/
lemma Inv.sound (h : s.Inv) : s.Sound where
  given := h.given
  in_use d hd := (h.outstanding d).mpr hd
  cleaned := h.cleaned
  freed_once d hd hclosed := h.dirs.count_eq_one hd fun hout => hclosed ((h.outstanding d).mp hout)
  names n := List.nodup_iff_count_le_one.mp h.names.once n

end DirStream

end Uvw
