import Uvw.Foundation.TransitionSystem
import Uvw.Fs.Request

/-!
# The answers to asynchronous filesystem calls

The asynchronous methods of `file_req` and `fs_req` return nothing: the event published by the callback
is the only answer, and the code returned by libuv is dropped.  `fs_calls_answered_iff` says which
sequences of calls are answered one by one: those in which libuv refuses none, and `readdir` finds a
directory in the request.
-/

namespace Uvw

open TransitionSystem

namespace FsClass

/-- A call and, if libuv accepts it, its completion: the events published, and the request.  It has
no value where the source reads through a null pointer. -/
def answer (c : FsClass) (x : c.Req) (m : c.Call) (out : FsOutcome) :
    Option (List FsPublished × c.Req) :=
  (c.issue m x).bind fun i =>
    match out with
    | .refused _ => some ([], i.refuse)
    | .performed result payload =>
      (c.callback i.callback (c.done i.call result payload i.accept)).map fun p => ([p.1], p.2)

/-- Calls made one at a time; the state is `none` once the program has crashed. -/
def callStep (c : FsClass) : Option c.Req → c.Call × FsOutcome → Option (Option c.Req)
  | none, _ => none
  | some x, (m, out) =>
    match c.issue m x with
    | none => some none
    | some i => if out.Valid i.call then some ((c.answer x m out).map Prod.snd) else none

end FsClass

/-- The event says what became of the call. -/
def FsOutcome.Tells (out : FsOutcome) : FsPublished → Prop
  | .error code => out.code < 0 ∧ code = out.code
  | .fs _ => 0 ≤ out.code

namespace FsClass

variable (c : FsClass)

/-- The call is answered by exactly one event, the right one. -/
def AnsweredOnce : Option c.Req → c.Call × FsOutcome → Prop
  | none, _ => False
  | some x, (m, out) => ∃ ev x', c.answer x m out = some ([ev], x') ∧ out.Tells ev

/-- The method finds what it reads through: a directory for `readdir`. -/
def HasDirectory : (c : FsClass) → c.Call → c.Req → Prop
  | fs, .readdir, x => x.raw.dir.isSome = true
  | _, _, _ => True

/-- libuv accepts the call, which finds what it reads through. -/
def Accepted : Option c.Req → c.Call × FsOutcome → Prop
  | none, _ => False
  | some x, (m, out) => c.HasDirectory m x ∧ ∃ result payload, out = .performed result payload

variable {c} {m : c.Call} {x : c.Req} {i : Issued c.Members}

lemma issue_isSome_iff : (c.issue m x).isSome = true ↔ c.HasDirectory m x := by
  cases c with
  | file => simp [issue, HasDirectory]
  | fs =>
    cases m with
    | readdir => simp [issue, FsCall.issue, FsReq.readdir, HasDirectory]
    | _ => simp [issue, FsCall.issue, HasDirectory]

/-- `readdir` binds the `dirents` of the directory before it hands it to libuv. -/
lemma issue_readdir_dirents (h : c.issue m x = some i) {dir : UvDir}
    (hcall : i.call = .readdir dir) : dir.dirents = true := by
  cases c with
  | file =>
    obtain rfl := Option.some.inj h
    cases m <;> cases hcall
  | fs =>
    cases m with
    | readdir =>
      obtain ⟨d, _, rfl⟩ := Option.map_eq_some_iff.mp h
      cases hcall
      rfl
    | _ =>
      obtain rfl := Option.some.inj h
      cases hcall

end FsClass

/-- **No event reads through a null pointer**: what libuv stores for a successful operation is what
the constructor of `fs_event` reads. -/
lemma fsEvent_done_isSome {call : UvFsCall} {result : Int} {payload : FsPayload}
    (hresult : 0 ≤ result) (hvalid : (FsOutcome.performed result payload).Valid call)
    (hdir : ∀ dir, call = .readdir dir → dir.dirents = true) (dirents : Dirent) (r : UvFs) :
    (fsEvent dirents ((r.accept call).done call result payload)).isSome = true := by
  have hfits : payload.fits call result = true := by
    rcases hvalid.2 with ⟨hneg, _⟩ | ⟨_, hfits⟩
    · omega
    · exact hfits
  cases call with
  | readdir dir =>
    have hset := hdir dir rfl
    cases payload <;>
      simp [FsPayload.fits, fsEvent, UvFs.done, UvFs.accept, UvFs.init, UvFs.dir, UvFsCall.ptr,
        UvFsCall.fsType, hset] at hfits ⊢
  | closedir dir =>
    -- the directory is gone, and nothing of it is read
    have hkept : ¬ result < 0 := Int.not_lt.mpr hresult
    cases payload <;>
      simp [FsPayload.fits, fsEvent, UvFs.done, UvFs.accept, UvFs.init, UvFsCall.fsType,
        hkept] at hfits ⊢
  | _ =>
    cases payload <;>
      simp [FsPayload.fits, fsEvent, UvFs.done, UvFs.accept, UvFs.init, UvFsCall.ptr,
        UvFsCall.fsType] at hfits ⊢

/-! ## What a callback publishes -/

namespace FsClass

variable {c : FsClass} {m : c.Call} {x : c.Req} {i : Issued c.Members}

/-- A callback publishes one event, the right one, if it finds what it reads through. -/
lemma callback_tells (cb : FsCallback) {out : FsOutcome} (hresult : x.raw.result = out.code)
    (hev : 0 ≤ x.raw.result → ∀ dirents, (fsEvent dirents x.raw).isSome = true) :
    ∃ ev x', c.callback cb x = some (ev, x') ∧ out.Tells ev := by
  obtain ⟨dirents, own, attach, hcb⟩ := c.callback_eq_answer cb x
  rcases Int.lt_or_le x.raw.result 0 with hneg | hpos
  · exact ⟨_, _, hcb.trans (FsRequest.answer_of_neg _ _ _ hneg), hresult ▸ hneg, hresult⟩
  · obtain ⟨ev, hsome⟩ := Option.isSome_iff_exists.mp (hev hpos dirents)
    have hcode : 0 ≤ out.code := hresult ▸ hpos
    exact ⟨.fs (attach ev), _, hcb.trans (FsRequest.answer_of_event _ _ _ hpos hsome), hcode⟩

/-- An accepted call is answered once, by the right event. -/
lemma answer_of_accepted {result : Int} {payload : FsPayload} (h : c.issue m x = some i)
    (hvalid : (FsOutcome.performed result payload).Valid i.call) :
    ∃ ev x', c.answer x m (.performed result payload) = some ([ev], x') ∧
      (FsOutcome.performed result payload).Tells ev := by
  have hresult : (c.done i.call result payload i.accept).raw.result =
      (FsOutcome.performed result payload).code := UvFs.done_result _ _ _ _
  obtain ⟨ev, x', hcb, htells⟩ := callback_tells i.callback hresult fun hpos dirents => by
    rw [hresult] at hpos
    exact fsEvent_done_isSome hpos hvalid (fun _ => issue_readdir_dirents h) dirents _
  refine ⟨ev, x', ?_, htells⟩
  rw [answer, h, Option.bind_some]
  dsimp only
  rw [hcb]
  rfl

/-- **Step lemma**: a call is answered exactly if it is accepted. -/
lemma answeredOnce_iff {s s' : Option c.Req} {a : c.Call × FsOutcome}
    (hstep : c.callStep s a = some s') : c.AnsweredOnce s a ↔ c.Accepted s a := by
  obtain ⟨m, out⟩ := a
  cases s with
  | none => cases hstep
  | some x =>
    cases hissue : c.issue m x with
    | none =>
      have hnot : ¬ c.HasDirectory m x := by
        rw [← issue_isSome_iff, hissue]
        exact Bool.false_ne_true
      refine ⟨?_, fun hacc => absurd hacc.1 hnot⟩
      rintro ⟨ev, x', hanswer, _⟩
      rw [answer, hissue] at hanswer
      cases hanswer
    | some i =>
      have hvalid : out.Valid i.call := by
        by_contra hnot
        simp [callStep, hissue, hnot] at hstep
      have hdir : c.HasDirectory m x := issue_isSome_iff.mp (by rw [hissue]; rfl)
      cases out with
      | refused code =>
        refine ⟨?_, fun hacc => ?_⟩
        · rintro ⟨ev, x', hanswer, _⟩
          rw [answer, hissue] at hanswer
          cases hanswer
        · obtain ⟨_, _, heq⟩ := hacc.2
          cases heq
      | performed result payload =>
        exact ⟨fun _ => ⟨hdir, result, payload, rfl⟩, fun _ => answer_of_accepted hissue hvalid⟩

end FsClass

end Uvw
