import Uvw.Fs.Answers
import Uvw.Fs.Scandir
import Uvw.Fs.Sync

/-!
# Reading a payload that is not there

After an operation libuv leaves what it delivers behind `req->ptr` or `req->path`, which stay null if
it fails.  `statfs_sync`, `readdir` and `readdir_sync` read through `req->ptr` without a check, and
`mkstemp_sync` through `req->path` when it takes a refusal for a success.  The file follows a request
through any sequence of calls, synchronous and asynchronous; a program that has read through a null
pointer is gone.

`fs_absent_payload_iff` says in which sequences every call returns with its flag as documented, and in
which every call returns at all.
-/

namespace Uvw

open TransitionSystem

/-- What a program does with a request, one call at a time. -/
inductive FsUse (c : FsClass)
  | sync (m : c.Call) (out : FsOutcome)
  /-- An asynchronous method and, if libuv accepts the call, its completion. -/
  | async (m : c.Call) (out : FsOutcome)
  | scandirNext

namespace FsClass

/-- There is a synchronous method of that name. -/
def HasSync : (c : FsClass) → c.Call → Prop
  | file, .writeRaw .. => False
  | _, _ => True

instance : (c : FsClass) → DecidablePred c.HasSync
  | file => fun m => by cases m <;> (unfold HasSync; infer_instance)
  | fs => fun m => by unfold HasSync; infer_instance

/-- `scandir_next`, a method of `fs_req`. -/
def scandirNext : (c : FsClass) → c.Req → Option ((Bool × DirentType × Option String) × c.Req)
  | file, _ => none
  | fs, x => FsReq.scandirNext x

variable (c : FsClass)

/-- Calls made one at a time; the state is `none` once the program has crashed. -/
def useStep : Option c.Req → FsUse c → Option (Option c.Req)
  | none, _ => none
  | some x, .sync m out =>
    if c.HasSync m then
      match c.issue m x with
      | none => some none
      | some i => if out.Valid i.call then some ((c.sync m out x).map SyncReturn.req) else none
    else none
  | some x, .async m out => c.callStep (some x) (m, out)
  | some x, .scandirNext => if c = fs then some ((c.scandirNext x).map Prod.snd) else none

/-- The flag as the documentation of the method has it: true in case of success, and for `readdir_sync`
if an entry was read. -/
def Documented : (c : FsClass) → c.Call → FsOutcome → Bool → Prop
  | fs, .readdir, out, flag => flag = true ↔ 0 < out.code
  | _, _, out, flag => flag = true ↔ 0 ≤ out.code

/-- The call returns. -/
def Returning : Option c.Req → FsUse c → Prop
  | none, _ => False
  | some x, .sync m out => (c.sync m out x).isSome = true
  | some x, .async m out => (c.answer x m out).isSome = true
  | some x, .scandirNext => (c.scandirNext x).isSome = true

/-- The call returns, and its flag is as documented; that of `scandir_next` tells whether an entry was
handed out. -/
def AsDocumented : Option c.Req → FsUse c → Prop
  | none, _ => False
  | some x, .sync m out => ∃ r, c.sync m out x = some r ∧ c.Documented m out r.flag
  | some x, .async m out => (c.answer x m out).isSome = true
  | some x, .scandirNext => ∃ r, c.scandirNext x = some r ∧
      (r.1.1 = true ↔ ∃ ent found, x.raw.cleanup.scandirNext ent = some (0, found))

/-- What a method reads through after the call is there: the record of `statfs_sync`, the path of
`mkstemp_sync`. -/
def Delivered : (c : FsClass) → c.Call → FsOutcome → Prop
  | fs, .statfs _, .performed result _ => 0 ≤ result
  | fs, .statfs _, .refused _ => False
  | fs, .mkstemp _, .refused _ => False
  | _, _, _ => True

/-- The outcomes of a synchronous method after which it returns a flag as documented. -/
def Flagged : (c : FsClass) → c.Call → FsOutcome → Prop
  | fs, .statfs _, .performed result _ => 0 ≤ result
  | fs, .readdir, .performed result _ => 0 ≤ result
  | fs, .readdir, .refused _ => True
  | _, _, .performed .. => True
  | _, _, .refused _ => False

/-- The request has what the call reads through: a directory for `readdir` and `readdir_sync`, and
after the call what it delivers. -/
def PayloadThere : Option c.Req → FsUse c → Prop
  | none, _ => False
  | some x, .sync m out => c.HasDirectory m x ∧ c.Delivered m out
  | some x, .async m _ => c.HasDirectory m x
  | some _, .scandirNext => True

/-- No `statfs_sync` or `readdir_sync` fails and no other synchronous method is refused, a directory is
there to be read, and `scandir_next` does not meet an error other than `UV_EOF`. -/
def NoneFailing : Option c.Req → FsUse c → Prop
  | none, _ => False
  | some x, .sync m out => c.HasDirectory m x ∧ c.Flagged m out
  | some x, .async m _ => c.HasDirectory m x
  | some x, .scandirNext => 0 ≤ x.raw.result ∨ x.raw.result = uvEof

variable {c} {m : c.Call} {x : c.Req} {i : Issued c.Members} {out : FsOutcome}

/-! ### Synchronous calls -/

/-- A method that needs a directory reads through a null pointer without one. -/
lemma sync_eq_none (hdir : ¬ c.HasDirectory m x) : c.sync m out x = none := by
  cases c with
  | file => exact absurd trivial hdir
  | fs =>
    cases m with
    | readdir =>
      have hnone : x.raw.dir = none := Option.not_isSome_iff_eq_none.mp hdir
      simp [sync, FsCall.runSync, FsReq.readdirSync, hnone]
    | _ => exact absurd trivial hdir

/-- **Which synchronous calls return**: those that find what they read through. -/
lemma sync_isSome_iff (hsync : c.HasSync m) (hissue : c.issue m x = some i)
    (hvalid : out.Valid i.call) : (c.sync m out x).isSome = true ↔ c.Delivered m out := by
  cases out with
  | performed result payload =>
    have hret : c.Returns m result ↔ c.Delivered m (.performed result payload) := by
      cases c with
      | file =>
        cases m with
        | writeRaw => exact hsync.elim
        | _ => exact Iff.rfl
      | fs => cases m <;> exact Iff.rfl
    refine ⟨fun h => ?_, fun h => sync_isSome hissue hvalid (hret.mpr h)⟩
    cases c with
    | file => trivial
    | fs =>
      cases m with
      | statfs path =>
        -- a failure leaves the pointer null
        obtain rfl := Option.some.inj hissue
        rcases hvalid.2 with ⟨_, rfl⟩ | ⟨hpos, _⟩
        · cases h
        · exact hpos
      | _ => trivial
  | refused code =>
    cases c with
    | file =>
      cases m with
      | writeRaw => exact hsync.elim
      | _ => exact iff_of_true rfl trivial
    | fs =>
      cases m with
      | mkstemp tpl => exact iff_of_false Bool.false_ne_true id
      | statfs path => exact iff_of_false Bool.false_ne_true id
      | readdir =>
        obtain ⟨dir, hdir, _⟩ := Option.map_eq_some_iff.mp hissue
        refine iff_of_true ?_ trivial
        simp [sync, FsCall.runSync, FsReq.readdirSync, hdir]
      | _ => exact iff_of_true rfl trivial

/-- Which flags `req->result` makes right: none for a refused call, where it says success, but that of
`readdir_sync`. -/
lemma documented_flag_iff (hsync : c.HasSync m) (hvalid : out.Valid i.call) :
    c.Delivered m out ∧ c.Documented m out (c.flag m out.stored) ↔ c.Flagged m out := by
  cases out with
  | performed result payload =>
    have hsign : (!decide (result < 0)) = true ↔ 0 ≤ result := by simp
    cases c with
    | file =>
      cases m with
      | writeRaw => exact hsync.elim
      | _ => exact iff_of_true ⟨trivial, hsign⟩ trivial
    | fs =>
      cases m with
      | statfs path => exact and_iff_left hsign
      | readdir =>
        have hentry : (decide (result ≠ 0) = true ↔ 0 < result) ↔ 0 ≤ result := by
          rw [decide_eq_true_iff]
          omega
        exact (and_iff_right trivial).trans hentry
      | _ => exact iff_of_true ⟨trivial, hsign⟩ trivial
  | refused code =>
    have hneg : code < 0 := hvalid
    have hnot : ¬ ((!decide ((0 : Int) < 0)) = true ↔ 0 ≤ code) := fun h =>
      absurd (h.mp rfl) (Int.not_le.mpr hneg)
    cases c with
    | file =>
      cases m with
      | writeRaw => exact hsync.elim
      | _ => exact iff_of_false (fun h => hnot h.2) id
    | fs =>
      cases m with
      | readdir =>
        have hend : decide ((0 : Int) ≠ 0) = true ↔ 0 < code :=
          iff_of_false Bool.false_ne_true (Int.not_lt.mpr (Int.le_of_lt hneg))
        exact iff_of_true ⟨trivial, hend⟩ trivial
      | _ => exact iff_of_false (fun h => hnot h.2) id

/-- **Which synchronous calls return a flag as documented.** -/
lemma sync_documented_iff (hsync : c.HasSync m) (hissue : c.issue m x = some i)
    (hvalid : out.Valid i.call) :
    (∃ r, c.sync m out x = some r ∧ c.Documented m out r.flag) ↔ c.Flagged m out := by
  rw [← documented_flag_iff hsync hvalid, ← sync_isSome_iff hsync hissue hvalid]
  constructor
  · rintro ⟨r, hr, hdoc⟩
    exact ⟨by rw [hr]; rfl, sync_flag hr ▸ hdoc⟩
  · rintro ⟨hsome, hdoc⟩
    obtain ⟨r, hr⟩ := Option.isSome_iff_exists.mp hsome
    exact ⟨r, hr, (sync_flag hr).symm ▸ hdoc⟩

/-! ### Steps -/

variable {s s' : Option c.Req}

/-- **Inversion of a synchronous call**: it has found no directory, or libuv was called. -/
lemma sync_step_cases (hstep : c.useStep (some x) (.sync m out) = some s') :
    c.HasSync m ∧ (¬ c.HasDirectory m x ∨
      c.HasDirectory m x ∧ ∃ i, c.issue m x = some i ∧ out.Valid i.call) := by
  rw [useStep] at hstep
  split at hstep
  next hsync =>
    refine ⟨hsync, ?_⟩
    rw [← issue_isSome_iff]
    split at hstep
    next hnone =>
      rw [hnone]
      exact Or.inl Bool.false_ne_true
    next i hsome =>
      split at hstep
      next hvalid =>
        rw [hsome]
        exact Or.inr ⟨rfl, i, rfl, hvalid⟩
      next => cases hstep
  next => cases hstep

/-- An asynchronous call returns if it finds what it reads through, whatever libuv says. -/
lemma answer_isSome_iff {s' : Option c.Req} (hstep : c.callStep (some x) (m, out) = some s') :
    (c.answer x m out).isSome = true ↔ c.HasDirectory m x := by
  rw [← issue_isSome_iff]
  cases hissue : c.issue m x with
  | none =>
    rw [answer, hissue]
    rfl
  | some i =>
    refine iff_of_true ?_ rfl
    cases out with
    | refused code =>
      rw [answer, hissue]
      rfl
    | performed result payload =>
      have hvalid : (FsOutcome.performed result payload).Valid i.call := by
        by_contra hnot
        simp [callStep, hissue, hnot] at hstep
      obtain ⟨ev, x', hanswer, _⟩ := answer_of_accepted hissue hvalid
      rw [hanswer]
      rfl

/-- What `scandir_next` says is right unless it meets the error of a scan that failed. -/
lemma scandirNext_documented_iff (x : FsReq) :
    (∃ r, x.scandirNext = some r ∧
      (r.1.1 = true ↔ ∃ ent found, x.raw.cleanup.scandirNext ent = some (0, found))) ↔
      0 ≤ x.raw.result ∨ x.raw.result = uvEof := by
  have hnever : ¬ ∃ ent found, x.raw.cleanup.scandirNext ent = some (0, found) := by
    rintro ⟨ent, found, hfound⟩
    rw [UvFs.scandirNext_cleanup] at hfound
    have hcode := congrArg Prod.fst (Option.some.inj hfound)
    dsimp only [uvEof] at hcode
    split at hcode <;> omega
  rw [FsReq.scandirNext_eq]
  constructor
  · rintro ⟨r, hr, hflag⟩
    obtain rfl := Option.some.inj hr
    by_contra hmet
    have hstale : x.nextResult.1 = true := by rw [FsReq.nextResult, if_neg hmet]; rfl
    exact hnever (hflag.mp hstale)
  · intro hmet
    refine ⟨_, rfl, iff_of_false ?_ hnever⟩
    rw [FsReq.nextResult, if_pos hmet]
    exact Bool.false_ne_true

/-- **Step lemma**: a call returns exactly if it finds what it reads through. -/
lemma returning_iff {a : FsUse c} (hstep : c.useStep s a = some s') :
    c.Returning s a ↔ c.PayloadThere s a := by
  cases s with
  | none => cases hstep
  | some x =>
    cases a with
    | sync m out =>
      obtain ⟨hsync, hnone | ⟨hdir, i, hissue, hvalid⟩⟩ := sync_step_cases hstep
      · refine iff_of_false (fun h => ?_) (fun h => hnone h.1)
        rw [Returning, sync_eq_none hnone] at h
        exact Bool.false_ne_true h
      · exact (sync_isSome_iff hsync hissue hvalid).trans (and_iff_right hdir).symm
    | async m out => exact answer_isSome_iff hstep
    | scandirNext =>
      cases c with
      | file => cases hstep
      | fs =>
        refine iff_of_true ?_ trivial
        show (FsReq.scandirNext x).isSome = true
        rw [FsReq.scandirNext_eq]
        rfl

/-- **Step lemma**: a call does as documented exactly if nothing fails in it unnoticed. -/
lemma asDocumented_iff {a : FsUse c} (hstep : c.useStep s a = some s') :
    c.AsDocumented s a ↔ c.NoneFailing s a := by
  cases s with
  | none => cases hstep
  | some x =>
    cases a with
    | sync m out =>
      obtain ⟨hsync, hnone | ⟨hdir, i, hissue, hvalid⟩⟩ := sync_step_cases hstep
      · refine iff_of_false ?_ (fun h => hnone h.1)
        rintro ⟨r, hr, _⟩
        rw [sync_eq_none hnone] at hr
        cases hr
      · exact (sync_documented_iff hsync hissue hvalid).trans (and_iff_right hdir).symm
    | async m out => exact answer_isSome_iff hstep
    | scandirNext =>
      cases c with
      | file => cases hstep
      | fs => exact scandirNext_documented_iff x

end FsClass

end Uvw
