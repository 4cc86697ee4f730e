import Uvw.Foundation.Iteration
import Uvw.Fs.Answers
import Uvw.Fs.Sync

/-!
# Iterating over a scanned directory

`scandir` and `scandir_sync` leave the listing in the request, and `fs_req::scandir_next` is meant to
hand out its entries one by one.  It begins with `uv_fs_req_cleanup`, though, which frees the listing:
what `uv_fs_scandir_next` is then asked about is a request without one.  `scandirNext_eq` says what a
call returns in every state, and `scandir_complete_iff` for which scans the iteration is nevertheless
the one the listing asks for.
-/

namespace Uvw

open Iteration

/-- The listing a scan produces; one that fails has none. -/
def FsOutcome.listing : FsOutcome → List Dirent
  | .performed _ (.entries es) => es
  | _ => []

/-- The two ways to scan a directory. -/
inductive ScanMode
  | sync | async
deriving DecidableEq, Repr

namespace FsReq

/-- The request once the scan is over: after `scandir_sync`, or after the callback of `scandir`, which
libuv does not call if it refuses the scan. -/
def scanned (mode : ScanMode) (path : String) (flags : Int) (out : FsOutcome) (x : FsReq) :
    Option FsReq :=
  match mode with
  | .sync => some (x.scandirSync path flags out).2
  | .async => (FsClass.fs.answer x (.scandir path flags) out).map Prod.snd

/-- The results of successive calls of `scandir_next`. -/
def scandirResults (x : FsReq) (n : ℕ) : Option (List (Bool × DirentType × Option String)) :=
  calls (fun x (_ : Unit) => x.scandirNext) x (List.replicate n ())

/-- What `scandir_next` returns for an entry. -/
def listed (e : Dirent) : Bool × DirentType × Option String := (true, e.type, some e.name)

/-- The `i`-th result is the `i`-th entry of the listing, and past its end says that there is none. -/
def ListedAt (es : List Dirent) (i : ℕ) (r : Bool × DirentType × Option String) : Prop :=
  match es[i]? with
  | some e => r = listed e
  | none => r.1 = false

/-- The iteration is complete: any number of calls return the entries of the listing in order, and
say that there is none from then on. -/
def ScanComplete (es : List Dirent) (x : FsReq) : Prop :=
  ∀ n, ∃ rs, x.scandirResults n = some rs ∧ ∀ i r, rs[i]? = some r → ListedAt es i r

/-- What every call of `scandir_next` returns. -/
def nextResult (x : FsReq) : Bool × DirentType × Option String :=
  if 0 ≤ x.raw.result ∨ x.raw.result = uvEof then (false, .unknown, none) else listed x.own.dirents

variable {x : FsReq}

lemma nextResult_flag :
    x.nextResult.1 = false ↔ 0 ≤ x.raw.result ∨ x.raw.result = uvEof := by
  unfold nextResult
  split <;> simp [listed, *]

/-- **`scandir_next` never lists anything**: the clean-up has freed the listing, so that the call says
there is nothing left, or hands out the stale `dirents` after a failed scan. -/
lemma scandirNext_eq (x : FsReq) : x.scandirNext = some (x.nextResult, x.cleanup) := by
  have hcall : x.cleanup.raw.scandirNext x.cleanup.own.dirents =
      some (if x.raw.result < 0 then x.raw.result else uvEof, x.cleanup.raw, x.own.dirents) :=
    x.raw.scandirNext_cleanup x.own.dirents
  rw [scandirNext, hcall, Option.map_some]
  unfold nextResult
  by_cases hneg : x.raw.result < 0
  · have hle : ¬ 0 ≤ x.raw.result := Int.not_le.mpr hneg
    by_cases heof : x.raw.result = uvEof
    · have hcode : ¬ uvEof ≠ x.raw.result := not_not.mpr heof.symm
      rw [if_pos hneg, if_neg hcode, if_pos (Or.inr heof)]
      rfl
    · have hcode : uvEof ≠ x.raw.result := Ne.symm heof
      rw [if_pos hneg, if_pos hcode, if_neg (not_or.mpr ⟨hle, heof⟩)]
      rfl
  · have hle : 0 ≤ x.raw.result := Int.not_lt.mp hneg
    rw [if_neg hneg, if_neg (not_not.mpr rfl), if_pos (Or.inl hle)]
    rfl

/-- All calls return the same. -/
lemma scandirResults_eq (x : FsReq) (n : ℕ) :
    x.scandirResults n = some (List.replicate n x.nextResult) := by
  have hnext : ∀ (y : FsReq) (_ : Unit), y.nextResult = x.nextResult →
      ∃ r y', y.scandirNext = some (r, y') ∧ r = x.nextResult ∧ y'.nextResult = x.nextResult := by
    intro y _ hy
    exact ⟨y.nextResult, y.cleanup, scandirNext_eq y, hy, hy⟩
  obtain ⟨rs, hrs, hsame⟩ := calls_of_invariant hnext rfl (List.replicate n ())
  obtain ⟨hlength, hmem⟩ := forall_mem_of_replicate hsame
  rw [scandirResults, hrs, List.eq_replicate_of_mem hmem, hlength]

/-- Since all calls return the same, one result has to fit everywhere. -/
lemma scanComplete_iff {es : List Dirent} :
    ScanComplete es x ↔ ∀ i, ListedAt es i x.nextResult := by
  constructor
  · intro h i
    obtain ⟨rs, hrs, hlisted⟩ := h (i + 1)
    rw [scandirResults_eq] at hrs
    obtain rfl : List.replicate (i + 1) x.nextResult = rs := Option.some.inj hrs
    exact hlisted i x.nextResult (by simp)
  · intro h n
    refine ⟨_, scandirResults_eq x n, fun i r hr => ?_⟩
    have hmem : r ∈ List.replicate n x.nextResult := List.mem_of_getElem? hr
    rw [List.eq_of_mem_replicate hmem]
    exact h i

/-- A scan leaves its result in the request. -/
lemma scanned_result {mode : ScanMode} {path : String} {flags : Int} {out : FsOutcome} {y : FsReq}
    (h : x.scanned mode path flags out = some y) : y.raw.result = out.stored := by
  cases mode with
  | sync =>
    obtain rfl := Option.some.inj h
    exact UvFs.perform_result _ out _
  | async =>
    obtain ⟨⟨ps, z⟩, hanswer, rfl⟩ := Option.map_eq_some_iff.mp h
    cases out with
    | refused code =>
      have hz : (x.scandir path flags).refuse = z := congrArg Prod.snd (Option.some.inj hanswer)
      rw [← hz]
      rfl
    | performed result payload =>
      obtain ⟨⟨p, y⟩, hcallback, hy⟩ := Option.map_eq_some_iff.mp hanswer
      obtain rfl : y = z := congrArg Prod.snd hy
      have hraw := FsRequest.answer_raw _ _ _ hcallback
      show y.raw.result = result
      rw [hraw]
      exact UvFs.done_result _ result payload _

/-- A scan that lists something has a result that says so. -/
lemma stored_of_listing {path : String} {flags : Int} {out : FsOutcome}
    (hout : out.Valid (.scandir path flags)) (hne : out.listing ≠ []) : 0 ≤ out.stored := by
  cases out with
  | refused code => exact absurd rfl hne
  | performed result payload =>
    obtain ⟨-, ⟨-, hpayload⟩ | ⟨hnonneg, -⟩⟩ := hout
    · rw [hpayload] at hne
      exact absurd rfl hne
    · exact hnonneg

/-- **The iteration over a scanned directory is complete exactly when there is nothing in it.**  After
a scan, synchronous or not, `scandir_next` returns the entries of the listing one by one and then says
that there is none left exactly when the listing is empty and the scan has not failed, or has failed
with `UV_EOF`. -/
theorem scandir_complete_iff {mode : ScanMode} {path : String} {flags : Int} {out : FsOutcome}
    {y : FsReq} (hout : out.Valid (.scandir path flags))
    (hscan : x.scanned mode path flags out = some y) :
    ScanComplete out.listing y ↔ out.listing = [] ∧ (0 ≤ out.stored ∨ out.stored = uvEof) := by
  rw [scanComplete_iff, ← scanned_result hscan]
  cases hes : out.listing with
  | nil =>
    have hlisted : (∀ i, ListedAt [] i y.nextResult) ↔ y.nextResult.1 = false := by
      simp [ListedAt]
    rw [hlisted, nextResult_flag]
    simp
  | cons e es =>
    have hnonneg : 0 ≤ out.stored := stored_of_listing hout (by simp [hes])
    have hflag : y.nextResult.1 = false := by
      rw [nextResult_flag, scanned_result hscan]
      exact Or.inl hnonneg
    simp only [reduceCtorEq, false_and, iff_false]
    intro h
    have hfirst : y.nextResult = listed e := h 0
    rw [hfirst] at hflag
    exact absurd hflag (by simp [listed])

/-- A directory with one file in it: the first call already says that there is no entry left. -/
theorem scandir_next_loses_listing :
    ¬ ScanComplete [⟨"a", .file⟩]
      ((FsReq.fresh ⟨"", .unknown⟩).scandirSync "d" 0 (.performed 1 (.entries [⟨"a", .file⟩]))).2 := by
  intro h
  have hfirst : nextResult _ = listed ⟨"a", .file⟩ := scanComplete_iff.mp h 0
  exact absurd hfirst (by decide)

/-- The statement for the directory with one file. -/
theorem scandir_complete_iff_one_file :
    ScanComplete [⟨"a", .file⟩]
        ((FsReq.fresh ⟨"", .unknown⟩).scandirSync "d" 0 (.performed 1 (.entries [⟨"a", .file⟩]))).2 ↔
      [(⟨"a", .file⟩ : Dirent)] = [] ∧ ((0 : Int) ≤ 1 ∨ (1 : Int) = uvEof) := by
  have hout : (FsOutcome.performed 1 (.entries [⟨"a", .file⟩])).Valid (.scandir "d" 0) := by decide
  have hscan : (FsReq.fresh ⟨"", .unknown⟩).scanned .sync "d" 0
      (.performed 1 (.entries [⟨"a", .file⟩])) = some _ := rfl
  exact scandir_complete_iff hout hscan

end FsReq

end Uvw
