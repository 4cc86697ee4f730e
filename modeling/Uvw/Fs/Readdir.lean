import Uvw.Foundation.Iteration
import Uvw.Fs.Answers

/-!
# Reading a directory entry by entry

The loop `while(req->readdir_sync().first)` and its asynchronous counterpart, a listener that calls
`readdir` again after every entry, on a directory stream that `opendir_sync` has put in the request.
What `uv_fs_readdir` meets is a list of `ReaddirOutcome`.  The flag of `readdir_sync` is
`req->result != 0`, which an error satisfies as well: `readdir_exact_iff` says that the iteration is
right exactly if no error comes before the end of the stream.
-/

namespace Uvw

open Iteration

/-- What a call of `uv_fs_readdir` on an open directory meets. -/
inductive ReaddirOutcome
  /-- An entry is read. -/
  | entry (e : Dirent)
  /-- The end of the stream. -/
  | eos
  | error (code : Int) (negative : code < 0)
deriving DecidableEq

namespace ReaddirOutcome

/-- What libuv makes of it. -/
def outcome : ReaddirOutcome → FsOutcome
  | entry e => .performed 1 (.dirent e)
  | eos => .performed 0 .none
  | error code _ => .performed code .none

/-- An entry is read. -/
def isEntry : ReaddirOutcome → Bool
  | entry _ => true
  | _ => false

/-- The entries read before the stream ends or an error occurs. -/
def entriesRead : List ReaddirOutcome → List Dirent
  | entry e :: os => e :: entriesRead os
  | _ => []

/-- The flag of `readdir_sync`. -/
def flag : ReaddirOutcome → Bool
  | eos => false
  | _ => true

lemma outcome_valid (o : ReaddirOutcome) (dir : UvDir) : o.outcome.Valid (.readdir dir) := by
  cases o with
  | entry e => simp [outcome, FsOutcome.Valid, FsPayload.fits]
  | eos => simp [outcome, FsOutcome.Valid, FsPayload.fits]
  | error code negative => simp [outcome, FsOutcome.Valid, negative]

end ReaddirOutcome

namespace FsReq

/-- What `readdir_sync` returns for an entry. -/
def entryRead (e : Dirent) : Bool × DirentType × String := (true, e.type, e.name)

/-- `readdir_sync` on what `uv_fs_readdir` meets. -/
def readdirSyncCall (x : FsReq) (o : ReaddirOutcome) :
    Option ((Bool × DirentType × String) × FsReq) :=
  x.readdirSync o.outcome

/-- `readdir` on what `uv_fs_readdir` meets, with the events published. -/
def readdirCall (x : FsReq) (o : ReaddirOutcome) : Option (List FsPublished × FsReq) :=
  FsClass.fs.answer x .readdir o.outcome

/-- What the events published for a `readdir` tell: an entry, the end of the stream through
`dirent.eos`, or an error. -/
def told : List FsPublished → Option ReaddirOutcome
  | [.error code] => if negative : code < 0 then some (.error code negative) else none
  | [.fs ev] =>
    ev.dirent.map fun d => if d.2.2 then .eos else .entry { name := d.1, type := d.2.1 }
  | _ => none

/-- The events tell of an entry, so that the listener calls `readdir` again. -/
def tellsEntry (o : Option ReaddirOutcome) : Bool := o.any ReaddirOutcome.isEntry

/-- The iteration over a directory stream is exact: the loop runs once for each entry read, in order
and with its name and type, and stops at the end of the stream or at an error; the events of the
asynchronous one tell of the same entries and then of the end or of the error. -/
structure ReaddirExact (x : FsReq) (os : List ReaddirOutcome) : Prop where
  sync : whileLoop readdirSyncCall (·.1) x os =
    some ((ReaddirOutcome.entriesRead os).map entryRead, os.any fun o => !o.isEntry)
  async : (untilLoop readdirCall (fun ps => tellsEntry (told ps)) x os).map (List.map told) =
    some ((upToLast ReaddirOutcome.isEntry os).map some)

/-- No error comes before the end of the stream: the first call that reads no entry, if any, is at
the end. -/
def NoErrorBeforeEnd (os : List ReaddirOutcome) : Prop :=
  ∀ o, os.find? (fun o => !o.isEntry) = some o → o = .eos

variable {x : FsReq}

/-! ### One call -/

/-- A successful `opendir_sync` puts the stream in the request. -/
lemma opendirSync_dir (path : String) (result : Int) (dir : UvDir) :
    (x.opendirSync path (.performed result (.dir dir))).2.raw.dir = some dir := rfl

/-- What one call of `readdir_sync` returns: the entry, or what the last entry has left behind. -/
lemma readdirSync_spec (o : ReaddirOutcome) (h : x.raw.dir.isSome = true) :
    ∃ r y, x.readdirSyncCall o = some (r, y) ∧
      (r.1 = o.flag ∧ ∀ e, o = .entry e → r = entryRead e) ∧ y.raw.dir.isSome = true := by
  obtain ⟨dir, hdir⟩ := Option.isSome_iff_exists.mp h
  rw [readdirSyncCall, readdirSync, hdir, Option.map_some]
  refine ⟨_, _, rfl, ⟨?_, ?_⟩, ?_⟩
  · cases o with
    | entry e => rfl
    | eos => rfl
    | error code negative =>
      have hne : code ≠ 0 := Int.ne_of_lt negative
      exact decide_eq_true hne
  · rintro e rfl
    rfl
  · cases o <;> rfl

/-- One call of `readdir` is answered by one event, which tells what was met. -/
lemma readdir_spec (o : ReaddirOutcome) (h : x.raw.dir.isSome = true) :
    ∃ ps y, x.readdirCall o = some (ps, y) ∧ told ps = some o ∧ y.raw.dir.isSome = true := by
  obtain ⟨dir, hdir⟩ := Option.isSome_iff_exists.mp h
  have hissue : FsClass.fs.issue .readdir x =
      some (x.issue (.readdir (bindDirents dir)) .fsRequest) := by
    show x.readdir = _
    rw [readdir, hdir, Option.map_some]
  rw [readdirCall, FsClass.answer, hissue, Option.bind_some]
  cases o with
  | entry e => exact ⟨_, _, rfl, rfl, rfl⟩
  | eos => exact ⟨_, _, rfl, rfl, rfl⟩
  | error code negative =>
    let y : FsReq := FsClass.fs.done (.readdir (bindDirents dir)) code .none
      (x.issue (.readdir (bindDirents dir)) .fsRequest).accept
    have hneg : y.raw.result < 0 := negative
    have hanswer : fsRequestCallback y = some (.error code, y.reserve) :=
      FsRequest.answer_of_neg _ _ _ hneg
    refine ⟨[.error code], y.reserve, ?_, ?_, rfl⟩
    · exact congrArg (Option.map fun p => ([p.1], p.2)) hanswer
    · rw [told, dif_pos negative]

/-! ### The whole iteration -/

/-- The events of the asynchronous iteration always tell what was met. -/
lemma readdir_untilLoop (h : x.raw.dir.isSome = true) (os : List ReaddirOutcome) :
    (untilLoop readdirCall (fun ps => tellsEntry (told ps)) x os).map (List.map told) =
      some ((upToLast ReaddirOutcome.isEntry os).map some) := by
  obtain ⟨pss, hpss, htold⟩ := calls_of_invariant (I := fun y : FsReq => y.raw.dir.isSome = true)
    (R := fun o ps => told ps = some o) (fun y o hy => readdir_spec o hy) h os
  have hmap : pss.map told = os.map some := by
    clear hpss
    induction htold with
    | nil => rfl
    | cons ho _ ih => rw [List.map_cons, List.map_cons, ho, ih]
  rw [untilLoop_eq hpss, Option.map_some, map_upToLast told tellsEntry, hmap,
    ← map_upToLast some tellsEntry]
  rfl

/-- What successive calls of `readdir_sync` return. -/
lemma readdirSync_calls (h : x.raw.dir.isSome = true) (os : List ReaddirOutcome) :
    ∃ rs, calls readdirSyncCall x os = some rs ∧ List.Forall₂
      (fun o r => r.1 = ReaddirOutcome.flag o ∧ ∀ e, o = .entry e → r = entryRead e) os rs :=
  calls_of_invariant (I := fun y : FsReq => y.raw.dir.isSome = true)
    (fun _ o hy => readdirSync_spec o hy) h os

/-- The synchronous loop is right exactly if no error comes before the end. -/
lemma readdirSync_whileLoop (h : x.raw.dir.isSome = true) (os : List ReaddirOutcome) :
    whileLoop readdirSyncCall (·.1) x os =
        some ((ReaddirOutcome.entriesRead os).map entryRead, os.any fun o => !o.isEntry) ↔
      NoErrorBeforeEnd os := by
  obtain ⟨rs, hrs, hresults⟩ := readdirSync_calls h os
  rw [whileLoop_eq hrs, Option.some.injEq]
  clear hrs
  induction hresults with
  | nil => simp [ReaddirOutcome.entriesRead, NoErrorBeforeEnd]
  | @cons o r os rs hr hrest ih =>
    obtain ⟨hflag, hentry⟩ := hr
    cases o with
    | entry e =>
      obtain rfl := hentry e rfl
      simpa [ReaddirOutcome.entriesRead, NoErrorBeforeEnd, ReaddirOutcome.isEntry, entryRead]
        using ih
    | eos =>
      have hstop : r.1 = false := hflag
      simp [ReaddirOutcome.entriesRead, NoErrorBeforeEnd, ReaddirOutcome.isEntry, hstop]
    | error code negative =>
      -- the loop body runs on the error
      have hgo : r.1 = true := hflag
      simp [ReaddirOutcome.entriesRead, NoErrorBeforeEnd, ReaddirOutcome.isEntry, hgo]

/-- **Which iterations over a directory are exact**: after `opendir_sync`, whatever the calls of
`uv_fs_readdir` meet, the `while` loop and the asynchronous iteration read the same entries and stop at
the end of the stream or at an error exactly when no error comes before the end. -/
theorem readdir_exact_iff (x : FsReq) (path : String) (result : Int) (dir : UvDir)
    (os : List ReaddirOutcome) :
    ReaddirExact (x.opendirSync path (.performed result (.dir dir))).2 os ↔ NoErrorBeforeEnd os := by
  have hdir : (x.opendirSync path (.performed result (.dir dir))).2.raw.dir.isSome = true := by
    rw [opendirSync_dir, Option.isSome_some]
  rw [← readdirSync_whileLoop hdir]
  exact ⟨ReaddirExact.sync, fun hsync => ⟨hsync, readdir_untilLoop hdir os⟩⟩

/-- A persistent error keeps the loop going: every failed call is one more iteration. -/
lemma readdirSync_persistent (h : x.raw.dir.isSome = true) {code : Int} (negative : code < 0)
    (n : ℕ) : ∃ rs, whileLoop readdirSyncCall (·.1) x
      (List.replicate n (.error code negative)) = some (rs, false) ∧ rs.length = n := by
  obtain ⟨rs, hrs, hresults⟩ := readdirSync_calls h (List.replicate n (.error code negative))
  obtain ⟨hlength, hall⟩ := forall_mem_of_replicate hresults
  have hgo : ∀ r ∈ rs, r.1 = true := fun r hr => (hall r hr).1
  refine ⟨rs, ?_, hlength⟩
  rw [whileLoop_eq hrs, List.takeWhile_eq_self_iff.mpr hgo]
  have hany : (rs.any fun r => !r.1) = false := by
    rw [List.any_eq_false]
    intro r hr
    simp [hgo r hr]
  rw [hany]

/-- The directory stream fails at once: the loop runs on the error. -/
theorem readdir_error_not_exact :
    ¬ ReaddirExact ((FsReq.fresh ⟨"", .unknown⟩).opendirSync "d" (.performed 0 (.dir ⟨0, false, 0⟩))).2
      [.error (-5) (by decide)] := by
  intro h
  exact absurd h.sync (by decide)

end FsReq

end Uvw
