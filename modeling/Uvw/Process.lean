import Mathlib.Algebra.Group.Nat.Defs
import Mathlib.Data.Int.DivMod
import Mathlib.Data.List.Basic
import Mathlib.Tactic.Common
import Uvw.Foundation.History

/-!
# The options of a spawned process

A `process_handle` collects the options of the process in members that its setters assign, and `spawn`
copies them into the `uv_process_options_t` it hands to `uv_spawn`.  The constructor initialises the
strings and vectors among the members, but not `po_flags`, `po_uid` and `po_gid`: these hold what was
in the memory before.  `spawn_options_determined_iff` says that the options depend on the calls alone
exactly if all three were set.
-/

namespace Uvw

/-! ## The handle -/

/-- A `uv_stdio_container_t` for a file descriptor. -/
structure FdStdio where
  flags : UInt32
  fd : Int
deriving DecidableEq, Repr

/-- A `uv_stdio_container_t` for a stream. -/
structure StreamStdio where
  flags : UInt32
  stream : ℕ
deriving DecidableEq, Repr

/-- A `uv_stdio_container_t`. -/
inductive UvStdioContainer
  | fd (c : FdStdio)
  | stream (c : StreamStdio)
deriving DecidableEq, Repr

/-- The members of a `process_handle` that hold the options. -/
structure ProcessHandle where
  poCwd : String
  poFlags : UInt32
  poFdStdio : List FdStdio
  poStreamStdio : List StreamStdio
  poUid : UInt32
  poGid : UInt32
deriving DecidableEq, Repr

/-- What is in the memory a handle is constructed in, where the members of class type are not. -/
structure ProcessMemory where
  flags : UInt32
  uid : UInt32
  gid : UInt32
deriving DecidableEq, Repr

/-- The setters of a `process_handle`. -/
inductive ProcessCall
  | cwd (path : String)
  | flags (flags : UInt32)
  | stdioStream (stream : ℕ) (flags : UInt32)
  | stdio (fd : Int) (flags : UInt32)
  | uid (id : UInt32)
  | gid (id : UInt32)
deriving DecidableEq, Repr

/-- The arguments of `spawn`. -/
structure SpawnArgs where
  file : String
  args : List String
  env : Option (List String)
deriving DecidableEq, Repr

/-- A `uv_process_options_t`, without the exit callback, which is always the same. -/
structure UvProcessOptions where
  file : String
  args : List String
  env : Option (List String)
  cwd : Option String
  flags : UInt32
  stdioCount : Int
  stdio : List UvStdioContainer
  uid : UInt32
  gid : UInt32
deriving DecidableEq, Repr

namespace ProcessHandle

/-- The constructor: members of class type are initialised, the others keep what is in the memory. -/
def construct (mem : ProcessMemory) : ProcessHandle where
  poCwd := ""
  poFlags := mem.flags
  poFdStdio := []
  poStreamStdio := []
  poUid := mem.uid
  poGid := mem.gid

variable (h : ProcessHandle)

def cwd (path : String) : ProcessHandle := { h with poCwd := path }

def flags (flags : UInt32) : ProcessHandle := { h with poFlags := flags }

/-- `process_handle::stdio` for a stream. -/
def stdioStream (stream : ℕ) (flags : UInt32) : ProcessHandle :=
  { h with poStreamStdio := h.poStreamStdio ++ [{ flags, stream }] }

/-- `process_handle::stdio` for a file descriptor, which replaces an earlier one for the same
descriptor. -/
def stdio (fd : Int) (flags : UInt32) : ProcessHandle :=
  match h.poFdStdio.findIdx? fun container => decide (container.fd = fd) with
  | none => { h with poFdStdio := h.poFdStdio ++ [{ flags, fd }] }
  | some it => { h with poFdStdio := h.poFdStdio.set it { flags, fd } }

def uid (id : UInt32) : ProcessHandle := { h with poUid := id }

def gid (id : UInt32) : ProcessHandle := { h with poGid := id }

/-- Calling a setter. -/
def apply (h : ProcessHandle) : ProcessCall → ProcessHandle
  | .cwd path => h.cwd path
  | .flags f => h.flags f
  | .stdioStream stream f => h.stdioStream stream f
  | .stdio fd f => h.stdio fd f
  | .uid id => h.uid id
  | .gid id => h.gid id

/-- `process_handle::spawn` up to its call of `uv_spawn`: the options it passes. -/
def spawn (a : SpawnArgs) : UvProcessOptions :=
  let poStdio := h.poFdStdio.map .fd ++ h.poStreamStdio.map .stream
  { file := a.file
    args := a.args
    env := a.env
    cwd := if h.poCwd.isEmpty then none else some h.poCwd
    flags := h.poFlags
    stdioCount := (poStdio.length : Int).bmod (2 ^ 32)
    stdio := poStdio
    uid := h.poUid
    gid := h.poGid }

/-- The options `spawn` passes after the calls on a handle constructed in the given memory. -/
def options (mem : ProcessMemory) (calls : List ProcessCall) (a : SpawnArgs) : UvProcessOptions :=
  (calls.foldl apply (construct mem)).spawn a

end ProcessHandle

namespace ProcessCall

/-- The value a call gives to `flags`. -/
def flags? : ProcessCall → Option UInt32
  | flags f => some f
  | _ => none

/-- The value a call gives to `uid`. -/
def uid? : ProcessCall → Option UInt32
  | uid id => some id
  | _ => none

/-- The value a call gives to `gid`. -/
def gid? : ProcessCall → Option UInt32
  | gid id => some id
  | _ => none

end ProcessCall

/-- The options are determined by the calls made: they do not depend on the memory the handle was
constructed in, and the flags are the last ones given, or empty. -/
structure OptionsDetermined (calls : List ProcessCall) (a : SpawnArgs) : Prop where
  same : ∀ mem mem', ProcessHandle.options mem calls a = ProcessHandle.options mem' calls a
  flags : ∀ mem, (ProcessHandle.options mem calls a).flags =
    (calls.filterMap ProcessCall.flags?).getLast?.getD 0

/-- The members the constructor leaves alone were all set. -/
structure AllSet (calls : List ProcessCall) : Prop where
  flags : ∃ c ∈ calls, c.flags?.isSome = true
  uid : ∃ c ∈ calls, c.uid?.isSome = true
  gid : ∃ c ∈ calls, c.gid?.isSome = true

/-! ## Members and their last values -/

section LastGiven

variable {σ α β : Type*} {apply : σ → α → σ} {get : σ → β} {given : α → Option β}

/-- A member that a call sets to the value it gives, or leaves alone, holds the last value given. -/
lemma foldl_lastGiven (h : ∀ s a, get (apply s a) = (given a).getD (get s)) (s : σ) (as : List α) :
    get (as.foldl apply s) = (History.latest given as).getD (get s) := by
  induction as using List.reverseRecOn with
  | nil => rfl
  | append_singleton as a ih =>
    rw [List.foldl_append, List.foldl_cons, List.foldl_nil, h, ih, History.latest_append_getD]

/-- The member does not depend on what it was first exactly if it was given a value. -/
lemma lastGiven_const_iff [Nontrivial β] {as : List α} :
    (∀ b b', (as.filterMap given).getLast?.getD b = (as.filterMap given).getLast?.getD b') ↔
      ∃ a ∈ as, (given a).isSome = true := by
  constructor
  · intro hconst
    by_contra hnone
    have hempty : as.filterMap given = [] := by
      rw [List.filterMap_eq_nil_iff]
      intro a ha
      exact Option.not_isSome_iff_eq_none.mp fun hsome => hnone ⟨a, ha, hsome⟩
    obtain ⟨b, b', hne⟩ := exists_pair_ne β
    have heq := hconst b b'
    rw [hempty] at heq
    exact hne heq
  · rintro ⟨a, ha, hsome⟩ b b'
    obtain ⟨c, hc⟩ := Option.isSome_iff_exists.mp hsome
    have hmem : c ∈ as.filterMap given := List.mem_filterMap.mpr ⟨a, ha, hc⟩
    cases hlast : (as.filterMap given).getLast? with
    | none =>
      rw [List.getLast?_eq_none_iff] at hlast
      rw [hlast] at hmem
      exact absurd hmem List.not_mem_nil
    | some d => rfl

end LastGiven

namespace ProcessHandle

variable {h h' : ProcessHandle} (calls : List ProcessCall)

/-- `stdio` for a file descriptor only assigns the vector of file descriptors. -/
lemma stdio_members (h : ProcessHandle) (fd : Int) (f : UInt32) :
    (h.stdio fd f).poFlags = h.poFlags ∧ (h.stdio fd f).poUid = h.poUid ∧
      (h.stdio fd f).poGid = h.poGid := by
  unfold stdio
  split
  · exact ⟨rfl, rfl, rfl⟩
  · exact ⟨rfl, rfl, rfl⟩

/-- A call sets the flags or keeps them; -/
lemma apply_poFlags (h : ProcessHandle) (c : ProcessCall) :
    (h.apply c).poFlags = c.flags?.getD h.poFlags := by
  cases c with
  | stdio fd f => exact (h.stdio_members fd f).1
  | _ => rfl

/-- the user id, -/
lemma apply_poUid (h : ProcessHandle) (c : ProcessCall) :
    (h.apply c).poUid = c.uid?.getD h.poUid := by
  cases c with
  | stdio fd f => exact (h.stdio_members fd f).2.1
  | _ => rfl

/-- and the group id likewise. -/
lemma apply_poGid (h : ProcessHandle) (c : ProcessCall) :
    (h.apply c).poGid = c.gid?.getD h.poGid := by
  cases c with
  | stdio fd f => exact (h.stdio_members fd f).2.2
  | _ => rfl

/-- Two handles that agree on the members the constructor initialises. -/
structure Agree (h h' : ProcessHandle) : Prop where
  cwd : h.poCwd = h'.poCwd
  fdStdio : h.poFdStdio = h'.poFdStdio
  streamStdio : h.poStreamStdio = h'.poStreamStdio

/-- No setter makes an initialised member depend on another one. -/
lemma Agree.apply (hagree : Agree h h') (c : ProcessCall) : Agree (h.apply c) (h'.apply c) := by
  obtain ⟨hcwd, hfd, hstream⟩ := hagree
  cases c with
  | cwd path => exact ⟨rfl, hfd, hstream⟩
  | stdioStream stream f =>
    refine ⟨hcwd, hfd, ?_⟩
    show h.poStreamStdio ++ [⟨f, stream⟩] = h'.poStreamStdio ++ [⟨f, stream⟩]
    rw [hstream]
  | stdio fd f =>
    show Agree (h.stdio fd f) (h'.stdio fd f)
    unfold stdio
    rw [hfd]
    split
    · exact ⟨hcwd, rfl, hstream⟩
    · exact ⟨hcwd, rfl, hstream⟩
  | _ => exact ⟨hcwd, hfd, hstream⟩

/-- Handles that agree do so after the same calls. -/
lemma Agree.foldl (hagree : Agree h h') :
    Agree (calls.foldl ProcessHandle.apply h) (calls.foldl ProcessHandle.apply h') := by
  induction calls generalizing h h' with
  | nil => exact hagree
  | cons c calls ih => exact ih (hagree.apply c)

variable (mem : ProcessMemory) (a : SpawnArgs)

/-- The options get the flags that were set last, -/
lemma options_flags : (options mem calls a).flags =
    (calls.filterMap ProcessCall.flags?).getLast?.getD mem.flags :=
  foldl_lastGiven apply_poFlags (construct mem) calls

/-- the user id -/
lemma options_uid : (options mem calls a).uid =
    (calls.filterMap ProcessCall.uid?).getLast?.getD mem.uid :=
  foldl_lastGiven apply_poUid (construct mem) calls

/-- and the group id, or what the memory of the handle holds. -/
lemma options_gid : (options mem calls a).gid =
    (calls.filterMap ProcessCall.gid?).getLast?.getD mem.gid :=
  foldl_lastGiven apply_poGid (construct mem) calls

/-- The options of two handles that received the same calls differ at most in `flags`, `uid` and
`gid`. -/
lemma options_eq_iff (mem' : ProcessMemory) :
    options mem calls a = options mem' calls a ↔
      (options mem calls a).flags = (options mem' calls a).flags ∧
        (options mem calls a).uid = (options mem' calls a).uid ∧
          (options mem calls a).gid = (options mem' calls a).gid := by
  constructor
  · intro heq
    rw [heq]
    exact ⟨rfl, rfl, rfl⟩
  · rintro ⟨hflags, huid, hgid⟩
    have hagree : Agree (construct mem) (construct mem') := ⟨rfl, rfl, rfl⟩
    obtain ⟨hcwd, hfd, hstream⟩ := Agree.foldl calls hagree
    unfold options spawn at hflags huid hgid ⊢
    simp only at hflags huid hgid ⊢
    rw [hcwd, hfd, hstream, hflags, huid, hgid]

end ProcessHandle

/-! ## When the options are determined -/

instance nontrivialUInt32 : Nontrivial UInt32 := ⟨0, 1, by decide⟩

/-- **When the options of a spawned process are determined by the calls made**: the options `spawn`
passes after a sequence of setter calls do not depend on what the memory of the handle contained, and
their flags are the last ones given or empty, exactly when `flags`, `uid` and `gid` were all called. -/
theorem spawn_options_determined_iff (calls : List ProcessCall) (a : SpawnArgs) :
    OptionsDetermined calls a ↔ AllSet calls := by
  constructor
  · intro hdet
    have hfields := fun mem mem' =>
      (ProcessHandle.options_eq_iff calls mem a mem').mp (hdet.same mem mem')
    simp only [ProcessHandle.options_flags, ProcessHandle.options_uid,
      ProcessHandle.options_gid] at hfields
    refine ⟨lastGiven_const_iff.mp fun b b' => ?_, lastGiven_const_iff.mp fun b b' => ?_,
      lastGiven_const_iff.mp fun b b' => ?_⟩
    · exact (hfields ⟨b, 0, 0⟩ ⟨b', 0, 0⟩).1
    · exact (hfields ⟨0, b, 0⟩ ⟨0, b', 0⟩).2.1
    · exact (hfields ⟨0, 0, b⟩ ⟨0, 0, b'⟩).2.2
  · rintro ⟨hflags, huid, hgid⟩
    refine ⟨fun mem mem' => ?_, fun mem => ?_⟩
    · rw [ProcessHandle.options_eq_iff]
      simp only [ProcessHandle.options_flags, ProcessHandle.options_uid, ProcessHandle.options_gid]
      exact ⟨lastGiven_const_iff.mpr hflags _ _, lastGiven_const_iff.mpr huid _ _,
        lastGiven_const_iff.mpr hgid _ _⟩
    · rw [ProcessHandle.options_flags]
      exact lastGiven_const_iff.mpr hflags _ _

/-- A handle on which nothing was called passes the flags that happened to be in its memory. -/
theorem spawn_options_not_determined :
    ¬ OptionsDetermined [] { file := "ls", args := ["ls"], env := none } := by
  intro hdet
  exact absurd (hdet.flags { flags := 1, uid := 0, gid := 0 }) (by decide)

end Uvw
