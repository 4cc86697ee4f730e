import Uvw.Foundation.InsertionMap
import Uvw.Foundation.StablePartition
import Uvw.Process

/-!
# The stdio table of a process

`process_handle::stdio` collects what the child process is to find behind its descriptors: file
descriptors in one vector, where a later call for a descriptor replaces an earlier one, and streams in
another.  `spawn` puts the two one behind the other, and libuv makes entry `i` of the result descriptor
`i` of the child.

The search for an earlier descriptor compares by `uv_type_wrapper::operator==`, the member, which
compares the values: overload resolution prefers it to the template of the same name beside the class,
which negates.  So the vector of file descriptors is an `InsertionMap` (`foldl_poFdStdio`),
from which `stdio_table_is_insertion_map` reads off the table.  `stdio_descriptor_numbers` says which
descriptor of the child each call determines.
-/

namespace Uvw

/-! ## Registrations -/

namespace ProcessCall

/-- The descriptor a call registers, with its flags. -/
def registration? : ProcessCall → Option (Int × UInt32)
  | stdio fd f => some (fd, f)
  | _ => none

/-- The stream a call registers. -/
def stream? : ProcessCall → Option StreamStdio
  | stdioStream stream f => some { flags := f, stream }
  | _ => none

/-- The entry a call asks for. -/
def entry? : ProcessCall → Option UvStdioContainer
  | stdio fd f => some (.fd { flags := f, fd })
  | stdioStream stream f => some (.stream { flags := f, stream })
  | _ => none

end ProcessCall

/-- The descriptors registered, with their flags, in call order. -/
def registrations (calls : List ProcessCall) : List (Int × UInt32) :=
  calls.filterMap ProcessCall.registration?

/-- The streams registered, in call order. -/
def streamEntries (calls : List ProcessCall) : List StreamStdio := calls.filterMap ProcessCall.stream?

/-- What the calls of `stdio` ask for, in call order. -/
def stdioEntries (calls : List ProcessCall) : List UvStdioContainer :=
  calls.filterMap ProcessCall.entry?

/-- The flags of the last registration of a descriptor. -/
def lastFlags (fd : Int) (calls : List ProcessCall) : Option UInt32 :=
  History.latest (fun r => if r.1 = fd then some r.2 else none) (registrations calls)

/-- Every registered descriptor once, in the order of the first registrations, with the flags of the
last; all of them have such flags. -/
def descriptorEntries (calls : List ProcessCall) : List FdStdio :=
  ((registrations calls).map Prod.fst).eraseDups.map fun fd =>
    { flags := (lastFlags fd calls).getD 0, fd }

/-- An entry of a map from descriptors to flags. -/
def FdStdio.ofEntry (e : Int × UInt32) : FdStdio := { flags := e.2, fd := e.1 }

namespace ProcessHandle

variable {h : ProcessHandle} {m : InsertionMap Int UInt32}

/-- **Refinement**: the search and the assignment, or the `push_back`, insert into the map. -/
lemma stdio_poFdStdio (hm : h.poFdStdio = m.entries.map .ofEntry) (fd : Int) (f : UInt32) :
    (h.stdio fd f).poFdStdio = (m.insert fd f).entries.map .ofEntry := by
  have hput : (m.insert fd f).entries = InsertionMap.put fd f m.entries := rfl
  have hsearch : (h.poFdStdio.findIdx? fun container => decide (container.fd = fd)) =
      m.entries.findIdx? fun e => decide (e.1 = fd) := by
    rw [hm, List.findIdx?_map]
    rfl
  rw [hput, ← InsertionMap.findIdx_set_eq_put, stdio, hsearch]
  cases m.entries.findIdx? fun e => decide (e.1 = fd) with
  | none =>
    show h.poFdStdio ++ [_] = _
    rw [hm, List.map_append]
    rfl
  | some i =>
    show h.poFdStdio.set i _ = _
    rw [hm, List.map_set]
    rfl

/-- The vector of file descriptors after some calls. -/
lemma foldl_poFdStdio (hm : h.poFdStdio = m.entries.map .ofEntry) (calls : List ProcessCall) :
    (calls.foldl apply h).poFdStdio = (m.insertAll (registrations calls)).entries.map .ofEntry := by
  induction calls generalizing h m with
  | nil => exact hm
  | cons c calls ih =>
    cases c with
    | stdio fd f => exact ih (stdio_poFdStdio hm fd f)
    | _ => exact ih hm

lemma stdio_poStreamStdio (h : ProcessHandle) (fd : Int) (f : UInt32) :
    (h.stdio fd f).poStreamStdio = h.poStreamStdio := by
  unfold stdio
  split <;> rfl

/-- The vector of streams after some calls. -/
lemma foldl_poStreamStdio (h : ProcessHandle) (calls : List ProcessCall) :
    (calls.foldl apply h).poStreamStdio = h.poStreamStdio ++ streamEntries calls := by
  induction calls generalizing h with
  | nil => exact (List.append_nil _).symm
  | cons c calls ih =>
    rw [List.foldl_cons, ih]
    cases c with
    | stdio fd f => rw [apply, stdio_poStreamStdio]; rfl
    | stdioStream stream f =>
      show h.poStreamStdio ++ [_] ++ _ = _
      rw [List.append_assoc]
      rfl
    | _ => rfl

/-- The map the vector of file descriptors stands for. -/
lemma insertAll_entries (calls : List ProcessCall) :
    (InsertionMap.empty.insertAll (registrations calls)).entries.map .ofEntry =
      descriptorEntries calls := by
  rw [InsertionMap.entries_eq _ 0, InsertionMap.keys_insertAll, List.map_map, descriptorEntries]
  refine List.map_congr_left fun fd _ => ?_
  show FdStdio.mk (((InsertionMap.empty.insertAll (registrations calls)).lookup fd).getD 0) fd = _
  rw [InsertionMap.lookup_insertAll]
  rfl

variable (mem : ProcessMemory) (calls : List ProcessCall) (a : SpawnArgs)

/-- **The table** given to `uv_spawn`: the descriptors, then the streams. -/
lemma options_stdio : (options mem calls a).stdio =
    (descriptorEntries calls).map .fd ++ (streamEntries calls).map .stream := by
  have hfd : (calls.foldl apply (construct mem)).poFdStdio = descriptorEntries calls :=
    (foldl_poFdStdio (m := .empty) rfl calls).trans (insertAll_entries calls)
  have hstream : (calls.foldl apply (construct mem)).poStreamStdio = streamEntries calls :=
    foldl_poStreamStdio (construct mem) calls
  rw [options, spawn, hfd, hstream]

/-- `stdio_count` is an `int`. -/
lemma options_stdioCount : (options mem calls a).stdioCount =
    ((options mem calls a).stdio.length : Int).bmod (2 ^ 32) := by
  rw [options, spawn]

lemma stdioCount_eq_iff : (options mem calls a).stdioCount = (options mem calls a).stdio.length ↔
    (options mem calls a).stdio.length < 2 ^ 31 := by
  rw [options_stdioCount]
  generalize (options mem calls a).stdio.length = n
  constructor
  · intro heq
    have hlt : (n : Int).bmod (2 ^ 32) < (((2 ^ 32 : ℕ) : Int) + 1) / 2 := Int.bmod_lt (by decide)
    omega
  · intro hlt
    exact Int.bmod_eq_of_le (by omega) (by omega)

/-- One descriptor more: its entry is assigned to where it is, or appended. -/
lemma descriptorEntries_append (fd : Int) (f : UInt32) :
    descriptorEntries (calls ++ [.stdio fd f]) =
      if ∃ c ∈ descriptorEntries calls, c.fd = fd then
        (descriptorEntries calls).map fun c => if c.fd = fd then { flags := f, fd } else c
      else descriptorEntries calls ++ [{ flags := f, fd }] := by
  have hregs : registrations (calls ++ [.stdio fd f]) = registrations calls ++ [(fd, f)] :=
    List.filterMap_append
  rw [← insertAll_entries (calls ++ _), hregs, InsertionMap.insertAll_append, ← insertAll_entries]
  generalize InsertionMap.empty.insertAll (registrations calls) = m
  have hmem : (∃ c ∈ m.entries.map FdStdio.ofEntry, c.fd = fd) ↔ fd ∈ m.entries.map Prod.fst := by
    constructor
    · rintro ⟨c, hc, rfl⟩
      obtain ⟨e, he, rfl⟩ := List.mem_map.mp hc
      exact List.mem_map.mpr ⟨e, he, rfl⟩
    · intro hfd
      obtain ⟨e, he, rfl⟩ := List.mem_map.mp hfd
      exact ⟨.ofEntry e, List.mem_map.mpr ⟨e, he, rfl⟩, rfl⟩
  show (InsertionMap.put fd f m.entries).map FdStdio.ofEntry = _
  split
  next hfd =>
    rw [InsertionMap.put_of_mem (hmem.mp hfd) m.nodup, List.map_map, List.map_map]
    refine List.map_congr_left fun e _ => ?_
    show FdStdio.ofEntry (if e.1 = fd then (fd, f) else e) = if e.1 = fd then _ else _
    rw [apply_ite FdStdio.ofEntry]
    rfl
  next hfd =>
    rw [InsertionMap.put_of_not_mem (hfd ∘ hmem.mpr), List.map_append]
    rfl

lemma le_length_stdio_replicate (n : ℕ) :
    n ≤ (options mem (List.replicate n (.stdioStream 0 0)) a).stdio.length := by
  have hstreams : streamEntries (List.replicate n (.stdioStream 0 0)) = List.replicate n ⟨0, 0⟩ :=
    List.filterMap_replicate_of_some rfl
  have hlength : ((List.replicate n ⟨0, 0⟩).map UvStdioContainer.stream).length = n := by
    rw [List.length_map, List.length_replicate]
  rw [options_stdio, hstreams, List.length_append, hlength]
  exact Nat.le_add_left n _

end ProcessHandle

/-- **Registrations behave like a map in the order of insertion**: the table given to `uv_spawn` holds
every registered descriptor once, in the order of the first registrations and with the flags of the last,
then every registered stream, in call order; one more call of `stdio` for a descriptor assigns to its
entry, or appends one to those of the descriptors, and changes nothing else; and `stdio_count` is the
number of entries exactly if that is less than 2^31. -/
theorem stdio_table_is_insertion_map (mem : ProcessMemory) (calls : List ProcessCall) (a : SpawnArgs) :
    (ProcessHandle.options mem calls a).stdio =
        (descriptorEntries calls).map .fd ++ (streamEntries calls).map .stream ∧
      (∀ fd f, (ProcessHandle.options mem (calls ++ [.stdio fd f]) a).stdio =
        (if ∃ c ∈ descriptorEntries calls, c.fd = fd then
          (descriptorEntries calls).map fun c => if c.fd = fd then { flags := f, fd } else c
        else descriptorEntries calls ++ [{ flags := f, fd }]).map .fd ++
          (streamEntries calls).map .stream) ∧
      ((ProcessHandle.options mem calls a).stdioCount = (ProcessHandle.options mem calls a).stdio.length ↔
        (ProcessHandle.options mem calls a).stdio.length < 2 ^ 31) := by
  refine ⟨ProcessHandle.options_stdio mem calls a, fun fd f => ?_,
    ProcessHandle.stdioCount_eq_iff mem calls a⟩
  have hstreams : streamEntries (calls ++ [.stdio fd f]) = streamEntries calls := by
    rw [streamEntries, List.filterMap_append]
    exact List.append_nil _
  rw [ProcessHandle.options_stdio, hstreams, ProcessHandle.descriptorEntries_append]

/-- With 2^31 streams the count is negative. -/
theorem stdio_count_overflows :
    (ProcessHandle.options ⟨0, 0, 0⟩ (List.replicate (2 ^ 31) (.stdioStream 0 0))
        { file := "ls", args := ["ls"], env := none }).stdioCount ≠
      (ProcessHandle.options ⟨0, 0, 0⟩ (List.replicate (2 ^ 31) (.stdioStream 0 0))
        { file := "ls", args := ["ls"], env := none }).stdio.length := by
  rw [Ne, ProcessHandle.stdioCount_eq_iff]
  exact Nat.not_lt.mpr (ProcessHandle.le_length_stdio_replicate _ _ _)

/-! ## Descriptors of the child -/

/-- Whether an entry is a file descriptor's. -/
def UvStdioContainer.isFd : UvStdioContainer → Bool
  | fd _ => true
  | stream _ => false

open StablePartition UvStdioContainer

namespace ProcessHandle

variable {calls : List ProcessCall}

/-- Different descriptors are all in the vector, in call order. -/
lemma descriptorEntries_of_nodup (hdistinct : ((registrations calls).map Prod.fst).Nodup) :
    descriptorEntries calls = (registrations calls).map .ofEntry := by
  rw [← insertAll_entries, InsertionMap.entries_insertAll_of_nodup hdistinct]

lemma filter_stdioEntries (calls : List ProcessCall) :
    (stdioEntries calls).filter isFd = ((registrations calls).map .ofEntry).map .fd := by
  rw [stdioEntries, List.filter_filterMap, registrations, List.map_filterMap, List.map_filterMap]
  congr
  funext c
  cases c <;> rfl

lemma filter_not_stdioEntries (calls : List ProcessCall) :
    (stdioEntries calls).filter (fun e => !isFd e) = (streamEntries calls).map .stream := by
  rw [stdioEntries, List.filter_filterMap, streamEntries, List.map_filterMap]
  congr
  funext c
  cases c <;> rfl

/-- With different descriptors, `spawn` partitions what the calls ask for. -/
lemma options_stdio_of_nodup (mem : ProcessMemory) (a : SpawnArgs)
    (hdistinct : ((registrations calls).map Prod.fst).Nodup) :
    (options mem calls a).stdio = partitioned isFd (stdioEntries calls) := by
  rw [options_stdio, descriptorEntries_of_nodup hdistinct, partitioned, filter_stdioEntries,
    filter_not_stdioEntries]

end ProcessHandle

/-- **Which descriptor of the child a call determines**: of calls for different descriptors, those for
descriptors determine the first ones, in call order, and those for streams the ones after them; call `i`
determines descriptor `i` for every `i` exactly if no descriptor is registered after a stream. -/
theorem stdio_descriptor_numbers (mem : ProcessMemory) (calls : List ProcessCall) (a : SpawnArgs)
    (hdistinct : ((registrations calls).map Prod.fst).Nodup) :
    (∀ (i : ℕ) e, (stdioEntries calls)[i]? = some e →
        (ProcessHandle.options mem calls a).stdio[position isFd (stdioEntries calls) i]? = some e) ∧
      ((∀ (i : ℕ) e, (stdioEntries calls)[i]? = some e →
          (ProcessHandle.options mem calls a).stdio[i]? = some e) ↔
        (stdioEntries calls).Pairwise fun e e' => e'.isFd = true → e.isFd = true) := by
  rw [ProcessHandle.options_stdio_of_nodup mem a hdistinct]
  exact ⟨fun i e hi => getElem?_partitioned hi, getElem?_partitioned_iff.trans partitioned_eq_self_iff⟩

/-- A pipe registered before a descriptor becomes descriptor 1. -/
theorem stdio_descriptor_numbers_pipe :
    (ProcessHandle.options ⟨0, 0, 0⟩ [.stdioStream 7 1, .stdio 1 2]
      { file := "ls", args := ["ls"], env := none }).stdio[1]? =
        some (.stream { flags := 1, stream := 7 }) :=
  (stdio_descriptor_numbers ⟨0, 0, 0⟩ [.stdioStream 7 1, .stdio 1 2]
    { file := "ls", args := ["ls"], env := none } (by decide)).1 0 _ rfl

/-- Of a pipe and a descriptor registered after it, the descriptor comes first. -/
theorem stdio_stream_loses_place :
    (stdioEntries [.stdioStream 7 1, .stdio 1 2])[0]? = some (.stream { flags := 1, stream := 7 }) ∧
      (ProcessHandle.options ⟨0, 0, 0⟩ [.stdioStream 7 1, .stdio 1 2]
        { file := "ls", args := ["ls"], env := none }).stdio[0]? = some (.fd { flags := 2, fd := 1 }) := by
  decide

end Uvw
