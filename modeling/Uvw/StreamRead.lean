import Uvw.Buffer
import Uvw.Foundation.Ledger
import Uvw.Foundation.TransitionSystem
import Uvw.Resource

/-!
# Reading from streams

libuv asks an alloc callback for a buffer and reports what became of it to
`stream_handle::read_callback`, which puts `buf->base` into a `unique_ptr` before it looks at `nread`:
the buffer moves into the `data_event`, or is released on return.  The listeners of an event may stop,
restart or close the stream while the callback runs, and move the data of the event away.

`StreamReader` is a stream with its buffers, their owners and the history of its callbacks; `Conserves`
says that buffers and data are conserved, and `stream_reads_conserve` that they are in every run.  The
invariant is that each buffer has one owner: libuv, a listener, or the callback that runs
(`StreamReader.Owned`).
-/

namespace Uvw

open TransitionSystem

/-! ## The callback -/

/-- What `read_callback` publishes. -/
inductive StreamEvent
  | end
  /-- The `unique_ptr` and the length. -/
  | data (data : Option CharPtr) (length : ℕ)
  | error (code : Int)
deriving DecidableEq, Repr

/-- The data moved into the event. -/
def StreamEvent.moved : StreamEvent → Option CharPtr
  | data p _ => p
  | _ => none

/-- What a call of the callback does: the event it publishes and what its local `unique_ptr` still holds
when it returns. -/
structure ReadOutcome where
  event : Option StreamEvent
  data : Option CharPtr
deriving DecidableEq, Repr

/-- `stream_handle::read_callback`. -/
def readCallback (nread : Int) (buf : UvBuf) : ReadOutcome :=
  -- data will be destroyed no matter of what the value of nread is
  let data := buf.base
  if nread = uvEof then { event := some .end, data }
  else if 0 < nread then { event := some (.data data nread.toNat), data := none }
  else if nread < 0 then { event := some (.error (errorCode nread)), data }
  -- nread == 0 is ignored
  else { event := none, data }

/-- The event as the other handles see it. -/
def StreamEvent.toEvent : StreamEvent → Event
  | .end => .end
  | .data _ length => .data length
  | .error code => .error code

/-- What the callback publishes does not depend on the buffer. -/
lemma readCallback_event (nread : Int) (buf : UvBuf) :
    (readCallback nread buf).event.map StreamEvent.toEvent =
      (HandleCallback.streamRead nread).event := by
  unfold readCallback
  rw [HandleCallback.event]
  by_cases heof : nread = uvEof
  · rw [if_pos heof, if_pos heof]
    rfl
  · rw [if_neg heof, if_neg heof]
    by_cases hpos : 0 < nread
    · rw [if_pos hpos, if_pos hpos]
      rfl
    · rw [if_neg hpos, if_neg hpos]
      by_cases hneg : nread < 0
      · rw [if_pos hneg, if_pos hneg]
        rfl
      · rw [if_neg hneg, if_neg hneg]
        rfl

/-! ## The stream -/

/-- The alloc callback libuv was given: that of `read`, or the one of `read<Alloc>`. -/
inductive AllocCallback
  | common
  | custom
deriving DecidableEq, Repr

/-- A call of `read_callback`. -/
structure ReadCall where
  nread : Int
  buf : UvBuf
  /-- What libuv has read into the buffer. -/
  bytes : List UInt8
  events : List StreamEvent
  /-- The bytes the listeners find in the data of the events. -/
  seen : List UInt8
  /-- What the callback itself releases. -/
  freed : Option CharPtr
deriving DecidableEq, Repr

/-- What a call of the callback is to publish. -/
def readEvents (nread : Int) (buf : UvBuf) : List StreamEvent :=
  if 0 < nread then [.data buf.base nread.toNat]
  else if nread = 0 then []
  else if nread = uvEof then [.end]
  else [.error nread]

/-- A call of the callback publishes what it should and releases the buffer unless it has moved into the
event. -/
structure ReadCall.Right (c : ReadCall) : Prop where
  events : c.events = readEvents c.nread c.buf
  freed : c.freed = if 0 < c.nread then none else c.buf.base

/-- A stream that is read from. -/
structure StreamReader where
  reading : Option AllocCallback
  closing : Bool
  buffers : Ledger
  memory : BufferMemory
  /-- The buffer libuv was given and has not reported. -/
  pending : Option UvBuf
  /-- The buffers of the data that listeners have moved away. -/
  held : List ℕ
  log : List ReadCall

/-- What a program does, in a listener or outside: `read` returns the code of `uv_read_start`. -/
inductive StreamCall
  | read (alloc : AllocCallback) (code : Int)
  | stop
  | close
  /-- Data moved away is destroyed. -/
  | destroy (b : ℕ)
deriving DecidableEq, Repr

/-- What happens next; the listeners of a report move its data away or not, and make calls. -/
inductive StreamAction
  | call (c : StreamCall)
  | alloc (suggested : ℕ)
  | allocWith (null : Bool) (size : ℕ)
  | report (nread : Int) (bytes : List UInt8) (keep : Bool) (calls : List StreamCall)
  /-- A report without a buffer. -/
  | reportNull (nread : Int) (calls : List StreamCall)

namespace StreamReader

/-- A new stream; its buffers will hold whatever is in the memory. -/
def start (memory : BufferMemory) : StreamReader :=
  { reading := none, closing := false, buffers := .empty, memory, pending := none, held := [],
    log := [] }

/-- `delete[]`, which does nothing with a null pointer. -/
def delete (s : StreamReader) (p : Option CharPtr) : StreamReader :=
  { s with buffers := s.buffers.releaseAny (p.map CharPtr.buffer) }

/-- A listener moves data away. -/
def hold (s : StreamReader) (p : Option CharPtr) : StreamReader :=
  { s with held := (p.map CharPtr.buffer).toList ++ s.held }

/-- A call of the program; libuv does not start to read from a stream that is closing. -/
def call (s : StreamReader) : StreamCall → Option StreamReader
  | .read alloc code =>
    if code ≠ 0 then some s
    else if s.closing then none
    else some { s with reading := some alloc }
  | .stop => some { s with reading := none }
  | .close => some { s with reading := none, closing := true }
  | .destroy b =>
    if b ∈ s.held then
      some { s with held := s.held.erase b, buffers := s.buffers.release b }
    else none

/-- The bytes of an event. -/
def view (s : StreamReader) : StreamEvent → List UInt8
  | .data (some p) length => s.memory.read p length
  | _ => []

/-- libuv calls the callback: the event is published, its listeners make their calls, its data goes with
it unless they have moved it away, and then what the callback has kept. -/
def deliver (s : StreamReader) (nread : Int) (buf : UvBuf) (bytes : List UInt8) (keep : Bool)
    (calls : List StreamCall) : Option StreamReader :=
  let out := readCallback nread buf
  let events := out.event.toList
  let moved := out.event.bind StreamEvent.moved
  let s := { s with
    log := s.log ++ [{ nread, buf, bytes, events, seen := events.flatMap s.view, freed := out.data }] }
  let s := if keep then s.hold moved else s
  (after call s calls).map fun s => (if keep then s else s.delete moved).delete out.data

/-- What libuv reports of a buffer: some bytes that fit in, nothing, or a code, which is an `int`. -/
def Reportable (nread : Int) (buf : UvBuf) (bytes : List UInt8) : Prop :=
  -2 ^ 31 ≤ nread ∧ bytes.length = nread.toNat ∧ nread ≤ buf.len ∧ (0 < nread → buf.base.isSome = true)

instance (nread : Int) (buf : UvBuf) (bytes : List UInt8) : Decidable (Reportable nread buf bytes) := by
  unfold Reportable; infer_instance

/-- libuv writes bytes into a buffer. -/
def fill (s : StreamReader) (p : Option CharPtr) (bytes : List UInt8) : StreamReader :=
  match p with
  | some p => { s with memory := s.memory.write p bytes }
  | none => s

/-- One action; `none` where it is not possible. -/
def step (s : StreamReader) : StreamAction → Option StreamReader
  | .call c => s.call c
  | .alloc suggested =>
    if s.reading = some .common ∧ s.pending = none then
      some { s with
        buffers := s.buffers.issue
        pending := some (commonAllocCallback s.buffers.issued suggested) }
    else none
  | .allocWith null size =>
    if s.reading = some .custom ∧ s.pending = none then
      some { s with
        buffers := if null then s.buffers else s.buffers.issue
        pending := some (commonAllocCallbackWith s.buffers.issued null size) }
    else none
  | .report nread bytes keep calls =>
    match s.pending with
    | none => none
    | some buf =>
      if Reportable nread buf bytes then
        (({ s with pending := none } : StreamReader).fill buf.base bytes).deliver nread buf bytes
          keep calls
      else none
  | .reportNull nread calls =>
    if Reportable nread ⟨none, 0⟩ [] then s.deliver nread ⟨none, 0⟩ [] false calls else none

/-! ## Conservation -/

/-- libuv or a listener has the buffer. -/
def InUse (s : StreamReader) (b : ℕ) : Prop :=
  (∃ buf, s.pending = some buf ∧ ∃ p, buf.base = some p ∧ p.buffer = b) ∨ b ∈ s.held

/-- Buffers and data are conserved. -/
structure Conserves (s : StreamReader) : Prop where
  /-- A buffer in use has not been released, -/
  in_use : ∀ b, s.InUse b → s.buffers.Outstanding b
  /-- the others have been, once. -/
  released : ∀ b < s.buffers.issued, ¬ s.InUse b → s.buffers.released.count b = 1
  calls : ∀ c ∈ s.log, c.Right
  /-- The listeners have seen what libuv has read. -/
  data : s.log.flatMap ReadCall.seen = s.log.flatMap ReadCall.bytes

/-! ## One owner for each buffer -/

/-- The number of the buffer behind a pointer. -/
def number (p : Option CharPtr) : List ℕ := (p.map CharPtr.buffer).toList

/-- What libuv and the listeners have. -/
def owners (s : StreamReader) : List ℕ := number (s.pending.bind UvBuf.base) ++ s.held

/-- Each buffer has one owner: libuv, a listener, or the callback that runs, which has `locals`. -/
def Owned (s : StreamReader) (locals : List ℕ) : Prop := s.buffers.OwnedBy (locals ++ s.owners)

variable {s t : StreamReader} {locals : List ℕ} {p : Option CharPtr} {nread : Int} {buf : UvBuf}
  {bytes : List UInt8}

lemma mem_number {b : ℕ} : b ∈ number p ↔ ∃ q, p = some q ∧ q.buffer = b := by
  rw [number, Option.mem_toList, Option.map_eq_some_iff]

lemma mem_owners_iff {b : ℕ} : b ∈ s.owners ↔ s.InUse b := by
  rw [owners, List.mem_append, mem_number]
  refine or_congr_left ⟨?_, ?_⟩
  · rintro ⟨q, hq, rfl⟩
    obtain ⟨buf, hpending, hbase⟩ := Option.bind_eq_some_iff.mp hq
    exact ⟨buf, hpending, q, hbase, rfl⟩
  · rintro ⟨buf, hpending, q, hbase, rfl⟩
    exact ⟨q, Option.bind_eq_some_iff.mpr ⟨buf, hpending, hbase⟩, rfl⟩

/-- Between an `alloc` and its report libuv has a buffer, otherwise the listeners have them all. -/
lemma Owned.of_idle (h : s.Owned []) (hidle : s.pending = none) : s.buffers.OwnedBy s.held := by
  rwa [Owned, owners, hidle] at h

lemma Owned.hold (h : s.Owned (number p ++ locals)) : (s.hold p).Owned locals := by
  refine h.perm ?_
  have hmove : (number p ++ locals ++ s.owners).Perm (locals ++ (number p ++ s.owners)) :=
    (List.perm_append_comm.append_right s.owners).trans (by rw [List.append_assoc])
  have hheld : (number p ++ s.owners).Perm (s.hold p).owners := by
    unfold owners
    rw [← List.append_assoc]
    exact (List.perm_append_comm.append_right s.held).trans (by rw [List.append_assoc]; rfl)
  exact hmove.trans (hheld.append_left locals)

lemma Owned.delete (h : s.Owned (number p ++ locals)) : (s.delete p).Owned locals := by
  rw [Owned, List.append_assoc] at h
  exact h.releaseAny

/-- **Inversion of a call**: it starts or stops to read, or destroys data a listener has moved away. -/
lemma call_cases {c : StreamCall} (hcall : s.call c = some t) :
    (∃ reading closing, t = { s with reading, closing }) ∨
      ∃ b ∈ s.held, t = { s with held := s.held.erase b, buffers := s.buffers.release b } := by
  cases c with
  | read alloc code =>
    simp only [call] at hcall
    split at hcall
    · exact Or.inl ⟨_, _, (Option.some.inj hcall).symm⟩
    · split at hcall
      · cases hcall
      · exact Or.inl ⟨_, _, (Option.some.inj hcall).symm⟩
  | stop => exact Or.inl ⟨_, _, (Option.some.inj hcall).symm⟩
  | close => exact Or.inl ⟨_, _, (Option.some.inj hcall).symm⟩
  | destroy b =>
    simp only [call] at hcall
    split at hcall
    next hmem => exact Or.inr ⟨b, hmem, (Option.some.inj hcall).symm⟩
    next => cases hcall

/-- A call reports nothing. -/
lemma call_log {c : StreamCall} (hcall : s.call c = some t) : t.log = s.log := by
  obtain ⟨_, _, rfl⟩ | ⟨_, _, rfl⟩ := call_cases hcall
  · rfl
  · rfl

/-- **A call of the program** leaves every buffer with one owner. -/
lemma Owned.of_call {c : StreamCall} (h : s.Owned locals) (hcall : s.call c = some t) :
    t.Owned locals := by
  obtain ⟨_, _, rfl⟩ | ⟨b, hmem, rfl⟩ := call_cases hcall
  · exact h
  · refine Ledger.OwnedBy.release (h.perm ?_)
    -- the listener that destroys the data owned it
    have hheld : s.held.Perm (b :: s.held.erase b) := List.perm_cons_erase hmem
    unfold owners
    rw [← List.append_assoc, ← List.append_assoc]
    exact (hheld.append_left _).trans List.perm_middle

/-- The calls that listeners make during a callback. -/
lemma Owned.of_calls {calls : List StreamCall} (h : s.Owned locals) (hcalls : after call s calls = some t) :
    t.Owned locals ∧ t.log = s.log :=
  invariant_after (I := fun u => u.Owned locals ∧ u.log = s.log)
    (fun _ _ _ _ hu hcall => ⟨hu.1.of_call hcall, (call_log hcall).trans hu.2⟩) ⟨h, rfl⟩ hcalls

/-! ## One report -/

/-- **Ownership in the callback**: the buffer is moved into the event, or kept until the return. -/
lemma readCallback_owner (nread : Int) (buf : UvBuf) :
    number ((readCallback nread buf).event.bind StreamEvent.moved) ++
      number (readCallback nread buf).data = number buf.base := by
  unfold readCallback
  dsimp only
  split_ifs
  · rfl
  · exact List.append_nil _
  · rfl
  · rfl

/-- The callback does what it should. -/
lemma readCallback_right (hlow : -2 ^ 31 ≤ nread) :
    (readCallback nread buf).event.toList = readEvents nread buf ∧
      (readCallback nread buf).data = if 0 < nread then none else buf.base := by
  unfold readCallback readEvents
  dsimp only
  by_cases heof : nread = uvEof
  · subst heof
    exact ⟨rfl, rfl⟩
  · rw [if_neg heof]
    rcases Int.lt_trichotomy nread 0 with hneg | rfl | hpos
    · have hnot : ¬ 0 < nread := by omega
      rw [if_neg hnot, if_pos hneg, errorCode_eq hlow hneg, if_neg hnot, if_neg (Int.ne_of_lt hneg),
        if_neg heof, if_neg hnot]
      exact ⟨rfl, rfl⟩
    · exact ⟨rfl, rfl⟩
    · rw [if_pos hpos, if_pos hpos, if_pos hpos]
      exact ⟨rfl, rfl⟩

/-- What the callbacks have done is right, and the listeners have seen what libuv has read. -/
structure Logged (log : List ReadCall) : Prop where
  calls : ∀ c ∈ log, c.Right
  data : log.flatMap ReadCall.seen = log.flatMap ReadCall.bytes

lemma Logged.append {log : List ReadCall} {c : ReadCall} (h : Logged log) (hc : c.Right)
    (hseen : c.seen = c.bytes) : Logged (log ++ [c]) where
  calls d hd := by
    rcases List.mem_append.mp hd with hd | hd
    · exact h.calls d hd
    · rw [List.mem_singleton.mp hd]
      exact hc
  data := by simp [h.data, hseen]

/-- The invariant. -/
structure Inv (s : StreamReader) : Prop where
  owned : s.Owned []
  logged : Logged s.log

lemma inv_start (memory : BufferMemory) : (start memory).Inv where
  owned := Ledger.ownedBy_empty
  logged := ⟨fun _ h => absurd h List.not_mem_nil, rfl⟩

/-- Writing into a buffer does not change hands. -/
lemma fill_frame (s : StreamReader) (p : Option CharPtr) (bytes : List UInt8) :
    (s.fill p bytes).owners = s.owners ∧ (s.fill p bytes).buffers = s.buffers ∧
      (s.fill p bytes).log = s.log := by
  cases p <;> exact ⟨rfl, rfl, rfl⟩

/-- The listeners of a `data_event` find what libuv has written. -/
lemma view_fill (hrep : Reportable nread buf bytes) :
    ((readCallback nread buf).event.toList).flatMap (s.fill buf.base bytes).view = bytes := by
  obtain ⟨hlow, hlength, _, hbase⟩ := hrep
  rw [(readCallback_right hlow).1, readEvents]
  by_cases hpos : 0 < nread
  · obtain ⟨p, hp⟩ := Option.isSome_iff_exists.mp (hbase hpos)
    rw [if_pos hpos, hp]
    simp only [List.flatMap_cons, List.flatMap_nil, List.append_nil, view, fill, ← hlength]
    exact s.memory.read_write p bytes
  · have hnil : bytes = [] := by
      rw [← List.length_eq_zero_iff, hlength]
      omega
    rw [if_neg hpos, hnil]
    split_ifs <;> rfl

/-- **A report**: the callback is handed a buffer, which ends with a listener or is released. -/
lemma Inv.deliver {keep : Bool} {calls : List StreamCall} (howned : s.Owned (number buf.base))
    (hlogged : Logged s.log) (hlow : -2 ^ 31 ≤ nread)
    (hseen : ((readCallback nread buf).event.toList).flatMap s.view = bytes)
    (hstep : s.deliver nread buf bytes keep calls = some t) : t.Inv := by
  obtain ⟨u, hu, rfl⟩ := Option.map_eq_some_iff.mp hstep
  obtain ⟨hevents, hfreed⟩ := readCallback_right hlow
  set c : ReadCall :=
    { nread, buf, bytes
      events := (readCallback nread buf).event.toList
      seen := ((readCallback nread buf).event.toList).flatMap s.view
      freed := (readCallback nread buf).data }
  have hlog : Logged (s.log ++ [c]) := hlogged.append ⟨hevents, hfreed⟩ hseen
  rw [← readCallback_owner nread buf, ← List.append_nil (number (readCallback nread buf).data)] at howned
  cases keep with
  | true =>
    have hheld : ((({ s with log := s.log ++ [c] } : StreamReader).hold
        ((readCallback nread buf).event.bind StreamEvent.moved))).Owned _ := Owned.hold howned
    obtain ⟨hcalls, hlogcalls⟩ := hheld.of_calls hu
    exact ⟨hcalls.delete, hlogcalls ▸ hlog⟩
  | false =>
    have hkept : ({ s with log := s.log ++ [c] } : StreamReader).Owned _ := howned
    obtain ⟨hcalls, hlogcalls⟩ := hkept.of_calls hu
    exact ⟨hcalls.delete.delete, hlogcalls ▸ hlog⟩

/-- **Step lemma.** -/
lemma Inv.step {a : StreamAction} (h : s.Inv) (hstep : s.step a = some t) : t.Inv := by
  cases a with
  | call c => exact ⟨h.owned.of_call hstep, call_log hstep ▸ h.logged⟩
  | alloc suggested =>
    simp only [StreamReader.step] at hstep
    split at hstep
    next hguard =>
      obtain rfl := Option.some.inj hstep
      have howned : s.buffers.OwnedBy s.held := h.owned.of_idle hguard.2
      exact ⟨howned.issue, h.logged⟩
    next => cases hstep
  | allocWith null size =>
    simp only [StreamReader.step] at hstep
    split at hstep
    next hguard =>
      obtain rfl := Option.some.inj hstep
      have howned : s.buffers.OwnedBy s.held := h.owned.of_idle hguard.2
      cases null with
      | true => exact ⟨howned, h.logged⟩
      | false => exact ⟨howned.issue, h.logged⟩
    next => cases hstep
  | report nread bytes keep calls =>
    simp only [StreamReader.step] at hstep
    split at hstep
    next => cases hstep
    next buf hpending =>
      split at hstep
      next hrep =>
        obtain ⟨howners, hbuffers, hlog⟩ := fill_frame { s with pending := none } buf.base bytes
        refine Inv.deliver ?_ (by rw [hlog]; exact h.logged) hrep.1 (view_fill hrep) hstep
        have hall := h.owned
        rw [Owned, owners, hpending] at hall
        rw [Owned, hbuffers, howners]
        exact hall
      next => cases hstep
  | reportNull nread calls =>
    simp only [StreamReader.step] at hstep
    split at hstep
    next hrep => exact Inv.deliver h.owned h.logged hrep.1 (view_fill (s := s) hrep) hstep
    next => cases hstep

/-- Buffers with one owner each are conserved. -/
lemma Inv.conserves (h : s.Inv) : s.Conserves where
  in_use _ huse := (h.owned.outstanding _).mpr (mem_owners_iff.mpr huse)
  released _ hlt hnot := h.owned.count_eq_one hlt fun hmem => hnot (mem_owners_iff.mp hmem)
  calls := h.logged.calls
  data := h.logged.data

end StreamReader

/-- **Streams conserve buffers and data**: whatever libuv reports of the buffers it is given, and whatever
the listeners do meanwhile, every buffer is released exactly once, by the callback or with the data that
has moved into the event; a positive `nread` publishes one `data_event` over the buffer, `UV_EOF` one
`end_event`, another negative value one `error_event` with that code, and `0` nothing; and the
`data_event`s are what libuv has read. -/
theorem stream_reads_conserve (memory : BufferMemory) (as : List StreamAction) :
    Visits StreamReader.step StreamReader.Conserves (.start memory) as :=
  visits_of_invariant (I := StreamReader.Inv) (fun _ h => h.conserves) (fun _ _ _ h hstep => h.step hstep)
    (StreamReader.inv_start memory)

end Uvw
