import Mathlib.Data.List.Perm.Basic
import Uvw.Foundation.Ledger
import Uvw.Foundation.TransitionSystem
import Uvw.Fs.Sync

/-!
# The buffers of a `file_req`

A `file_req` has one `unique_ptr`, `current`, for the buffer of the operation it performs.  `read` and
`read_sync` allocate it; `write` and `write_sync` take it from the program, or leave it there if they are
given a plain pointer; `fs_read_callback` moves it into the event and `read_sync` into the pair it
returns; and the next `read` or `write` destroys what is left of the last one.  The listener of an event
may move the data away and call the request again while the event is still there.

`FileBuffers` follows the blocks of memory through all of this, next to the `file_req` itself, and
`file_buffers_conserved` says that in every run each block has one owner and is released once, and that
libuv never reads or writes a block that was released, as long as the request exists.
-/

namespace Uvw

open TransitionSystem

/-- The data an event of a `file_req` owns. -/
def FsPublished.data : FsPublished → Option (List UInt8)
  | .error _ => none
  | .fs ev => ev.read

/-- A `file_req` with the blocks its buffers are in. -/
structure FileBuffers where
  req : FileReq
  /-- The block behind `current`. -/
  current : Option ℕ
  blocks : Ledger
  /-- The operation libuv has accepted, with the block it reads or writes. -/
  inFlight : Option (Issued FileMembers × Option ℕ)
  /-- The events being published, innermost first, with the block of their data. -/
  events : List (FsPublished × Option ℕ)
  /-- The blocks of the program. -/
  held : List ℕ
  /-- The request has not been destroyed. -/
  alive : Bool

/-- What happens next; `block` is the one that is passed to `write`. -/
inductive BufferAction
  /-- The program allocates a block. -/
  | make
  /-- The program releases one. -/
  | delete (block : ℕ)
  /-- An asynchronous method is called; libuv accepts the operation when `code` is `0`. -/
  | call (m : FileCall) (block : ℕ) (code : Int)
  /-- A synchronous one is called. -/
  | sync (m : FileCall) (block : ℕ) (out : FsOutcome)
  /-- libuv completes the operation and calls back. -/
  | complete (result : Int) (payload : FsPayload)
  /-- The listener of the innermost event moves the data away. -/
  | take
  /-- The innermost callback returns. -/
  | ret
  /-- The last reference to the request goes away. -/
  | destroy

namespace FileBuffers

/-- A new request. -/
def start : FileBuffers :=
  { req := .fresh, current := none, blocks := .empty, inFlight := none, events := [], held := [],
    alive := true }

variable (s : FileBuffers)

/-- What the methods do with `current`: the assignment to a `unique_ptr` destroys what it held. -/
def assign (block : ℕ) : FileCall → Option FileBuffers
  | .read .. =>
    -- `make_unique` comes before the assignment
    some { s with current := some s.blocks.issued, blocks := s.blocks.issue.releaseAny s.current }
  | .write .. =>
    if block ∈ s.held then
      some { s with
        current := some block
        held := s.held.erase block
        blocks := s.blocks.releaseAny s.current }
    else none
  | .writeRaw .. => if block ∈ s.held then some s else none
  | _ => some s

/-- The block a method hands to libuv. -/
def lent (block : ℕ) : FileCall → Option ℕ
  | .read .. | .write .. => s.current
  | .writeRaw .. => some block
  | _ => none

/-- An asynchronous method, up to the return of `uv_fs_*`. -/
def call (m : FileCall) (block : ℕ) (code : Int) : Option FileBuffers :=
  (s.assign block m).map fun t =>
    let i := m.issue s.req
    if code = 0 then { t with req := i.accept, inFlight := some (i, t.lent block m) }
    else { t with req := i.refuse }

/-- A synchronous method. -/
def sync (m : FileCall) (block : ℕ) (out : FsOutcome) : Option FileBuffers :=
  (s.assign block m).bind fun t => (m.runSync s.req out).map fun r =>
    match m with
    -- `std::move(current)` into the pair that is returned
    | .read .. => { t with req := r.req, current := none, held := t.current.toList ++ t.held }
    | _ => { t with req := r.req }

/-- The callback moves `current` into the event it publishes. -/
def movesCurrent : FsCallback → FsPublished → Bool
  | .fsRead, .fs _ => true
  | _, _ => false

/-- libuv calls back with the operation `i`. -/
def completeWith (i : Issued FileMembers) (result : Int) (payload : FsPayload) :
    Option FileBuffers :=
  (FsClass.file.callback i.callback (FsClass.file.done i.call result payload s.req)).map fun p =>
    if movesCurrent i.callback p.1 then
      { s with req := p.2, current := none, inFlight := none, events := (p.1, s.current) :: s.events }
    else { s with req := p.2, inFlight := none, events := (p.1, none) :: s.events }

/-- The data of the innermost event is moved away. -/
def take : Option FileBuffers :=
  match s.events with
  | (.fs ev, some b) :: rest =>
    some { s with events := (.fs { ev with read := none }, none) :: rest, held := b :: s.held }
  | _ => none

/-- The event of the innermost callback is destroyed. -/
def ret : Option FileBuffers :=
  match s.events with
  | (_, b) :: rest => some { s with events := rest, blocks := s.blocks.releaseAny b }
  | [] => none

/-- `file_req::~file_req`. -/
def destroy : FileBuffers :=
  { s with
    req := { s.req.cleanup with own := { s.req.own with current := none } }
    current := none
    blocks := s.blocks.releaseAny s.current
    alive := false }

/-- libuv is using the block. -/
def Lent (block : ℕ) : Prop := ∃ i, s.inFlight = some (i, some block)

instance (block : ℕ) : Decidable (s.Lent block) :=
  decidable_of_iff ((s.inFlight.bind Prod.snd) = some block) <| by
    unfold Lent
    cases s.inFlight with
    | none => simp
    | some p => simp [Prod.ext_iff]

/-- One action; `none` where it is not possible.  The program leaves the block of a plain pointer alone
while libuv is using it, calls a request that is not in flight, and calls back into a request only while
it exists. -/
def step : BufferAction → Option FileBuffers
  | .make => some { s with blocks := s.blocks.issue, held := s.blocks.issued :: s.held }
  | .delete b =>
    if b ∈ s.held ∧ ¬ s.Lent b then
      some { s with held := s.held.erase b, blocks := s.blocks.release b }
    else none
  | .call m b code => if s.alive ∧ s.inFlight.isNone then s.call m b code else none
  | .sync m b out => if s.alive ∧ s.inFlight.isNone then s.sync m b out else none
  | .complete result payload =>
    if s.alive then s.inFlight.bind fun i => s.completeWith i.1 result payload else none
  | .take => s.take
  | .ret => s.ret
  | .destroy => if s.alive ∧ s.events = [] then some s.destroy else none

/-- The blocks of the events. -/
def eventBlocks : List ℕ := s.events.flatMap fun e => e.2.toList

/-- Everything that owns a block: `current`, the events and the program. -/
def owners : List ℕ := s.current.toList ++ (s.eventBlocks ++ s.held)

/-- The blocks are conserved. -/
structure Conserved : Prop where
  /-- Each block that was not released has one owner. -/
  owned : s.blocks.OwnedBy s.owners
  /-- Each of the others was released once. -/
  released : ∀ b < s.blocks.issued, b ∉ s.owners → s.blocks.released.count b = 1
  /-- `current` and the data of the events are null exactly where they own no block. -/
  current_iff : s.req.own.current.isSome = s.current.isSome
  data_iff : ∀ e ∈ s.events, e.1.data.isSome = e.2.isSome
  /-- libuv uses no block that was released, as long as the request exists, -/
  lent : s.alive = true → ∀ b, s.Lent b → s.blocks.Outstanding b
  /-- and what it reads goes to the block that is moved into the event. -/
  reading : s.alive = true → ∀ i b, s.inFlight = some (i, b) → i.callback = .fsRead → s.current = b
  /-- A request that is gone owns nothing. -/
  gone : s.alive = false → s.current = none

/-! ## One owner for each block -/

variable {s} {t : FileBuffers} {m : FileCall} {block : ℕ}

/-- The invariant. -/
structure Inv (s : FileBuffers) : Prop where
  owned : s.blocks.OwnedBy s.owners
  current_iff : s.req.own.current.isSome = s.current.isSome
  data_iff : ∀ e ∈ s.events, e.1.data.isSome = e.2.isSome
  /-- libuv uses the block of `current`, or one that the program keeps. -/
  using_owned : s.alive = true → ∀ b, s.Lent b → s.current = some b ∨ b ∈ s.held
  reading : s.alive = true → ∀ i b, s.inFlight = some (i, b) → i.callback = .fsRead → s.current = b
  gone : s.alive = false → s.current = none

/-- A block belongs to the request, to an event or to the program. -/
lemma mem_owners {b : ℕ} : b ∈ s.owners ↔ s.current = some b ∨ b ∈ s.eventBlocks ∨ b ∈ s.held := by
  rw [owners, List.mem_append, List.mem_append, Option.mem_toList]

/-- **Conservation** follows from the invariant. -/
lemma Inv.conserved (h : s.Inv) : s.Conserved where
  owned := h.owned
  released _ hlt hnot := h.owned.count_eq_one hlt hnot
  current_iff := h.current_iff
  data_iff := h.data_iff
  lent halive b hb := by
    rw [h.owned.outstanding, mem_owners]
    exact (h.using_owned halive b hb).imp_right Or.inr
  reading := h.reading
  gone := h.gone

/-- Nothing has been allocated yet. -/
lemma inv_start : start.Inv where
  owned := Ledger.ownedBy_empty
  current_iff := rfl
  data_iff _ he := absurd he List.not_mem_nil
  using_owned _ b := by rintro ⟨i, hi⟩; cases hi
  reading _ _ _ hi := by cases hi
  gone halive := by cases halive

/-- Taking a block out of those of the program. -/
lemma perm_of_mem_held {pre : List ℕ} {b : ℕ} (hb : b ∈ s.held) :
    (pre ++ (s.eventBlocks ++ s.held)).Perm (b :: (pre ++ (s.eventBlocks ++ s.held.erase b))) := by
  have hheld : s.held.Perm (b :: s.held.erase b) := List.perm_cons_erase hb
  have hinner : (s.eventBlocks ++ s.held).Perm (b :: (s.eventBlocks ++ s.held.erase b)) :=
    (hheld.append_left _).trans List.perm_middle
  exact (hinner.append_left pre).trans List.perm_middle

/-! ### Methods -/

/-- The part of the state that the assignment to `current` leaves alone. -/
lemma assign_frame (hassign : s.assign block m = some t) :
    t.req = s.req ∧ t.events = s.events ∧ t.inFlight = s.inFlight ∧ t.alive = s.alive := by
  cases m with
  | read =>
    obtain rfl := Option.some.inj hassign
    exact ⟨rfl, rfl, rfl, rfl⟩
  | write =>
    obtain ⟨_, heq⟩ := Option.ite_none_right_eq_some.mp hassign
    obtain rfl := Option.some.inj heq
    exact ⟨rfl, rfl, rfl, rfl⟩
  | writeRaw =>
    obtain ⟨_, heq⟩ := Option.ite_none_right_eq_some.mp hassign
    obtain rfl := Option.some.inj heq
    exact ⟨rfl, rfl, rfl, rfl⟩
  | _ =>
    obtain rfl := Option.some.inj hassign
    exact ⟨rfl, rfl, rfl, rfl⟩

/-- **Assigning to `current`** leaves every block with one owner. -/
lemma Inv.assign (h : s.Inv) (hassign : s.assign block m = some t) :
    t.blocks.OwnedBy t.owners := by
  have howned := h.owned
  cases m with
  | read =>
    obtain rfl := Option.some.inj hassign
    -- the new block comes first, then the old one is destroyed
    have hnew := howned.issue
    have hperm : (s.blocks.issued :: s.owners).Perm
        (s.current.toList ++ s.blocks.issued :: (s.eventBlocks ++ s.held)) :=
      (List.perm_middle (a := s.blocks.issued)).symm
    exact (hnew.perm hperm).releaseAny
  | write =>
    obtain ⟨hmem, heq⟩ := Option.ite_none_right_eq_some.mp hassign
    obtain rfl := Option.some.inj heq
    have hperm : s.owners.Perm
        (s.current.toList ++ block :: (s.eventBlocks ++ s.held.erase block)) :=
      (perm_of_mem_held hmem).trans List.perm_middle.symm
    exact (howned.perm hperm).releaseAny
  | writeRaw =>
    obtain ⟨_, heq⟩ := Option.ite_none_right_eq_some.mp hassign
    obtain rfl := Option.some.inj heq
    exact howned
  | _ =>
    obtain rfl := Option.some.inj hassign
    exact howned

/-- What a method hands to libuv belongs to `current` or to the program. -/
lemma lent_owned (hassign : s.assign block m = some t) {b : ℕ} (hb : t.lent block m = some b) :
    t.current = some b ∨ b ∈ t.held := by
  cases m with
  | read | write => exact Or.inl hb
  | writeRaw =>
    obtain ⟨hmem, heq⟩ := Option.ite_none_right_eq_some.mp hassign
    obtain rfl := Option.some.inj heq
    obtain rfl := Option.some.inj hb
    exact Or.inr hmem
  | _ => cases hb

/-- The members after an asynchronous method agree with the block of `current`. -/
lemma issue_current (h : s.Inv) (hassign : s.assign block m = some t) :
    (m.issue s.req).req.own.current.isSome = t.current.isSome := by
  cases m with
  | read =>
    obtain rfl := Option.some.inj hassign
    rfl
  | write =>
    obtain ⟨_, heq⟩ := Option.ite_none_right_eq_some.mp hassign
    obtain rfl := Option.some.inj heq
    rfl
  | writeRaw =>
    obtain ⟨_, heq⟩ := Option.ite_none_right_eq_some.mp hassign
    obtain rfl := Option.some.inj heq
    exact h.current_iff
  | _ =>
    obtain rfl := Option.some.inj hassign
    exact h.current_iff

/-- Only `read` asks for `fs_read_callback`. -/
lemma lent_of_fsRead (hcb : (m.issue s.req).callback = .fsRead) : t.lent block m = t.current := by
  cases m with
  | read => rfl
  | _ => cases hcb

/-- **Asynchronous calls** keep the invariant. -/
lemma Inv.call (h : s.Inv) {code : Int} (hlive : s.alive = true) (hidle : s.inFlight = none)
    (hcall : s.call m block code = some t) : t.Inv := by
  obtain ⟨u, hassign, rfl⟩ := Option.map_eq_some_iff.mp hcall
  obtain ⟨_, hevents, hflight, halive⟩ := assign_frame hassign
  have howned := h.assign hassign
  have hcurrent := issue_current h hassign
  have hgone : u.alive = false → u.current = none := fun hdead =>
    absurd (hdead.symm.trans (halive.trans hlive)) (by decide)
  split
  · refine ⟨howned, hcurrent, hevents ▸ h.data_iff, ?_, ?_, hgone⟩
    · rintro _ b ⟨i, hi⟩
      obtain ⟨rfl, hb⟩ := Prod.mk.inj (Option.some.inj hi)
      exact lent_owned hassign hb
    · rintro _ i b hi hcb
      obtain ⟨rfl, rfl⟩ := Prod.mk.inj (Option.some.inj hi)
      exact (lent_of_fsRead hcb).symm
  · have hnone : u.inFlight = none := hflight.trans hidle
    refine ⟨howned, hcurrent, hevents ▸ h.data_iff, ?_, ?_, hgone⟩
    · rintro _ b ⟨i, hi⟩
      cases hnone.symm.trans hi
    · intro _ i b hi
      cases hnone.symm.trans hi

/-- A synchronous method other than `read_sync` leaves in `current` what it assigned. -/
lemma runSync_current {out : FsOutcome} {r : SyncReturn FileMembers} (h : s.Inv)
    (hassign : s.assign block m = some t) (hrun : m.runSync s.req out = some r)
    (hread : ∀ offset len, m ≠ .read offset len) : r.req.own.current.isSome = t.current.isSome := by
  cases m with
  | read offset len => exact absurd rfl (hread offset len)
  | write =>
    obtain ⟨_, heq⟩ := Option.ite_none_right_eq_some.mp hassign
    obtain rfl := Option.some.inj heq
    obtain rfl := Option.some.inj hrun
    rfl
  | writeRaw => cases hrun
  | close =>
    obtain rfl := Option.some.inj hassign
    obtain rfl := Option.some.inj hrun
    rw [← h.current_iff]
    simp only [SyncReturn.ofFlag, FileReq.closeSync]
    split <;> rfl
  | «open» =>
    obtain rfl := Option.some.inj hassign
    obtain rfl := Option.some.inj hrun
    rw [← h.current_iff]
    simp only [SyncReturn.ofFlag, FileReq.openSync]
    split <;> rfl
  | _ =>
    obtain rfl := Option.some.inj hassign
    obtain rfl := Option.some.inj hrun
    exact h.current_iff

/-- **Synchronous calls** keep the invariant. -/
lemma Inv.sync (h : s.Inv) {out : FsOutcome} (hlive : s.alive = true) (hidle : s.inFlight = none)
    (hsync : s.sync m block out = some t) : t.Inv := by
  obtain ⟨u, hassign, hmap⟩ := Option.bind_eq_some_iff.mp hsync
  obtain ⟨r, hrun, rfl⟩ := Option.map_eq_some_iff.mp hmap
  obtain ⟨_, hevents, hflight, halive⟩ := assign_frame hassign
  have howned := h.assign hassign
  have hnone : u.inFlight = none := hflight.trans hidle
  have hgone : u.alive = false → u.current = none := fun hdead =>
    absurd (hdead.symm.trans (halive.trans hlive)) (by decide)
  have hlent : ∀ i b, u.inFlight ≠ some (i, b) := fun i b hi => by cases hnone.symm.trans hi
  by_cases hread : ∃ offset len, m = .read offset len
  · obtain ⟨offset, len, rfl⟩ := hread
    obtain rfl := Option.some.inj hrun
    refine ⟨?_, rfl, hevents ▸ h.data_iff, ?_, fun _ i b hi => absurd hi (hlent i b), fun _ => rfl⟩
    · -- the block moves from `current` to the program
      refine howned.perm ?_
      show (u.current.toList ++ (u.eventBlocks ++ u.held)).Perm
        ([] ++ (u.eventBlocks ++ (u.current.toList ++ u.held)))
      rw [← List.append_assoc, List.nil_append, ← List.append_assoc]
      exact List.perm_append_comm.append_right u.held
    · rintro _ b ⟨i, hi⟩
      exact absurd hi (hlent i (some b))
  · have hnot : ∀ offset len, m ≠ .read offset len := fun offset len hm => hread ⟨offset, len, hm⟩
    have hcurrent := runSync_current h hassign hrun hnot
    cases m with
    | read offset len => exact absurd rfl (hnot offset len)
    | _ =>
      refine ⟨howned, hcurrent, hevents ▸ h.data_iff, ?_, fun _ i b hi => absurd hi (hlent i b), hgone⟩
      rintro _ b ⟨i, hi⟩
      exact absurd hi (hlent i (some b))

/-! ### Callbacks -/

/-- The constructor of `fs_event` leaves `read.data` alone. -/
lemma fsEvent_read {dirents : Dirent} {raw : UvFs} {ev : FsEvent}
    (hev : fsEvent dirents raw = some ev) : ev.read = none := by
  unfold fsEvent at hev
  grind

/-- What a callback does with `current`: that of `read` moves it into the event if there is one, the
others leave it alone. -/
lemma callback_current {cb : FsCallback} {x x' : FileReq} {p : FsPublished}
    (h : FileReq.callback cb x = some (p, x')) :
    if movesCurrent cb p then x'.own.current = none ∧ p.data = x.own.current
    else x'.own.current = x.own.current ∧ p.data = none := by
  rcases Int.lt_or_le x.raw.result 0 with hneg | hpos
  · obtain ⟨dirents, own, attach, hcb⟩ := FsClass.file.callback_eq_answer cb x
    rw [show FileReq.callback cb x = _ from hcb, FsRequest.answer_of_neg _ _ _ hneg] at h
    obtain ⟨rfl, rfl⟩ := Prod.mk.inj (Option.some.inj h)
    cases cb <;> exact ⟨rfl, rfl⟩
  · cases cb with
    | fsRead =>
      rw [show FileReq.callback .fsRead x = _ from FsRequest.answer_of_nonneg _ _ _ hpos] at h
      obtain ⟨ev, _, heq⟩ := Option.map_eq_some_iff.mp h
      obtain ⟨rfl, rfl⟩ := Prod.mk.inj heq
      exact ⟨rfl, rfl⟩
    | fsRequest | fsOpen | fsClose =>
      obtain ⟨ev, hev, heq⟩ := Option.map_eq_some_iff.mp ((FsRequest.answer_of_nonneg _ _ _ hpos).symm.trans h)
      obtain ⟨rfl, rfl⟩ := Prod.mk.inj heq
      exact ⟨rfl, fsEvent_read hev⟩

/-- What an operation writes through `current` leaves the pointer alone. -/
lemma done_current (call : UvFsCall) (result : Int) (payload : FsPayload) (x : FileReq) :
    (FsClass.file.done call result payload x).own.current.isSome = x.own.current.isSome := by
  cases call with
  | read => exact Option.isSome_map
  | _ => rfl

/-- **A completion**: the block of `current` moves into the event of a successful read. -/
lemma Inv.completeWith (h : s.Inv) {i : Issued FileMembers} {result : Int} {payload : FsPayload}
    (hdone : s.completeWith i result payload = some t) : t.Inv := by
  obtain ⟨⟨p, x⟩, hcb, rfl⟩ := Option.map_eq_some_iff.mp hdone
  have hsome := (done_current i.call result payload s.req).trans h.current_iff
  have hmoved := callback_current hcb
  dsimp only
  by_cases hmoves : movesCurrent i.callback p = true
  · rw [if_pos hmoves] at hmoved ⊢
    obtain ⟨hcurrent, hdata⟩ := hmoved
    constructor
    · refine h.owned.perm ?_
      show (s.current.toList ++ (s.eventBlocks ++ s.held)).Perm
        ([] ++ (s.current.toList ++ s.eventBlocks ++ s.held))
      rw [List.nil_append, List.append_assoc]
    · rw [hcurrent]
      rfl
    · intro e he
      rcases List.mem_cons.mp he with rfl | he
      · exact (congrArg _ hdata).trans hsome
      · exact h.data_iff e he
    · rintro _ b ⟨j, hj⟩
      cases hj
    · intro _ j b hj
      cases hj
    · exact fun _ => rfl
  · rw [if_neg hmoves] at hmoved ⊢
    obtain ⟨hcurrent, hdata⟩ := hmoved
    constructor
    · exact h.owned
    · exact (congrArg _ hcurrent).trans hsome
    · intro e he
      rcases List.mem_cons.mp he with rfl | he
      · exact congrArg _ hdata
      · exact h.data_iff e he
    · rintro _ b ⟨j, hj⟩
      cases hj
    · intro _ j b hj
      cases hj
    · exact h.gone

/-! ### Listeners -/

/-- Data that a listener moves away goes to the program. -/
lemma Inv.take (h : s.Inv) (htake : s.take = some t) : t.Inv := by
  unfold FileBuffers.take at htake
  split at htake
  next ev b rest hevents =>
    obtain rfl := Option.some.inj htake
    have howners : s.owners = s.current.toList ++ (b :: (rest.flatMap fun e => e.2.toList) ++ s.held) := by
      rw [owners, eventBlocks, hevents]
      rfl
    refine ⟨?_, h.current_iff, ?_, ?_, h.reading, h.gone⟩
    · refine (howners ▸ h.owned).perm (List.Perm.append_left _ ?_)
      exact (List.perm_middle (a := b)).symm
    · intro e he
      rcases List.mem_cons.mp he with rfl | he
      · rfl
      · exact h.data_iff e (hevents ▸ List.mem_cons_of_mem _ he)
    · exact fun halive c hc => (h.using_owned halive c hc).imp_right (List.mem_cons_of_mem b)
  next => cases htake

/-- The data of an event goes with it. -/
lemma Inv.ret (h : s.Inv) (hret : s.ret = some t) : t.Inv := by
  unfold FileBuffers.ret at hret
  split at hret
  next p b rest hevents =>
    obtain rfl := Option.some.inj hret
    have howners : s.owners =
        s.current.toList ++ (b.toList ++ ((rest.flatMap fun e => e.2.toList) ++ s.held)) := by
      rw [owners, eventBlocks, hevents, ← List.append_assoc b.toList]
      rfl
    refine ⟨?_, h.current_iff, ?_, h.using_owned, h.reading, h.gone⟩
    · refine Ledger.OwnedBy.releaseAny ((howners ▸ h.owned).perm ?_)
      exact List.perm_append_comm_assoc _ _ _
    · exact fun e he => h.data_iff e (hevents ▸ List.mem_cons_of_mem _ he)
  next => cases hret

/-! ### The program -/

/-- The program may allocate a block -/
lemma Inv.make (h : s.Inv) :
    Inv { s with blocks := s.blocks.issue, held := s.blocks.issued :: s.held } where
  owned := by
    refine h.owned.issue.perm ?_
    have hinner : (s.blocks.issued :: (s.eventBlocks ++ s.held)).Perm
        (s.eventBlocks ++ s.blocks.issued :: s.held) := List.perm_middle.symm
    exact List.perm_middle.symm.trans (hinner.append_left s.current.toList)
  current_iff := h.current_iff
  data_iff := h.data_iff
  using_owned halive b hb := (h.using_owned halive b hb).imp_right (List.mem_cons_of_mem _)
  reading := h.reading
  gone := h.gone

/-- and delete one that libuv does not have. -/
lemma Inv.delete (h : s.Inv) {b : ℕ} (hmem : b ∈ s.held) (hfree : ¬ s.Lent b) :
    Inv { s with held := s.held.erase b, blocks := s.blocks.release b } where
  owned := Ledger.OwnedBy.release (h.owned.perm (perm_of_mem_held hmem))
  current_iff := h.current_iff
  data_iff := h.data_iff
  using_owned halive c hc := by
    refine (h.using_owned halive c hc).imp_right fun hheld => ?_
    have hne : c ≠ b := fun heq => hfree (heq ▸ hc)
    exact (List.mem_erase_of_ne hne).mpr hheld
  reading := h.reading
  gone := h.gone

/-- The destructor of the request releases its block. -/
lemma Inv.destroy (h : s.Inv) : s.destroy.Inv where
  owned := Ledger.OwnedBy.releaseAny h.owned
  current_iff := rfl
  data_iff := h.data_iff
  using_owned halive := by cases halive
  reading halive := by cases halive
  gone _ := rfl

/-- **Step lemma.** -/
lemma Inv.step {a : BufferAction} (h : s.Inv) (hstep : s.step a = some t) : t.Inv := by
  cases a with
  | make =>
    obtain rfl := Option.some.inj hstep
    exact h.make
  | delete b =>
    obtain ⟨⟨hmem, hfree⟩, heq⟩ := Option.ite_none_right_eq_some.mp hstep
    obtain rfl := Option.some.inj heq
    exact h.delete hmem hfree
  | call m b code =>
    obtain ⟨⟨hlive, hidle⟩, hcall⟩ := Option.ite_none_right_eq_some.mp hstep
    exact h.call hlive (Option.isNone_iff_eq_none.mp hidle) hcall
  | sync m b out =>
    obtain ⟨⟨hlive, hidle⟩, hsync⟩ := Option.ite_none_right_eq_some.mp hstep
    exact h.sync hlive (Option.isNone_iff_eq_none.mp hidle) hsync
  | complete result payload =>
    obtain ⟨_, hbind⟩ := Option.ite_none_right_eq_some.mp hstep
    obtain ⟨i, _, hdone⟩ := Option.bind_eq_some_iff.mp hbind
    exact h.completeWith hdone
  | take => exact h.take hstep
  | ret => exact h.ret hstep
  | destroy =>
    obtain ⟨_, heq⟩ := Option.ite_none_right_eq_some.mp hstep
    obtain rfl := Option.some.inj heq
    exact h.destroy

/-- **The buffers of a `file_req` are conserved**: whatever is called on the request, synchronously or
not, from its listeners or outside, and whatever becomes of the operations, every block has one owner
until it is released, and is released once; what a read has filled moves into its event, or into the pair
that is returned; and libuv uses no block that was released, as long as the request exists. -/
theorem file_buffers_conserved (as : List BufferAction) :
    Visits FileBuffers.step Conserved start as :=
  visits_of_invariant (I := Inv) (fun _ h => h.conserved) (fun _ _ _ h hstep => h.step hstep) inv_start

end FileBuffers

end Uvw
