import Uvw.Foundation.TransitionSystem
import Uvw.Fs.Request

/-!
# The life of a filesystem request

Unlike the other requests, `file_req` and `fs_req` do not pass the result of their submissions to
`leak_if`: `issue_selfPtr` says that no method takes a self reference.  `FsLife` follows one request
through references, calls and callbacks, and `fs_request_kept_iff` says when it is kept alive for its
operations all the same: exactly when its last reference never goes away while one is in flight.
-/

namespace Uvw

open TransitionSystem

/-- A filesystem request, the references to it and the operation libuv has in flight. -/
structure FsLife (c : FsClass) where
  req : c.Req
  /-- The shared pointers of the program. -/
  refs : ℕ
  /-- The callbacks of the request being executed, each with the `shared_ptr` of `reserve`. -/
  callbacks : ℕ
  /-- The accepted, not yet completed operation. -/
  inFlight : Option (Issued c.Members)
  /-- The object has not been destroyed. -/
  alive : Bool
  /-- libuv has called back into the destroyed request. -/
  dangling : Bool

/-- What a program and libuv can do with a filesystem request. -/
inductive FsLifeAction (c : FsClass)
  /-- The program copies a `shared_ptr`. -/
  | copy
  /-- The program drops a `shared_ptr`. -/
  | drop
  /-- An asynchronous method is called; libuv accepts the operation when `code` is `0`. -/
  | call (m : c.Call) (code : Int)
  /-- libuv completes the operation and calls back. -/
  | complete (result : Int) (payload : FsPayload)
  /-- The innermost callback returns. -/
  | ret

namespace FsLife

variable {c : FsClass}

/-- A new request, referred to by its creator. -/
def create (c : FsClass) (dirents : Dirent) : FsLife c where
  req := c.fresh dirents
  refs := 1
  callbacks := 0
  inFlight := none
  alive := true
  dangling := false

variable (s : FsLife c)

/-- Somebody holds a `shared_ptr` to the request. -/
def Owned : Prop := 0 < s.refs ∨ 0 < s.callbacks ∨ s.req.selfPtr = true

instance : Decidable s.Owned := by unfold Owned; infer_instance

/-- The destructor runs when nobody does. -/
def settle : FsLife c :=
  if s.alive = true ∧ ¬ s.Owned then { s with alive := false, req := s.req.cleanup } else s

/-- libuv calls back with the operation `i`. -/
def completeWith (i : Issued c.Members) (result : Int) (payload : FsPayload) :
    Option (FsLife c) :=
  if s.alive then
    (c.callback i.callback (c.done i.call result payload s.req)).map fun p =>
      { s with req := p.2, callbacks := s.callbacks + 1, inFlight := none }
  else some { s with inFlight := none, dangling := true }

/-- One action, before anything is destroyed. -/
def exec : FsLifeAction c → Option (FsLife c)
  | .copy => if s.alive then some { s with refs := s.refs + 1 } else none
  | .drop => if 0 < s.refs then some { s with refs := s.refs - 1 } else none
  | .call m code =>
    if s.alive ∧ s.inFlight.isNone then
      (c.issue m s.req).map fun i =>
        if code = 0 then { s with req := i.accept, inFlight := some i }
        else { s with req := i.refuse }
    else none
  | .complete result payload => s.inFlight.bind fun i => s.completeWith i result payload
  | .ret => if 0 < s.callbacks then some { s with callbacks := s.callbacks - 1 } else none

/-- One action and the destruction it causes. -/
def step (a : FsLifeAction c) : Option (FsLife c) := (s.exec a).map settle

/-- What the request is promised: while an operation is in flight it is alive, with its `uv_fs_t` and
its buffer as the method left them, it lives until its callbacks have returned, and it lives only
then or while somebody refers to it. -/
structure Kept (s : FsLife c) : Prop where
  in_flight : ∀ i, s.inFlight = some i → s.alive = true ∧ s.req = i.accept
  callback : 0 < s.callbacks → s.alive = true
  live : s.alive = true → 0 < s.refs ∨ 0 < s.callbacks ∨ s.inFlight.isSome = true
  not_dangling : s.dangling = false

/-- The last reference to the request does not go away while an operation is in flight. -/
def KeepsReference (s : FsLife c) : FsLifeAction c → Prop
  | .drop => s.inFlight = none ∨ 1 < s.refs ∨ 0 < s.callbacks
  | .ret => s.inFlight = none ∨ 0 < s.refs ∨ 1 < s.callbacks
  | _ => True

end FsLife

/-! ## No method takes a self reference -/

/-- **The defect**: no asynchronous method of either class makes the request refer to itself. -/
lemma FsClass.issue_selfPtr {c : FsClass} {m : c.Call} {x : c.Req} {i : Issued c.Members}
    (h : c.issue m x = some i) : i.req.selfPtr = x.selfPtr := by
  cases c with
  | file =>
    obtain rfl := Option.some.inj h
    cases m <;> rfl
  | fs =>
    cases m with
    | readdir =>
      obtain ⟨dir, _, rfl⟩ := Option.map_eq_some_iff.mp h
      rfl
    | _ =>
      obtain rfl := Option.some.inj h
      rfl

/-- A callback leaves the request without a self reference. -/
lemma FsClass.callback_selfPtr {c : FsClass} {cb : FsCallback} {x x' : c.Req} {ev : FsPublished}
    (h : c.callback cb x = some (ev, x')) : x'.selfPtr = false := by
  obtain ⟨dirents, own, attach, hcb⟩ := c.callback_eq_answer cb x
  rcases Int.lt_or_le x.raw.result 0 with hneg | hpos
  · rw [hcb, FsRequest.answer_of_neg _ _ _ hneg] at h
    obtain ⟨_, rfl⟩ := Prod.mk.inj (Option.some.inj h)
    rfl
  · rw [hcb, FsRequest.answer_of_nonneg _ _ _ hpos] at h
    obtain ⟨_, _, heq⟩ := Option.map_eq_some_iff.mp h
    exact (Prod.mk.inj heq).2 ▸ rfl

namespace FsLife

variable {c : FsClass} {s s' : FsLife c} {a : FsLifeAction c}

/-! ## When the request is kept -/

/-- What holds as long as the last reference is kept while an operation is in flight. -/
structure Inv (s : FsLife c) : Prop extends Kept s where
  no_self : s.req.selfPtr = false

/-- A new request is held by its creator. -/
lemma inv_create (c : FsClass) (dirents : Dirent) : (create c dirents).Inv where
  in_flight _ hi := by cases hi
  callback _ := rfl
  live _ := Or.inl Nat.one_pos
  not_dangling := rfl
  no_self := by cases c <;> rfl

/-- Without a self reference a live request stays exactly while it is referred to. -/
lemma settle_alive (hself : s.req.selfPtr = false) :
    s.settle.alive = true ↔ s.alive = true ∧ (0 < s.refs ∨ 0 < s.callbacks) := by
  unfold settle
  split
  · rename_i hdies
    simp only [Bool.false_eq_true, false_iff]
    rintro ⟨_, howned⟩
    exact hdies.2 (howned.elim Or.inl fun h => Or.inr (Or.inl h))
  · rename_i hstays
    refine ⟨fun halive => ⟨halive, ?_⟩, And.left⟩
    rcases not_not.mp (not_and.mp hstays halive) with hrefs | hcb | hown
    · exact Or.inl hrefs
    · exact Or.inr hcb
    · rw [hself] at hown
      cases hown

@[simp] lemma settle_refs : s.settle.refs = s.refs := by unfold settle; split <;> rfl
@[simp] lemma settle_callbacks : s.settle.callbacks = s.callbacks := by unfold settle; split <;> rfl
@[simp] lemma settle_inFlight : s.settle.inFlight = s.inFlight := by unfold settle; split <;> rfl
@[simp] lemma settle_dangling : s.settle.dangling = s.dangling := by unfold settle; split <;> rfl

@[simp] lemma settle_selfPtr : s.settle.req.selfPtr = s.req.selfPtr := by
  unfold settle
  split <;> rfl

/-- A request that is referred to is left alone. -/
lemma settle_eq_self (h : 0 < s.refs ∨ 0 < s.callbacks) : s.settle = s := by
  unfold settle
  rw [if_neg]
  rintro ⟨_, hnot⟩
  exact hnot (h.elim Or.inl fun hcb => Or.inr (Or.inl hcb))

/-- Before the destruction: the request is as it should be, except that nobody may be left. -/
structure Pending (s : FsLife c) : Prop where
  in_flight : ∀ i, s.inFlight = some i → s.alive = true ∧ s.req = i.accept
  callback : 0 < s.callbacks → s.alive = true
  not_dangling : s.dangling = false
  no_self : s.req.selfPtr = false

/-- An action keeps everything but the last reference. -/
lemma Inv.exec (h : s.Inv) (hexec : s.exec a = some s') : s'.Pending := by
  cases a with
  | copy =>
    obtain ⟨halive, rfl⟩ := by simpa [FsLife.exec] using hexec
    exact ⟨h.in_flight, h.callback, h.not_dangling, h.no_self⟩
  | drop =>
    obtain ⟨_, rfl⟩ := by simpa [FsLife.exec] using hexec
    exact ⟨h.in_flight, h.callback, h.not_dangling, h.no_self⟩
  | ret =>
    obtain ⟨hpos, rfl⟩ := by simpa [FsLife.exec] using hexec
    exact ⟨h.in_flight, fun _ => h.callback hpos, h.not_dangling, h.no_self⟩
  | call m code =>
    obtain ⟨⟨halive, hidle⟩, i, hi, rfl⟩ := by simpa [FsLife.exec] using hexec
    have hself : i.req.selfPtr = false := (FsClass.issue_selfPtr hi).trans h.no_self
    by_cases hcode : code = 0
    · rw [if_pos hcode]
      refine ⟨fun j hj => ?_, h.callback, h.not_dangling, hself⟩
      obtain rfl := Option.some.inj hj
      exact ⟨halive, rfl⟩
    · rw [if_neg hcode]
      refine ⟨fun j hj => ?_, h.callback, h.not_dangling, hself⟩
      rw [hidle] at hj
      cases hj
  | complete result payload =>
    obtain ⟨i, hi, hdone⟩ := Option.bind_eq_some_iff.mp hexec
    have halive := (h.in_flight i hi).1
    unfold completeWith at hdone
    rw [if_pos halive] at hdone
    obtain ⟨⟨ev, x⟩, hcb, rfl⟩ := Option.map_eq_some_iff.mp hdone
    exact ⟨fun _ => nofun, fun _ => halive, h.not_dangling, FsClass.callback_selfPtr hcb⟩

/-- Whether anybody is left after the destruction. -/
lemma Pending.kept_settle_iff (h : s.Pending) :
    s.settle.Kept ↔ s.inFlight = none ∨ 0 < s.refs ∨ 0 < s.callbacks := by
  constructor
  · intro hkept
    by_cases hidle : s.inFlight = none
    · exact Or.inl hidle
    obtain ⟨i, hi⟩ := Option.ne_none_iff_exists'.mp hidle
    have halive := (hkept.in_flight i (by rw [settle_inFlight, hi])).1
    exact Or.inr ((settle_alive h.no_self).mp halive).2
  · intro hleft
    by_cases howned : 0 < s.refs ∨ 0 < s.callbacks
    · rw [settle_eq_self howned]
      exact ⟨h.in_flight, h.callback, fun _ => howned.imp_right Or.inl, h.not_dangling⟩
    · have hidle := hleft.resolve_right howned
      have hdead : ¬ s.settle.alive = true := fun halive =>
        howned ((settle_alive h.no_self).mp halive).2
      refine ⟨fun i hi => ?_, fun hcb => ?_, fun halive => absurd halive hdead, ?_⟩
      · rw [settle_inFlight, hidle] at hi
        cases hi
      · rw [settle_callbacks] at hcb
        exact absurd (Or.inr hcb) howned
      · rw [settle_dangling, h.not_dangling]

/-- After an action somebody is left, or nothing is in flight, exactly if the action keeps the
reference. -/
lemma Inv.left_iff (h : s.Inv) (hexec : s.exec a = some s') :
    (s'.inFlight = none ∨ 0 < s'.refs ∨ 0 < s'.callbacks) ↔ s.KeepsReference a := by
  cases a with
  | copy =>
    obtain ⟨_, rfl⟩ := by simpa [FsLife.exec] using hexec
    simp [KeepsReference]
  | drop =>
    obtain ⟨hpos, rfl⟩ := by simpa [FsLife.exec] using hexec
    simp only [KeepsReference]
    refine or_congr_right (or_congr_left ?_)
    omega
  | ret =>
    obtain ⟨hpos, rfl⟩ := by simpa [FsLife.exec] using hexec
    simp only [KeepsReference]
    refine or_congr_right (or_congr_right ?_)
    omega
  | call m code =>
    obtain ⟨⟨halive, hidle⟩, i, hi, rfl⟩ := by simpa [FsLife.exec] using hexec
    -- the caller reaches the request through a reference
    have hleft : 0 < s.refs ∨ 0 < s.callbacks := by
      rcases h.live halive with hrefs | hcb | hfl
      · exact Or.inl hrefs
      · exact Or.inr hcb
      · rw [hidle] at hfl
        cases hfl
    simp only [KeepsReference, iff_true]
    split <;> exact Or.inr hleft
  | complete result payload =>
    obtain ⟨i, hi, hdone⟩ := Option.bind_eq_some_iff.mp hexec
    unfold completeWith at hdone
    rw [if_pos (h.in_flight i hi).1] at hdone
    obtain ⟨p, _, rfl⟩ := Option.map_eq_some_iff.mp hdone
    simp [KeepsReference]

/-- **Step lemma**: a step keeps the promise exactly if it keeps the reference. -/
lemma Inv.kept_iff (h : s.Inv) (hstep : s.step a = some s') :
    s'.Kept ↔ s.KeepsReference a := by
  obtain ⟨v, hexec, rfl⟩ := Option.map_eq_some_iff.mp hstep
  rw [(h.exec hexec).kept_settle_iff, h.left_iff hexec]

/-- **Step lemma** for the invariant. -/
lemma Inv.step (h : s.Inv) (hkeep : s.KeepsReference a) (hstep : s.step a = some s') : s'.Inv := by
  have hkept := (h.kept_iff hstep).mpr hkeep
  obtain ⟨v, hexec, rfl⟩ := Option.map_eq_some_iff.mp hstep
  exact ⟨hkept, by rw [settle_selfPtr, (h.exec hexec).no_self]⟩

/-- **When filesystem requests are kept**: along a run of a new request, its `uv_fs_t` and its buffer
survive every operation until the callback has returned, and are released afterwards, exactly when
no step drops the last reference to the request, or returns from its last callback without one, while
an operation is in flight. -/
theorem fs_request_kept_iff (c : FsClass) (dirents : Dirent) (as : List (FsLifeAction c)) :
    Visits FsLife.step Kept (create c dirents) as ↔
      Along FsLife.step KeepsReference (create c dirents) as := by
  have hinv := inv_create c dirents
  exact visits_iff_along_of_invariant (I := Inv) hinv.toKept hinv
    (fun _ _ _ h hkeep hstep => h.step hkeep hstep) (fun _ _ _ h hstep => h.kept_iff hstep)

/-- A `file_req` is opened and forgotten: libuv holds the operation of a request that is gone. -/
theorem fs_request_open_not_kept :
    ¬ Visits FsLife.step Kept (create .file FileReq.noDirents)
      [.call (.open "file" 0 0) 0, .drop] := by
  intro h
  have hkept : Kept _ := (h.2 _ rfl).2 _ rfl
  have halive := (hkept.in_flight _ rfl).1
  revert halive
  decide

end FsLife

end Uvw
