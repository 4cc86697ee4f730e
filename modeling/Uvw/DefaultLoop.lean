import Uvw.LoopObjects

/-!
# The default loop

`loop::get_default()` remembers the loop object it returned in a weak pointer and returns it again as
long as it is alive.  The weak pointer follows the life of the object, not that of the `uv_loop_t`
behind it: an object that was closed explicitly is returned all the same while somebody still holds it.
`default_loop_usable_iff` says that this is the only way to get an unusable loop.
-/

namespace Uvw

open TransitionSystem

/-- The actions of a program that gets its loops from `get_default()` only. -/
def LoopObjectAction.onDefault : LoopObjectAction → Bool
  | getDefault _ | copy _ | drop .. | close .. => true
  | _ => false

namespace LoopObjects

variable (s : LoopObjects)

/-- One action of such a program. -/
def defaultStep (a : LoopObjectAction) : Option LoopObjects :=
  if a.onDefault then s.step a else none

/-- The object exists, and its `uv_loop_t` is open. -/
def Usable (x : ℕ) : Prop :=
  0 < s.refs x ∧ ∃ d u, s.uvLoop x = some (d, u) ∧ s.uv u = { opened := true, allocated := true }

/-- `uv_default_loop` can provide a loop: it is open, or can be initialised. -/
def CanProvide (code : Int) : Prop := (s.uv 0).opened = true ∨ code = 0

/-- What is expected of `get_default()` if libuv can provide a loop: it returns a usable loop object,
and the one returned before if it is alive and was not closed. -/
def YieldsUsable (a : LoopObjectAction) : Prop :=
  ∀ code, a = .getDefault code → s.CanProvide code →
    ∃ x, (s.getDefault code).1 = some x ∧ (s.getDefault code).2.Usable x ∧
      ∀ y, 0 < s.refs y → s.uvLoop y ≠ none → x = y

/-- The loop object `get_default()` remembers is not alive and closed. -/
def NotHeldClosed (a : LoopObjectAction) : Prop :=
  ∀ code, a = .getDefault code → s.CanProvide code →
    ∀ x, s.ref = some x → 0 < s.refs x → s.uvLoop x ≠ none

/-- What holds in a program that gets its loops from `get_default()` only. -/
structure DefaultInv : Prop where
  /-- No object but the one remembered is alive. -/
  held : ∀ x, 0 < s.refs x → s.ref = some x
  /-- A non-null pointer is that of a live object and refers to the open default loop. -/
  pointer : ∀ x d u, s.uvLoop x = some (d, u) →
    0 < s.refs x ∧ d = .keep ∧ u = 0 ∧ s.uv 0 = { opened := true, allocated := true }
  allocated : (s.uv 0).allocated = true
  bound : ∀ x, s.ref = some x → x < s.next

variable {s} {s' : LoopObjects} {a : LoopObjectAction} {x : ℕ}

/-- Nobody has asked for the default loop yet. -/
lemma defaultInv_init : init.DefaultInv where
  held _ h := absurd h (Nat.lt_irrefl 0)
  pointer _ _ _ h := nomatch h
  allocated := rfl
  bound _ h := nomatch h

/-- The weak reference has expired when nobody holds the loop. -/
lemma expired_eq_true_iff : s.expired = true ↔ ∀ x, s.ref = some x → s.refs x = 0 := by
  unfold expired
  rw [Option.all_eq_true]
  simp

/-- An expired weak pointer means that no object is alive. -/
lemma DefaultInv.refs_of_expired (h : s.DefaultInv) (hexp : s.expired = true) (x : ℕ) :
    s.refs x = 0 := by
  by_contra hne
  have hpos : 0 < s.refs x := Nat.pos_of_ne_zero hne
  exact hne (expired_eq_true_iff.mp hexp x (h.held x hpos))

/-- A weak pointer that has not expired leads to a live object. -/
lemma exists_of_not_expired (hexp : s.expired = false) : ∃ x, s.ref = some x ∧ 0 < s.refs x := by
  unfold expired at hexp
  cases href : s.ref with
  | none =>
    rw [href] at hexp
    cases hexp
  | some x =>
    rw [href, Option.all_some, decide_eq_false_iff_not] at hexp
    exact ⟨x, rfl, Nat.pos_of_ne_zero hexp⟩

/-! ### Steps -/

/-- Closing a loop keeps the invariant. -/
lemma DefaultInv.closeObject (h : s.DefaultInv) (x : ℕ) (busy : Bool) :
    (s.closeObject x busy).2.DefaultInv := by
  cases hx : s.uvLoop x with
  | none =>
    rw [closeObject_of_none hx]
    exact h
  | some p =>
    obtain ⟨d, u⟩ := p
    obtain ⟨hpos, rfl, rfl, hopen⟩ := h.pointer x d u hx
    -- no other object has a pointer
    have hnone : ∀ y, (s.closeObject x busy).2.uvLoop y = none := by
      intro y
      cases hy : (s.closeObject x busy).2.uvLoop y with
      | none => rfl
      | some q =>
        obtain ⟨hyx, hold⟩ := uvLoop_of_closeObject hy
        have hheld : some x = some y :=
          (h.held x hpos).symm.trans (h.held y (h.pointer y q.1 q.2 hold).1)
        exact absurd (Option.some.inj hheld).symm hyx
    refine ⟨?_, fun y e v hy => ?_, ?_, ?_⟩
    · rw [closeObject_of_some hx]
      exact h.held
    · rw [hnone y] at hy
      cases hy
    · rw [closeObject_uv_self hx, hopen]
      cases busy <;> rfl
    · rw [closeObject_of_some hx]
      exact h.bound

/-- Shared pointers come and go as long as those to live objects with a pointer stay. -/
lemma DefaultInv.withRefs (h : s.DefaultInv) {refs : ℕ → ℕ}
    (hheld : ∀ y, 0 < refs y → 0 < s.refs y)
    (hpos : ∀ y, s.uvLoop y ≠ none → 0 < refs y) : DefaultInv { s with refs } where
  held y hy := h.held y (hheld y hy)
  pointer y d u hy := by
    obtain ⟨-, hrest⟩ := h.pointer y d u hy
    have hne : s.uvLoop y ≠ none := by
      rw [show s.uvLoop y = some (d, u) from hy]
      exact Option.some_ne_none _
    exact ⟨hpos y hne, hrest⟩
  allocated := h.allocated
  bound := h.bound

/-- A loop object with a `uv_loop_t` is held by somebody. -/
lemma DefaultInv.pos_of_ne_none (h : s.DefaultInv) (hx : s.uvLoop x ≠ none) : 0 < s.refs x := by
  obtain ⟨p, hp⟩ := Option.ne_none_iff_exists'.mp hx
  exact (h.pointer x p.1 p.2 hp).1

/-- The end of a reference keeps the invariant. -/
lemma DefaultInv.release (h : s.DefaultInv) (x : ℕ) (busy : Bool) :
    (s.release x busy).DefaultInv := by
  obtain ⟨refs, hle, hne, hrelease | ⟨hpos, hrelease⟩⟩ := release_cases s x busy
  · have hclosed := h.closeObject x busy
    rw [hrelease]
    refine hclosed.withRefs (fun y hy => ?_) fun y hy => ?_
    · rw [closeObject_refs]
      exact hy.trans_le (hle y)
    · have hyx : y ≠ x := by
        rintro rfl
        exact hy (closeObject_uvLoop s y busy)
      rw [hne y hyx, ← closeObject_refs s x busy]
      exact hclosed.pos_of_ne_none hy
  · rw [hrelease]
    refine h.withRefs (fun y hy => hy.trans_le (hle y)) fun y hy => ?_
    by_cases hyx : y = x
    · rw [hyx]
      exact hpos
    · rw [hne y hyx]
      exact h.pos_of_ne_none hy

/-- What `get_default()` does when the weak pointer has expired and libuv provides a loop. -/
lemma getDefault_of_expired {code : Int} (hexp : s.expired = true) (hprov : s.CanProvide code) :
    ∃ uv, s.getDefault code = (some s.next, { s.newObject .keep 0 with ref := some s.next, uv }) ∧
      (uv 0).opened = true ∧ (uv 0).allocated = (s.uv 0).allocated := by
  unfold LoopObjects.getDefault LoopObjects.uvDefaultLoop
  rw [if_pos hexp]
  cases hopen : (s.uv 0).opened with
  | true => exact ⟨s.uv, rfl, hopen, rfl⟩
  | false =>
    have hcode : code = 0 := hprov.resolve_left (by rw [hopen]; exact Bool.false_ne_true)
    rw [if_neg Bool.false_ne_true, if_pos hcode]
    refine ⟨Function.update s.uv 0 { s.uv 0 with opened := true }, rfl, ?_, ?_⟩
    · rw [Function.update_self]
    · rw [Function.update_self]

/-- And when libuv provides none. -/
lemma getDefault_of_not_provided {code : Int} (hexp : s.expired = true) (hprov : ¬ s.CanProvide code) :
    s.getDefault code = (none, { s with ref := none }) := by
  obtain ⟨hopen, hcode⟩ := not_or.mp hprov
  unfold LoopObjects.getDefault LoopObjects.uvDefaultLoop
  rw [if_pos hexp, if_neg hopen, if_neg hcode]

/-- And when the weak pointer can be locked. -/
lemma getDefault_of_not_expired (hexp : s.expired = false) (code : Int) :
    s.getDefault code =
      (s.ref, { s with refs := fun x => if s.ref = some x then s.refs x + 1 else s.refs x }) := by
  unfold LoopObjects.getDefault
  rw [if_neg (by rw [hexp]; exact Bool.false_ne_true)]

/-- **Asking for the default loop** keeps the invariant. -/
lemma DefaultInv.getDefault (h : s.DefaultInv) (code : Int) : (s.getDefault code).2.DefaultInv := by
  cases hexp : s.expired with
  | true =>
    have hrefs := h.refs_of_expired hexp
    have hnone : ∀ x p, s.uvLoop x ≠ some p := by
      intro x p hx
      exact absurd (hrefs x) (Nat.ne_of_gt (h.pointer x p.1 p.2 hx).1)
    by_cases hprov : s.CanProvide code
    · obtain ⟨uv, hres, hopen, halloc⟩ := getDefault_of_expired hexp hprov
      rw [hres]
      have hother : ∀ y, y ≠ s.next → (s.newObject .keep 0).refs y = 0 :=
        fun y hy => (newObject_refs_of_ne hy).trans (hrefs y)
      refine ⟨fun y hy => ?_, fun y d u hy => ?_, halloc.trans h.allocated, fun y hy => ?_⟩
      · by_contra hne
        have hyn : y ≠ s.next := by
          rintro rfl
          exact hne rfl
        have hpos : 0 < (s.newObject .keep 0).refs y := hy
        rw [hother y hyn] at hpos
        exact Nat.lt_irrefl 0 hpos
      · have hnew : (s.newObject .keep 0).uvLoop y = some (d, u) := hy
        by_cases hyn : y = s.next
        · rw [hyn, newObject_uvLoop_next, Option.some.injEq] at hnew
          obtain ⟨rfl, rfl⟩ := Prod.mk.inj hnew
          exact ⟨newObject_refs_pos .keep 0 (Or.inl hyn), rfl, rfl,
            uvLoop_eq hopen (halloc.trans h.allocated)⟩
        · rw [newObject_uvLoop_of_ne hyn] at hnew
          exact absurd hnew (hnone y _)
      · obtain rfl : s.next = y := Option.some.inj hy
        exact Nat.lt_succ_self _
    · rw [getDefault_of_not_provided hexp hprov]
      refine ⟨fun y hy => ?_, h.pointer, h.allocated, nofun⟩
      exact absurd (hrefs y) (Nat.ne_of_gt hy)
  | false =>
    rw [getDefault_of_not_expired hexp]
    refine h.withRefs (fun y hy => ?_) fun y hy => ?_
    · by_cases href : s.ref = some y
      · obtain ⟨x, hx, hpos⟩ := exists_of_not_expired hexp
        obtain rfl : x = y := Option.some.inj (hx.symm.trans href)
        exact hpos
      · rw [if_neg href] at hy
        exact hy
    · have hpos := h.pos_of_ne_none hy
      rw [if_pos (h.held y hpos)]
      exact Nat.succ_pos _

/-- **Step lemma.** -/
lemma defaultInv_step (h : s.DefaultInv) (hstep : s.defaultStep a = some s') : s'.DefaultInv := by
  simp only [defaultStep, Option.ite_none_right_eq_some] at hstep
  obtain ⟨hon, hstep⟩ := hstep
  cases a with
  | getDefault code =>
    obtain rfl := Option.some.inj hstep
    exact h.getDefault code
  | copy x =>
    simp only [step, Option.ite_none_right_eq_some, Option.some.injEq] at hstep
    obtain ⟨hx, rfl⟩ := hstep
    refine h.withRefs (fun y hy => (copy_refs_pos_iff hx).mp hy) fun y hy => ?_
    exact (copy_refs_pos_iff hx).mpr (h.pos_of_ne_none hy)
  | drop x busy =>
    simp only [step, Option.ite_none_right_eq_some, Option.some.injEq] at hstep
    obtain ⟨-, rfl⟩ := hstep
    exact h.release x busy
  | close x busy =>
    simp only [step, Option.ite_none_right_eq_some, Option.some.injEq] at hstep
    obtain ⟨-, rfl⟩ := hstep
    exact h.closeObject x busy
  | _ => cases hon

/-- **Which calls of `get_default()` yield a usable loop.** -/
lemma yieldsUsable_iff (h : s.DefaultInv) : s.YieldsUsable a ↔ s.NotHeldClosed a := by
  refine forall₂_congr fun code _ => forall_congr' fun hprov => ?_
  cases hexp : s.expired with
  | true =>
    obtain ⟨uv, hres, hopen, halloc⟩ := getDefault_of_expired hexp hprov
    have hrefs := h.refs_of_expired hexp
    refine iff_of_true ⟨s.next, ?_, ?_, ?_⟩ ?_
    · rw [hres]
    · rw [hres]
      exact ⟨newObject_refs_pos .keep 0 (Or.inl rfl), .keep, 0, newObject_uvLoop_next s .keep 0,
        uvLoop_eq hopen (halloc.trans h.allocated)⟩
    · intro y hy
      exact absurd (hrefs y) (Nat.ne_of_gt hy)
    · intro x _ hx
      exact absurd (hrefs x) (Nat.ne_of_gt hx)
  | false =>
    rw [getDefault_of_not_expired hexp]
    constructor
    · rintro ⟨x, hx, ⟨-, d, u, hpointer, -⟩, -⟩ y hy _
      obtain rfl : x = y := Option.some.inj (hx.symm.trans hy)
      rw [show s.uvLoop x = some (d, u) from hpointer]
      exact Option.some_ne_none _
    · intro hopen
      obtain ⟨x, hx, hpos⟩ := exists_of_not_expired hexp
      obtain ⟨p, hp⟩ := Option.ne_none_iff_exists'.mp (hopen x hx hpos)
      obtain ⟨-, -, hzero, huv⟩ := h.pointer x p.1 p.2 hp
      refine ⟨x, hx, ⟨?_, p.1, p.2, hp, ?_⟩, fun y hy _ => ?_⟩
      · show 0 < if s.ref = some x then s.refs x + 1 else s.refs x
        rw [if_pos hx]
        exact Nat.succ_pos _
      · rw [hzero]
        exact huv
      · exact Option.some.inj (hx.symm.trans (h.held y hy))

/-- **When `get_default()` always yields a usable loop**: in a run of `get_default()` calls, copies,
drops and closes, every call for which libuv can provide a loop returns a usable one, and the one
returned before if it is alive and not closed, exactly when no such call is made while an explicitly
closed default loop object is still held. -/
theorem default_loop_usable_iff (as : List LoopObjectAction) :
    Along defaultStep YieldsUsable init as ↔ Along defaultStep NotHeldClosed init as :=
  along_congr (fun _ _ _ h _ hstep => defaultInv_step h hstep) (fun _ _ _ h _ => yieldsUsable_iff h)
    defaultInv_init

/-- The default loop is closed and asked for again while the first pointer is still there. -/
theorem default_loop_held_closed_unusable :
    ¬ Along defaultStep YieldsUsable init [.getDefault 0, .close 0 false, .getDefault 0] := by
  intro h
  obtain ⟨x, hx, ⟨-, d, u, hpointer, -⟩, -⟩ :=
    ((h _ rfl).2 _ rfl).2 _ rfl |>.1 0 rfl (Or.inr rfl)
  obtain rfl : 0 = x := Option.some.inj hx
  cases hpointer

end LoopObjects

end Uvw
