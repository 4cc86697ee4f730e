import Uvw.Foundation.TransitionSystem
import Uvw.Loop
import Mathlib.Data.List.Count
import Mathlib.Logic.Function.Basic

/-!
# Loop objects and the `uv_loop_t`s they share

`loop::create()`, `loop::create(uv_loop_t *)` and `loop::get_default()` build loop objects over a new
`uv_loop_t`, one of the caller's and the default one of libuv.  `LoopObjects` holds all loop objects of
a program with the shared pointers to them, the `uv_loop_t`s, of which number `0` is libuv's default
loop, and every call of `uv_loop_close`.  What an object does to its `uv_loop_t` when it is closed is
`Loop.close`.

`uv_loop_close_open_iff` says in which runs `uv_loop_close` is applied to open loops only, however the
loop objects are closed and destroyed.
-/

namespace Uvw

open TransitionSystem

/-- The loop objects of a program and the `uv_loop_t`s. -/
structure LoopObjects where
  /-- The number of the next loop object. -/
  next : ℕ
  /-- The `uv_loop` of a loop object: null, or a deleter and the `uv_loop_t` it points to. -/
  uvLoop : ℕ → Option (LoopDeleter × ℕ)
  /-- The shared pointers to a loop object. -/
  refs : ℕ → ℕ
  /-- The weak pointer `ref` of `get_default`. -/
  ref : Option ℕ
  /-- The number of the next `uv_loop_t`. -/
  nextUv : ℕ
  uv : ℕ → UvLoop
  /-- The memory comes from the `new` of `create()`. -/
  heap : ℕ → Bool
  /-- The `uv_loop_t`s that calls of `uv_loop_close` were applied to, as they were then. -/
  closes : List UvLoop
  /-- The `uv_loop_t`s that were deleted. -/
  deletes : List ℕ

/-- What a program can do with loops.  `busy` is what `uv_loop_close` finds if it is called. -/
inductive LoopObjectAction
  /-- `loop::create()`, `code` being what `uv_loop_init` returns. -/
  | create (code : Int) (busy : Bool)
  /-- The program initialises a `uv_loop_t` of its own, a new one or one that was closed. -/
  | uvLoopInit (u : ℕ)
  /-- `loop::create(uv_loop_t *)`. -/
  | createFrom (u : ℕ)
  /-- `loop::get_default()`; `code` is what `uv_loop_init` returns if libuv has to call it. -/
  | getDefault (code : Int)
  /-- A shared pointer is copied. -/
  | copy (x : ℕ)
  /-- A shared pointer is dropped. -/
  | drop (x : ℕ) (busy : Bool)
  /-- `loop::close()`. -/
  | close (x : ℕ) (busy : Bool)
deriving DecidableEq, Repr

namespace LoopObjects

/-- libuv's default loop, which is not initialised, and no loop object. -/
def init : LoopObjects where
  next := 0
  uvLoop := fun _ => none
  refs := fun _ => 0
  ref := none
  nextUv := 1
  uv := fun _ => { opened := false, allocated := true }
  heap := fun _ => false
  closes := []
  deletes := []

variable (s : LoopObjects)

/-- `loop::close()` on the object `x`. -/
def closeObject (x : ℕ) (busy : Bool) : Int × LoopObjects :=
  match s.uvLoop x with
  | none => (0, s)
  | some (d, u) =>
    let r := Loop.close busy { uvLoop := some d, uv := s.uv u }
    (r.1, { s with
      uvLoop := Function.update s.uvLoop x none
      uv := Function.update s.uv u r.2.uv
      closes := s.closes ++ [s.uv u]
      deletes := if d = .delete then s.deletes ++ [u] else s.deletes })

/-- `loop::~loop`. -/
def destroy (x : ℕ) (busy : Bool) : LoopObjects :=
  if (s.uvLoop x).isSome then (s.closeObject x busy).2 else s

/-- One shared pointer to `x` less; the last one takes the object with it. -/
def release (x : ℕ) (busy : Bool) : LoopObjects :=
  let s := { s with refs := Function.update s.refs x (s.refs x - 1) }
  if s.refs x = 0 then s.destroy x busy else s

/-- A new loop object over a `uv_loop_t`, with one shared pointer to it. -/
def newObject (d : LoopDeleter) (u : ℕ) : LoopObjects :=
  { s with
    next := s.next + 1
    uvLoop := Function.update s.uvLoop s.next (some (d, u))
    refs := Function.update s.refs s.next 1 }

/-- A new `uv_loop_t`. -/
def newUv (heap opened : Bool) : LoopObjects :=
  { s with
    nextUv := s.nextUv + 1
    uv := Function.update s.uv s.nextUv { opened, allocated := true }
    heap := Function.update s.heap s.nextUv heap }

/-- `loop::create()`: if `uv_loop_init` fails the shared pointer is reset. -/
def create (code : Int) (busy : Bool) : LoopObjects :=
  let curr := s.next
  let s := (s.newUv true (decide (code = 0))).newObject .delete s.nextUv
  if code ≠ 0 then s.release curr busy else s

/-- `loop::create(uv_loop_t *)`. -/
def createFrom (u : ℕ) : LoopObjects := s.newObject .keep u

/-- `uv_default_loop`: the default loop, initialised if it is not open. -/
def uvDefaultLoop (code : Int) : Option ℕ × LoopObjects :=
  if (s.uv 0).opened then (some 0, s)
  else if code = 0 then
    (some 0, { s with uv := Function.update s.uv 0 { s.uv 0 with opened := true } })
  else (none, s)

/-- `ref.expired()`. -/
def expired : Bool := s.ref.all fun x => decide (s.refs x = 0)

/-- `loop::get_default()`. -/
def getDefault (code : Int) : Option ℕ × LoopObjects :=
  if s.expired then
    match s.uvDefaultLoop code with
    | (some u, s) => (some s.next, { s.newObject .keep u with ref := some s.next })
    | (none, s) => (none, { s with ref := none })
  else
    -- `ref.lock()`
    (s.ref, { s with refs := fun x => if s.ref = some x then s.refs x + 1 else s.refs x })

/-- One action. -/
def step : LoopObjectAction → Option LoopObjects
  | .create code busy => some (s.create code busy)
  | .uvLoopInit u =>
    if u = s.nextUv then some (s.newUv false true)
    else if 0 < u ∧ u < s.nextUv ∧ s.heap u = false ∧ (s.uv u).opened = false then
      some { s with uv := Function.update s.uv u { s.uv u with opened := true } }
    else none
  | .createFrom u =>
    if u < s.nextUv ∧ (s.uv u).opened ∧ (s.uv u).allocated then some (s.createFrom u) else none
  | .getDefault code => some (s.getDefault code).2
  | .copy x =>
    if 0 < s.refs x then some { s with refs := Function.update s.refs x (s.refs x + 1) } else none
  | .drop x busy => if 0 < s.refs x then some (s.release x busy) else none
  | .close x busy => if 0 < s.refs x then some (s.closeObject x busy).2 else none

/-- What is expected of the closes and of the memory allocated by `create()`. -/
structure Sound : Prop where
  /-- `uv_loop_close` was applied to open loops only. -/
  closes : ∀ uv ∈ s.closes, uv = { opened := true, allocated := true }
  /-- Memory from `create()` was deleted exactly once, or belongs to a loop object and was not. -/
  heap : ∀ u, s.heap u = true →
    s.deletes.count u = 1 ∨ s.deletes.count u = 0 ∧ ∃ x, s.uvLoop x = some (.delete, u)
  /-- Other memory is not deleted. -/
  other : ∀ u, s.heap u = false → s.deletes.count u = 0

end LoopObjects

/-- Closing or destroying a loop object. -/
def LoopObjectAction.isClosing : LoopObjectAction → Bool
  | drop .. | close .. => true
  | _ => false

namespace LoopObjects

variable (s : LoopObjects)

/-- The loop objects can be closed any number of times and destroyed in any order. -/
def Closable : Prop :=
  ∀ bs : List LoopObjectAction, (∀ b ∈ bs, b.isClosing = true) → Visits step Sound s bs

/-- No loop object refers to the `uv_loop_t`. -/
def Unreferred (u : ℕ) : Prop := ∀ x d, s.uvLoop x ≠ some (d, u)

/-- `uv_loop_init` does not fail in `create()`, and a loop object is built on a `uv_loop_t` that no
other one refers to. -/
def BuiltAlone : LoopObjectAction → Prop
  | .create code _ => code = 0
  | .createFrom u => s.Unreferred u
  | .getDefault _ => s.expired = true → s.Unreferred 0
  | _ => True

/-- What holds as long as that is so. -/
structure Inv : Prop where
  /-- A loop object with a non-null pointer exists and refers to an open loop. -/
  referred : ∀ x d u, s.uvLoop x = some (d, u) →
    x < s.next ∧ 0 < s.refs x ∧ u < s.nextUv ∧ s.uv u = { opened := true, allocated := true }
  /-- No two refer to the same one. -/
  alone : ∀ x y d e u, s.uvLoop x = some (d, u) → s.uvLoop y = some (e, u) → x = y
  closes : ∀ uv ∈ s.closes, uv = { opened := true, allocated := true }
  heap : ∀ u, s.heap u = true →
    u < s.nextUv ∧ (s.deletes.count u = 1 ∧ s.Unreferred u ∧ (s.uv u).allocated = false ∨
      s.deletes.count u = 0 ∧ ∃ x, s.uvLoop x = some (.delete, u))
  other : ∀ u, s.heap u = false →
    s.deletes.count u = 0 ∧ (s.uv u).allocated = true ∧ ∀ x d, s.uvLoop x = some (d, u) → d = .keep
  /-- The default loop is libuv's. -/
  default : s.heap 0 = false ∧ 0 < s.nextUv

variable {s} {s' : LoopObjects} {a : LoopObjectAction} {x y u : ℕ} {d e : LoopDeleter}

lemma inv_init : init.Inv where
  referred _ _ _ h := nomatch h
  alone _ _ _ _ _ h := nomatch h
  closes _ h := absurd h List.not_mem_nil
  heap _ h := nomatch h
  other _ _ := ⟨rfl, rfl, nofun⟩
  default := ⟨rfl, Nat.one_pos⟩

lemma Inv.sound (h : s.Inv) : s.Sound where
  closes := h.closes
  heap u hu := (h.heap u hu).2.imp And.left id
  other u hu := (h.other u hu).1

/-! ### Objects and their shared pointers -/

lemma newObject_uvLoop_next (s : LoopObjects) (d : LoopDeleter) (u : ℕ) :
    (s.newObject d u).uvLoop s.next = some (d, u) :=
  Function.update_self _ _ _

lemma newObject_uvLoop_of_ne (hy : y ≠ s.next) : (s.newObject d u).uvLoop y = s.uvLoop y :=
  Function.update_of_ne hy _ _

lemma newObject_refs_next (s : LoopObjects) (d : LoopDeleter) (u : ℕ) :
    (s.newObject d u).refs s.next = 1 :=
  Function.update_self _ _ _

lemma newObject_refs_of_ne (hy : y ≠ s.next) : (s.newObject d u).refs y = s.refs y :=
  Function.update_of_ne hy _ _

/-- The new object has a shared pointer, and so have those that had one. -/
lemma newObject_refs_pos (d : LoopDeleter) (u : ℕ) (h : y = s.next ∨ 0 < s.refs y) :
    0 < (s.newObject d u).refs y := by
  by_cases hyn : y = s.next
  · rw [hyn, newObject_refs_next]
    exact Nat.one_pos
  · rw [newObject_refs_of_ne hyn]
    exact h.resolve_left hyn

/-- Copying a shared pointer neither revives an object nor leaves one without. -/
lemma copy_refs_pos_iff {refs : ℕ → ℕ} (hx : 0 < refs x) :
    0 < Function.update refs x (refs x + 1) y ↔ 0 < refs y := by
  by_cases hyx : y = x
  · rw [hyx, Function.update_self]
    exact iff_of_true (Nat.succ_pos _) hx
  · rw [Function.update_of_ne hyx]

/-! ### Closing -/

/-- The state after closing an object with a non-null pointer. -/
lemma closeObject_of_some (hx : s.uvLoop x = some (d, u)) (busy : Bool) :
    (s.closeObject x busy).2 = { s with
      uvLoop := Function.update s.uvLoop x none
      uv := Function.update s.uv u (d.run (uvLoopClose busy (s.uv u)).2)
      closes := s.closes ++ [s.uv u]
      deletes := if d = .delete then s.deletes ++ [u] else s.deletes } := by
  rw [closeObject, hx]
  rfl

lemma closeObject_of_none (hx : s.uvLoop x = none) (busy : Bool) :
    (s.closeObject x busy).2 = s := by
  rw [closeObject, hx]

/-- The destructor does what `close` does. -/
lemma destroy_eq (s : LoopObjects) (x : ℕ) (busy : Bool) :
    s.destroy x busy = (s.closeObject x busy).2 := by
  unfold destroy
  cases hx : s.uvLoop x with
  | none => rw [closeObject_of_none hx]; rfl
  | some p => rfl

/-- The pointer is null afterwards. -/
lemma closeObject_uvLoop (s : LoopObjects) (x : ℕ) (busy : Bool) :
    (s.closeObject x busy).2.uvLoop x = none := by
  cases hx : s.uvLoop x with
  | none => rw [closeObject_of_none hx, hx]
  | some p =>
    rw [closeObject_of_some hx]
    exact Function.update_self x none s.uvLoop

/-- The pointers of the other objects stay. -/
lemma closeObject_uvLoop_of_ne (hyx : y ≠ x) (busy : Bool) :
    (s.closeObject x busy).2.uvLoop y = s.uvLoop y := by
  cases hx : s.uvLoop x with
  | none => rw [closeObject_of_none hx]
  | some p =>
    rw [closeObject_of_some hx]
    exact Function.update_of_ne hyx _ _

/-- An object with a non-null pointer afterwards is another one and had it before. -/
lemma uvLoop_of_closeObject {busy : Bool} {p : LoopDeleter × ℕ}
    (hy : (s.closeObject x busy).2.uvLoop y = some p) : y ≠ x ∧ s.uvLoop y = some p := by
  have hyx : y ≠ x := by
    rintro rfl
    rw [closeObject_uvLoop] at hy
    cases hy
  exact ⟨hyx, (closeObject_uvLoop_of_ne hyx busy).symm.trans hy⟩

lemma closeObject_refs (s : LoopObjects) (x : ℕ) (busy : Bool) :
    (s.closeObject x busy).2.refs = s.refs := by
  cases hx : s.uvLoop x with
  | none => rw [closeObject_of_none hx]
  | some p => rw [closeObject_of_some hx]

/-- The shared pointers do not matter for a close. -/
lemma closeObject_withRefs (s : LoopObjects) (refs : ℕ → ℕ) (x : ℕ) (busy : Bool) :
    (LoopObjects.closeObject { s with refs } x busy).2 = { (s.closeObject x busy).2 with refs } := by
  let t : LoopObjects := { s with refs }
  cases hx : s.uvLoop x with
  | none =>
    have ht : t.uvLoop x = none := hx
    rw [closeObject_of_none ht, closeObject_of_none hx]
  | some p =>
    have ht : t.uvLoop x = some p := hx
    rw [closeObject_of_some ht, closeObject_of_some hx]

/-- **Dropping a shared pointer**: the last one closes the object, and only `x` has one less. -/
lemma release_cases (s : LoopObjects) (x : ℕ) (busy : Bool) :
    ∃ refs : ℕ → ℕ, (∀ y, refs y ≤ s.refs y) ∧ (∀ y, y ≠ x → refs y = s.refs y) ∧
      (s.release x busy = { (s.closeObject x busy).2 with refs } ∨
        0 < refs x ∧ s.release x busy = { s with refs }) := by
  let refs : ℕ → ℕ := Function.update s.refs x (s.refs x - 1)
  have hself : refs x = s.refs x - 1 := Function.update_self _ _ _
  have hne : ∀ y, y ≠ x → refs y = s.refs y := fun y hy => Function.update_of_ne hy _ _
  refine ⟨refs, fun y => ?_, hne, ?_⟩
  · by_cases hyx : y = x
    · rw [hyx, hself]
      exact Nat.sub_le _ _
    · exact (hne y hyx).le
  · unfold LoopObjects.release
    by_cases hlast : refs x = 0
    · left
      rw [if_pos hlast, destroy_eq, closeObject_withRefs]
    · right
      rw [if_neg hlast]
      exact ⟨Nat.pos_of_ne_zero hlast, rfl⟩

section CloseSome

variable (hx : s.uvLoop x = some (d, u)) (busy : Bool)

include hx

/-- The loop has been through `uv_loop_close` and the deleter. -/
lemma closeObject_uv_self :
    (s.closeObject x busy).2.uv u = d.run (uvLoopClose busy (s.uv u)).2 := by
  rw [closeObject_of_some hx]
  exact Function.update_self _ _ _

lemma closeObject_uv_of_ne {v : ℕ} (hv : v ≠ u) : (s.closeObject x busy).2.uv v = s.uv v := by
  rw [closeObject_of_some hx]
  exact Function.update_of_ne hv _ _

/-- Its block is deleted if `create()` allocated it. -/
lemma closeObject_count_self :
    (s.closeObject x busy).2.deletes.count u = s.deletes.count u + if d = .delete then 1 else 0 := by
  rw [closeObject_of_some hx]
  cases d with
  | delete => exact (List.count_append ..).trans (by rw [List.count_singleton_self]; rfl)
  | keep => rfl

lemma closeObject_count_of_ne {v : ℕ} (hv : v ≠ u) :
    (s.closeObject x busy).2.deletes.count v = s.deletes.count v := by
  rw [closeObject_of_some hx]
  cases d with
  | delete => exact (List.count_append ..).trans (by simp [Ne.symm hv])
  | keep => rfl

end CloseSome

/-- An object that still has its pointer refers to another `uv_loop_t`. -/
lemma Inv.ne_of_closeObject (h : s.Inv) (hx : s.uvLoop x = some (d, u)) {busy : Bool} {v : ℕ}
    (hy : (s.closeObject x busy).2.uvLoop y = some (e, v)) :
    y ≠ x ∧ s.uvLoop y = some (e, v) ∧ v ≠ u := by
  obtain ⟨hyx, hold⟩ := uvLoop_of_closeObject hy
  refine ⟨hyx, hold, ?_⟩
  rintro rfl
  exact hyx (h.alone y x e d v hold hx)

/-- What becomes of the memory allocated by `create()`. -/
lemma Inv.heap_closeObject (h : s.Inv) (hx : s.uvLoop x = some (d, u)) (busy : Bool) {v : ℕ}
    (hv : s.heap v = true) :
    (s.closeObject x busy).2.deletes.count v = 1 ∧ (s.closeObject x busy).2.Unreferred v ∧
        ((s.closeObject x busy).2.uv v).allocated = false ∨
      (s.closeObject x busy).2.deletes.count v = 0 ∧
        ∃ y, (s.closeObject x busy).2.uvLoop y = some (.delete, v) := by
  obtain ⟨-, hcase⟩ := h.heap v hv
  by_cases hvu : v = u
  · -- the block goes with the object, which is the one that owns it
    subst hvu
    obtain ⟨hzero, x', hx'⟩ := hcase.resolve_left fun hgone => hgone.2.1 x d hx
    obtain rfl : x' = x := h.alone x' x .delete d v hx' hx
    obtain rfl : LoopDeleter.delete = d := (Prod.mk.inj (Option.some.inj (hx'.symm.trans hx))).1
    refine Or.inl ⟨?_, fun y e hy => (h.ne_of_closeObject hx hy).2.2 rfl, ?_⟩
    · rw [closeObject_count_self hx, hzero, if_pos rfl]
    · rw [closeObject_uv_self hx]
      rfl
  · rw [closeObject_count_of_ne hx busy hvu, closeObject_uv_of_ne hx busy hvu]
    rcases hcase with ⟨hone, hfree, halloc⟩ | ⟨hzero, z, hz⟩
    · exact Or.inl ⟨hone, fun y e hy => hfree y e (h.ne_of_closeObject hx hy).2.1, halloc⟩
    · have hzx : z ≠ x := by
        rintro rfl
        exact hvu (Prod.mk.inj (Option.some.inj (hz.symm.trans hx))).2
      exact Or.inr ⟨hzero, z, (closeObject_uvLoop_of_ne hzx busy).trans hz⟩

/-- Other memory is left alone. -/
lemma Inv.other_closeObject (h : s.Inv) (hx : s.uvLoop x = some (d, u)) (busy : Bool) {v : ℕ}
    (hv : s.heap v = false) :
    (s.closeObject x busy).2.deletes.count v = 0 ∧
      ((s.closeObject x busy).2.uv v).allocated = true := by
  obtain ⟨hzero, halloc, hkeep⟩ := h.other v hv
  by_cases hvu : v = u
  · subst hvu
    obtain rfl : d = .keep := hkeep x d hx
    rw [closeObject_count_self hx, closeObject_uv_self hx, (h.referred x .keep v hx).2.2.2]
    cases busy <;> exact ⟨hzero, rfl⟩
  · rw [closeObject_count_of_ne hx busy hvu, closeObject_uv_of_ne hx busy hvu]
    exact ⟨hzero, halloc⟩

lemma closeObject_closes (hx : s.uvLoop x = some (d, u)) (busy : Bool) :
    (s.closeObject x busy).2.closes = s.closes ++ [s.uv u] := by
  rw [closeObject_of_some hx]

/-- A close makes and forgets no object, `uv_loop_t` or block. -/
lemma closeObject_names (s : LoopObjects) (x : ℕ) (busy : Bool) :
    (s.closeObject x busy).2.next = s.next ∧ (s.closeObject x busy).2.nextUv = s.nextUv ∧
      (s.closeObject x busy).2.heap = s.heap := by
  cases hx : s.uvLoop x with
  | none =>
    rw [closeObject_of_none hx]
    exact ⟨rfl, rfl, rfl⟩
  | some p =>
    rw [closeObject_of_some hx]
    exact ⟨rfl, rfl, rfl⟩

/-- Closing an object keeps the invariant. -/
lemma Inv.closeObject (h : s.Inv) (x : ℕ) (busy : Bool) : (s.closeObject x busy).2.Inv := by
  cases hx : s.uvLoop x with
  | none =>
    rw [closeObject_of_none hx]
    exact h
  | some p =>
    obtain ⟨d, u⟩ := p
    obtain ⟨hnext, hnextUv, hheap⟩ := closeObject_names s x busy
    refine ⟨fun y e v hy => ?_, fun y z e f v hy hz => ?_, fun uv huv => ?_, fun v hv => ?_,
      fun v hv => ?_, ?_⟩
    · obtain ⟨-, hy', hv⟩ := h.ne_of_closeObject hx hy
      rw [hnext, hnextUv, closeObject_refs, closeObject_uv_of_ne hx busy hv]
      exact h.referred y e v hy'
    · exact h.alone y z e f v (h.ne_of_closeObject hx hy).2.1 (h.ne_of_closeObject hx hz).2.1
    · rw [closeObject_closes hx, List.mem_append, List.mem_singleton] at huv
      rcases huv with huv | rfl
      · exact h.closes uv huv
      · exact (h.referred x d u hx).2.2.2
    · rw [hheap] at hv
      rw [hnextUv]
      exact ⟨(h.heap v hv).1, h.heap_closeObject hx busy hv⟩
    · rw [hheap] at hv
      obtain ⟨hzero, halloc⟩ := h.other_closeObject hx busy hv
      exact ⟨hzero, halloc, fun y e hy => (h.other v hv).2.2 y e (h.ne_of_closeObject hx hy).2.1⟩
    · rw [hheap, hnextUv]
      exact h.default

/-- The shared pointers can change as long as no object that refers to a loop is left without. -/
lemma Inv.withRefs (h : s.Inv) {refs : ℕ → ℕ} (ref : Option ℕ)
    (hpos : ∀ y p, s.uvLoop y = some p → 0 < refs y) : Inv { s with refs, ref } where
  referred y e v hy := by
    obtain ⟨hlt, -, hvlt, hopen⟩ := h.referred y e v hy
    exact ⟨hlt, hpos y (e, v) hy, hvlt, hopen⟩
  alone := h.alone
  closes := h.closes
  heap := h.heap
  other := h.other
  default := h.default

/-- Dropping a shared pointer keeps the invariant. -/
lemma Inv.release (h : s.Inv) (x : ℕ) (busy : Bool) : (s.release x busy).Inv := by
  obtain ⟨refs, -, hne, hrelease | ⟨hpos, hrelease⟩⟩ := release_cases s x busy
  · have hclosed := h.closeObject x busy
    rw [hrelease]
    refine hclosed.withRefs _ fun y p hy => ?_
    have hyx : y ≠ x := (uvLoop_of_closeObject hy).1
    rw [hne y hyx, ← closeObject_refs s x busy]
    exact (hclosed.referred y p.1 p.2 hy).2.1
  · rw [hrelease]
    refine h.withRefs s.ref fun y p hy => ?_
    by_cases hyx : y = x
    · rw [hyx]
      exact hpos
    · rw [hne y hyx]
      exact (h.referred y p.1 p.2 hy).2.1

/-! ### Building -/

/-- What holds when a loop object is about to be built on `u`: the invariant, except that the block of
`u` may wait for its owner, and nobody refers to `u`, which is open. -/
structure Buildable (s : LoopObjects) (d : LoopDeleter) (u : ℕ) : Prop where
  referred : ∀ x d v, s.uvLoop x = some (d, v) →
    x < s.next ∧ 0 < s.refs x ∧ v < s.nextUv ∧ s.uv v = { opened := true, allocated := true }
  alone : ∀ x y d e v, s.uvLoop x = some (d, v) → s.uvLoop y = some (e, v) → x = y
  closes : ∀ uv ∈ s.closes, uv = { opened := true, allocated := true }
  heap : ∀ v, s.heap v = true →
    v < s.nextUv ∧ (v = u ∧ d = .delete ∧ s.deletes.count v = 0 ∨
      s.deletes.count v = 1 ∧ s.Unreferred v ∧ (s.uv v).allocated = false ∨
        s.deletes.count v = 0 ∧ ∃ x, s.uvLoop x = some (.delete, v))
  other : ∀ v, s.heap v = false → (v = u → d = .keep) ∧ s.deletes.count v = 0 ∧
    (s.uv v).allocated = true ∧ ∀ x d, s.uvLoop x = some (d, v) → d = .keep
  default : s.heap 0 = false ∧ 0 < s.nextUv
  lt : u < s.nextUv
  opened : s.uv u = { opened := true, allocated := true }
  free : s.Unreferred u

/-- Building it gives the invariant. -/
lemma Buildable.newObject (h : s.Buildable d u) : (s.newObject d u).Inv := by
  have hself : (s.newObject d u).uvLoop s.next = some (d, u) := newObject_uvLoop_next s d u
  -- an object is the new one or an old one that refers to another `uv_loop_t`
  have hcases : ∀ y e v, (s.newObject d u).uvLoop y = some (e, v) →
      y = s.next ∧ e = d ∧ v = u ∨ y ≠ s.next ∧ s.uvLoop y = some (e, v) ∧ v ≠ u := by
    intro y e v hy
    by_cases hyn : y = s.next
    · rw [hyn, hself] at hy
      obtain ⟨rfl, rfl⟩ := Prod.mk.inj (Option.some.inj hy)
      exact Or.inl ⟨hyn, rfl, rfl⟩
    · have hold : s.uvLoop y = some (e, v) := (newObject_uvLoop_of_ne hyn).symm.trans hy
      refine Or.inr ⟨hyn, hold, ?_⟩
      rintro rfl
      exact h.free y e hold
  have hold : ∀ y p, s.uvLoop y = some p → (s.newObject d u).uvLoop y = some p := by
    intro y p hy
    have hyn : y ≠ s.next := Nat.ne_of_lt (h.referred y p.1 p.2 hy).1
    exact (newObject_uvLoop_of_ne hyn).trans hy
  refine ⟨?_, ?_, h.closes, ?_, ?_, h.default⟩
  · intro y e v hy
    rcases hcases y e v hy with ⟨rfl, rfl, rfl⟩ | ⟨-, hy', -⟩
    · exact ⟨Nat.lt_succ_self s.next, newObject_refs_pos _ _ (Or.inl rfl), h.lt, h.opened⟩
    · obtain ⟨hlt, hpos, hvlt, hvopen⟩ := h.referred y e v hy'
      exact ⟨Nat.lt_succ_of_lt hlt, newObject_refs_pos d u (Or.inr hpos), hvlt, hvopen⟩
  · intro y z e f v hy hz
    rcases hcases y e v hy with ⟨rfl, -, rfl⟩ | ⟨-, hy', hv⟩
    · rcases hcases z f v hz with ⟨rfl, -, -⟩ | ⟨-, -, hv⟩
      · rfl
      · exact absurd rfl hv
    · rcases hcases z f v hz with ⟨-, -, rfl⟩ | ⟨-, hz', -⟩
      · exact absurd rfl hv
      · exact h.alone y z e f v hy' hz'
  · intro v hv
    obtain ⟨hlt, ⟨rfl, rfl, hzero⟩ | ⟨hone, hgone, halloc⟩ | ⟨hzero, x, hx⟩⟩ := h.heap v hv
    · exact ⟨hlt, Or.inr ⟨hzero, s.next, hself⟩⟩
    · have hvu : v ≠ u := by
        rintro rfl
        rw [h.opened] at halloc
        cases halloc
      refine ⟨hlt, Or.inl ⟨hone, fun y e hy => ?_, halloc⟩⟩
      rcases hcases y e v hy with ⟨-, -, heq⟩ | ⟨-, hy', -⟩
      · exact hvu heq
      · exact hgone y e hy'
    · exact ⟨hlt, Or.inr ⟨hzero, x, hold x _ hx⟩⟩
  · intro v hv
    obtain ⟨hkeep, hzero, halloc, hrefs⟩ := h.other v hv
    refine ⟨hzero, halloc, fun y e hy => ?_⟩
    rcases hcases y e v hy with ⟨-, rfl, rfl⟩ | ⟨-, hy', -⟩
    · exact hkeep rfl
    · exact hrefs y e hy'

/-- `create(uv_loop_t *)` and `get_default` on a `uv_loop_t` that nobody refers to. -/
lemma Inv.newObject (h : s.Inv) (hlt : u < s.nextUv)
    (hopen : s.uv u = { opened := true, allocated := true }) (hfree : s.Unreferred u) :
    (s.newObject .keep u).Inv := by
  refine Buildable.newObject { h with
    heap := fun v hv => ⟨(h.heap v hv).1, Or.inr (h.heap v hv).2⟩
    other := fun v hv => ⟨fun _ => rfl, h.other v hv⟩
    lt := hlt
    opened := hopen
    free := hfree }

/-- A `uv_loop_t` that does not exist yet is referred to by nobody. -/
lemma Inv.unreferred_nextUv (h : s.Inv) : s.Unreferred s.nextUv := by
  intro x d hx
  exact Nat.lt_irrefl s.nextUv (h.referred x d s.nextUv hx).2.2.1

lemma Inv.ne_nextUv (h : s.Inv) {v : ℕ} (hx : s.uvLoop x = some (d, v)) : v ≠ s.nextUv := by
  rintro rfl
  exact h.unreferred_nextUv x d hx

/-- Nor has it been deleted. -/
lemma Inv.count_nextUv (h : s.Inv) : s.deletes.count s.nextUv = 0 := by
  cases hheap : s.heap s.nextUv with
  | false => exact (h.other s.nextUv hheap).1
  | true => exact absurd (h.heap s.nextUv hheap).1 (Nat.lt_irrefl s.nextUv)

lemma newUv_uv_of_ne {v : ℕ} (hv : v ≠ s.nextUv) (heap opened : Bool) :
    (s.newUv heap opened).uv v = s.uv v :=
  Function.update_of_ne hv _ _

lemma newUv_heap_of_ne {v : ℕ} (hv : v ≠ s.nextUv) (heap opened : Bool) :
    (s.newUv heap opened).heap v = s.heap v :=
  Function.update_of_ne hv _ _

/-- What holds of the loop objects is not affected by a new `uv_loop_t`. -/
lemma Inv.referred_newUv (h : s.Inv) (heap opened : Bool) (x : ℕ) (d : LoopDeleter) (v : ℕ)
    (hx : s.uvLoop x = some (d, v)) :
    x < s.next ∧ 0 < s.refs x ∧ v < s.nextUv + 1 ∧
      (s.newUv heap opened).uv v = { opened := true, allocated := true } := by
  obtain ⟨hlt, hpos, hvlt, hopen⟩ := h.referred x d v hx
  rw [newUv_uv_of_ne (h.ne_nextUv hx)]
  exact ⟨hlt, hpos, Nat.lt_succ_of_lt hvlt, hopen⟩

lemma Inv.default_newUv (h : s.Inv) (heap opened : Bool) :
    (s.newUv heap opened).heap 0 = false ∧ 0 < s.nextUv + 1 := by
  rw [newUv_heap_of_ne (Nat.ne_of_lt h.default.2)]
  exact ⟨h.default.1, Nat.succ_pos _⟩

/-- `create()`, when `uv_loop_init` succeeds. -/
lemma Inv.create (h : s.Inv) (busy : Bool) : (s.create 0 busy).Inv := by
  have hnew : (s.newUv true true).heap s.nextUv = true := Function.update_self _ _ _
  suffices hbuildable : (s.newUv true true).Buildable .delete s.nextUv from hbuildable.newObject
  refine { h with
    referred := h.referred_newUv true true
    heap := fun v hv => ?_
    other := fun v hv => ?_
    default := h.default_newUv true true
    lt := Nat.lt_succ_self s.nextUv
    opened := Function.update_self _ _ _
    free := h.unreferred_nextUv }
  · by_cases hv' : v = s.nextUv
    · rw [hv']
      exact ⟨Nat.lt_succ_self _, Or.inl ⟨rfl, rfl, h.count_nextUv⟩⟩
    · rw [newUv_heap_of_ne hv'] at hv
      obtain ⟨hlt, hcase⟩ := h.heap v hv
      rw [newUv_uv_of_ne hv']
      exact ⟨Nat.lt_succ_of_lt hlt, Or.inr hcase⟩
  · have hv' : v ≠ s.nextUv := by
      rintro rfl
      rw [hnew] at hv
      cases hv
    rw [newUv_heap_of_ne hv'] at hv
    rw [newUv_uv_of_ne hv']
    exact ⟨fun heq => absurd heq hv', h.other v hv⟩

/-- The program initialises a new `uv_loop_t`. -/
lemma Inv.newUv (h : s.Inv) : (s.newUv false true).Inv := by
  have hnew : (s.newUv false true).heap s.nextUv = false := Function.update_self _ _ _
  refine { h with
    referred := h.referred_newUv false true
    heap := fun v hv => ?_
    other := fun v hv => ?_
    default := h.default_newUv false true }
  · have hv' : v ≠ s.nextUv := by
      rintro rfl
      rw [hnew] at hv
      cases hv
    rw [newUv_heap_of_ne hv'] at hv
    obtain ⟨hlt, hcase⟩ := h.heap v hv
    rw [newUv_uv_of_ne hv']
    exact ⟨Nat.lt_succ_of_lt hlt, hcase⟩
  · by_cases hv' : v = s.nextUv
    · rw [hv']
      refine ⟨h.count_nextUv, ?_, fun x d hx => absurd hx (h.unreferred_nextUv x d)⟩
      show (Function.update s.uv s.nextUv _ s.nextUv).allocated = true
      rw [Function.update_self]
    · rw [newUv_heap_of_ne hv'] at hv
      rw [newUv_uv_of_ne hv']
      exact h.other v hv

/-- A loop that is not open is referred to by nobody. -/
lemma Inv.unreferred_of_closed (h : s.Inv) (hclosed : (s.uv u).opened = false) : s.Unreferred u := by
  intro x d hx
  rw [(h.referred x d u hx).2.2.2] at hclosed
  cases hclosed

/-- A closed `uv_loop_t` that was not allocated by `create()` is initialised again. -/
lemma Inv.reopen (h : s.Inv) (hheap : s.heap u = false) (hclosed : (s.uv u).opened = false) :
    Inv { s with uv := Function.update s.uv u { s.uv u with opened := true } } := by
  have hfree := h.unreferred_of_closed hclosed
  refine { h with
    referred := fun x d v hx => ?_
    heap := fun v hv => ?_
    other := fun v hv => ?_ }
  · have hvu : v ≠ u := by
      rintro rfl
      exact hfree x d hx
    obtain ⟨hlt, hpos, hvlt, hopen⟩ := h.referred x d v hx
    exact ⟨hlt, hpos, hvlt, (Function.update_of_ne hvu _ _).trans hopen⟩
  · have hvu : v ≠ u := by
      rintro rfl
      rw [hheap] at hv
      cases hv
    show _ ∧ (_ ∧ _ ∧ (Function.update s.uv u _ v).allocated = false ∨ _)
    rw [Function.update_of_ne hvu]
    exact h.heap v hv
  · obtain ⟨hzero, halloc, hkeep⟩ := h.other v hv
    refine ⟨hzero, ?_, hkeep⟩
    by_cases hvu : v = u
    · show (Function.update s.uv u _ v).allocated = true
      rw [hvu, Function.update_self]
      exact hvu ▸ halloc
    · show (Function.update s.uv u _ v).allocated = true
      rw [Function.update_of_ne hvu]
      exact halloc

lemma uvLoop_eq {uv : UvLoop} (hopen : uv.opened = true) (halloc : uv.allocated = true) :
    uv = { opened := true, allocated := true } := by
  cases uv
  cases hopen
  cases halloc
  rfl

/-- The default loop is open once `uv_default_loop` has returned it. -/
lemma Inv.uvDefaultLoop (h : s.Inv) (code : Int) :
    (s.uvDefaultLoop code).2.Inv ∧
      ∀ u, (s.uvDefaultLoop code).1 = some u → u = 0 ∧
        (s.uvDefaultLoop code).2.uv 0 = { opened := true, allocated := true } := by
  have halloc : (s.uv 0).allocated = true := (h.other 0 h.default.1).2.1
  unfold LoopObjects.uvDefaultLoop
  cases hopen : (s.uv 0).opened with
  | true =>
    refine ⟨h, fun u hu => ⟨(Option.some.inj hu).symm, ?_⟩⟩
    exact uvLoop_eq hopen halloc
  | false =>
    by_cases hcode : code = 0
    · simp only [hcode, if_true, Bool.false_eq_true, if_false]
      refine ⟨h.reopen h.default.1 hopen, fun u hu => ⟨(Option.some.inj hu).symm, ?_⟩⟩
      rw [Function.update_self, halloc]
    · simp only [hcode, if_false, Bool.false_eq_true]
      exact ⟨h, nofun⟩

/-- `uv_default_loop` leaves the loop objects alone. -/
lemma uvDefaultLoop_objects (s : LoopObjects) (code : Int) :
    (s.uvDefaultLoop code).2.uvLoop = s.uvLoop ∧ (s.uvDefaultLoop code).2.next = s.next ∧
      (s.uvDefaultLoop code).2.refs = s.refs := by
  unfold LoopObjects.uvDefaultLoop
  split
  · exact ⟨rfl, rfl, rfl⟩
  · split <;> exact ⟨rfl, rfl, rfl⟩

/-- `get_default()`, unless it builds a second object on the default loop. -/
lemma Inv.getDefault (h : s.Inv) (hfree : s.expired = true → s.Unreferred 0) (code : Int) :
    (s.getDefault code).2.Inv := by
  obtain ⟨hinv, hdef⟩ := h.uvDefaultLoop code
  obtain ⟨hobjects, -, -⟩ := uvDefaultLoop_objects s code
  unfold LoopObjects.getDefault
  cases hexp : s.expired with
  | true =>
    have hfree' : (s.uvDefaultLoop code).2.Unreferred 0 := by
      unfold Unreferred
      rw [hobjects]
      exact hfree hexp
    cases hres : s.uvDefaultLoop code with
    | mk o t =>
      rw [hres] at hinv hdef hfree'
      cases o with
      | none => exact hinv.withRefs none fun y p hy => (hinv.referred y p.1 p.2 hy).2.1
      | some u =>
        obtain ⟨rfl, hopen⟩ := hdef u rfl
        have hnew := hinv.newObject hinv.default.2 hopen hfree'
        exact hnew.withRefs (some t.next) fun y p hy => (hnew.referred y p.1 p.2 hy).2.1
  | false =>
    refine h.withRefs s.ref fun y p hy => ?_
    have hpos := (h.referred y p.1 p.2 hy).2.1
    split
    · exact Nat.succ_pos _
    · exact hpos

/-! ### Steps and runs -/

/-- **Step lemma**: loop objects built alone keep the invariant. -/
lemma inv_step (h : s.Inv) (hC : s.BuiltAlone a) (hstep : s.step a = some s') : s'.Inv := by
  cases a with
  | create code busy =>
    obtain rfl := Option.some.inj hstep
    obtain rfl : code = 0 := hC
    exact h.create busy
  | uvLoopInit u =>
    by_cases hnew : u = s.nextUv
    · simp only [step, hnew, if_true, Option.some.injEq] at hstep
      obtain rfl := hstep
      exact h.newUv
    · simp only [step, hnew, if_false, Option.ite_none_right_eq_some, Option.some.injEq] at hstep
      obtain ⟨⟨-, -, hheap, hclosed⟩, rfl⟩ := hstep
      exact h.reopen hheap hclosed
  | createFrom u =>
    simp only [step, Option.ite_none_right_eq_some, Option.some.injEq] at hstep
    obtain ⟨⟨hlt, hopen, halloc⟩, rfl⟩ := hstep
    exact h.newObject hlt (uvLoop_eq hopen halloc) hC
  | getDefault code =>
    obtain rfl := Option.some.inj hstep
    exact h.getDefault hC code
  | copy x =>
    simp only [step, Option.ite_none_right_eq_some, Option.some.injEq] at hstep
    obtain ⟨hx, rfl⟩ := hstep
    refine h.withRefs s.ref fun y p hy => ?_
    exact (copy_refs_pos_iff hx).mpr (h.referred y p.1 p.2 hy).2.1
  | drop x busy =>
    simp only [step, Option.ite_none_right_eq_some, Option.some.injEq] at hstep
    obtain ⟨-, rfl⟩ := hstep
    exact h.release x busy
  | close x busy =>
    simp only [step, Option.ite_none_right_eq_some, Option.some.injEq] at hstep
    obtain ⟨-, rfl⟩ := hstep
    exact h.closeObject x busy

/-- Closing and destroying builds nothing. -/
lemma builtAlone_of_isClosing (h : a.isClosing = true) : s.BuiltAlone a := by
  cases a <;> trivial

/-- From a state of the invariant on, loops can be closed and destroyed at will. -/
lemma Inv.closable (h : s.Inv) : s.Closable := by
  intro bs hbs
  exact visits_of_invariant_along (fun _ h => h.sound) (fun _ _ _ h hC hstep => inv_step h hC hstep) h
    (along_of_forall_mem fun _ b hb => builtAlone_of_isClosing (hbs b hb))

/-- Two objects on one `uv_loop_t`: closing both closes it twice. -/
lemma not_closable_of_shared (hx : s.uvLoop x = some (d, u)) (hy : s.uvLoop y = some (e, u))
    (hne : x ≠ y) (hposx : 0 < s.refs x) (hposy : 0 < s.refs y) : ¬ s.Closable := by
  intro h
  let t := (s.closeObject x false).2
  have hty : t.uvLoop y = some (e, u) := (closeObject_uvLoop_of_ne (Ne.symm hne) false).trans hy
  have hclosed : (t.uv u).opened = false := by
    rw [closeObject_uv_self hx false, LoopDeleter.run_opened]
    rfl
  have htpos : 0 < t.refs y := by
    show 0 < (s.closeObject x false).2.refs y
    rw [closeObject_refs]
    exact hposy
  have hvisits := h [.close x false, .close y false] (by simp [LoopObjectAction.isClosing])
  have hsound : Sound (t.closeObject y false).2 :=
    (hvisits.2 t (if_pos hposx)).2 _ (if_pos htpos)
  have hmem : t.uv u ∈ (t.closeObject y false).2.closes := by
    rw [closeObject_closes hty]
    exact List.mem_append_right _ (List.mem_singleton.mpr rfl)
  rw [hsound.closes _ hmem] at hclosed
  cases hclosed

/-- A second object on a `uv_loop_t`. -/
lemma Inv.not_closable_newObject (h : s.Inv) (hx : s.uvLoop x = some (d, u)) (ref : Option ℕ) :
    ¬ Closable { s.newObject .keep u with ref } := by
  obtain ⟨hlt, hpos, -, -⟩ := h.referred x d u hx
  have hne : x ≠ s.next := Nat.ne_of_lt hlt
  let t : LoopObjects := { s.newObject .keep u with ref }
  have hold : t.uvLoop x = some (d, u) := (newObject_uvLoop_of_ne hne).trans hx
  have hnew : t.uvLoop s.next = some (.keep, u) := newObject_uvLoop_next s .keep u
  exact not_closable_of_shared hold hnew hne (newObject_refs_pos .keep u (Or.inr hpos))
    (newObject_refs_pos .keep u (Or.inl rfl))

/-- A `create()` whose `uv_loop_init` fails closes what was never open. -/
lemma not_sound_create {code : Int} (hcode : code ≠ 0) (busy : Bool) :
    ¬ (s.create code busy).Sound := by
  intro h
  let t := (s.newUv true (decide (code = 0))).newObject .delete s.nextUv
  have hobject : t.uvLoop s.next = some (.delete, s.nextUv) := newObject_uvLoop_next _ _ _
  have huv : t.uv s.nextUv = { opened := decide (code = 0), allocated := true } :=
    Function.update_self _ _ _
  have hlast : Function.update t.refs s.next (t.refs s.next - 1) s.next = 0 := by
    have hone : t.refs s.next = 1 := Function.update_self _ _ _
    rw [Function.update_self, hone]
  have hcreate : s.create code busy = t.release s.next busy := if_pos hcode
  have hcloses : (t.release s.next busy).closes = t.closes ++ [t.uv s.nextUv] := by
    unfold LoopObjects.release
    rw [if_pos hlast, destroy_eq, closeObject_withRefs]
    exact closeObject_closes hobject busy
  have hmem : t.uv s.nextUv ∈ (s.create code busy).closes := by
    rw [hcreate, hcloses]
    exact List.mem_append_right _ (List.mem_singleton.mpr rfl)
  have hopen := h.closes _ hmem
  rw [huv] at hopen
  simp [hcode] at hopen

/-- On the steps of the invariant, building alone is exactly what closing at will needs. -/
lemma closable_iff (h : s.Inv) (hstep : s.step a = some s') :
    s'.Closable ↔ s.BuiltAlone a := by
  constructor
  · intro hclosable
    cases a with
    | create code busy =>
      obtain rfl := Option.some.inj hstep
      by_contra hcode
      exact not_sound_create hcode busy (hclosable [] nofun)
    | createFrom u =>
      simp only [step, Option.ite_none_right_eq_some, Option.some.injEq] at hstep
      obtain ⟨-, rfl⟩ := hstep
      intro x d hx
      exact h.not_closable_newObject hx s.ref hclosable
    | getDefault code =>
      obtain rfl := Option.some.inj hstep
      intro hexp x d hx
      obtain ⟨-, -, -, hopen⟩ := h.referred x d 0 hx
      have hdefault : (s.getDefault code).2 = { s.newObject .keep 0 with ref := some s.next } := by
        unfold LoopObjects.getDefault LoopObjects.uvDefaultLoop
        rw [if_pos hexp, hopen]
        rfl
      rw [hdefault] at hclosable
      exact h.not_closable_newObject hx (some s.next) hclosable
    | _ => trivial
  · intro hC
    exact (inv_step h hC hstep).closable

/-- **When `uv_loop_close` is applied to open loops only.**  In every state of the run, however the
loop objects are then closed and destroyed, `uv_loop_close` is applied to open `uv_loop_t`s only and
what `create()` allocated is deleted exactly once, exactly when `uv_loop_init` fails in no `create()`
of the run and no loop object is built on a `uv_loop_t` that another one still refers to. -/
theorem uv_loop_close_open_iff (as : List LoopObjectAction) :
    Visits step Closable init as ↔ Along step BuiltAlone init as :=
  visits_iff_along_of_invariant (I := Inv) inv_init.closable inv_init
    (fun _ _ _ h hC hstep => inv_step h hC hstep) (fun _ _ _ h hstep => closable_iff h hstep)

/-- A `create()` whose `uv_loop_init` fails. -/
theorem failed_create_closes_uninitialised :
    ¬ Visits step Sound init [.create (-12) false] := by
  intro h
  exact not_sound_create (by decide) false (h.2 _ rfl)

end LoopObjects

end Uvw
