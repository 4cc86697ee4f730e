import Mathlib.Data.List.Basic
import Uvw.Resource

/-!
# Walking the handles of a loop

`uv_walk` hands every handle registered in a `uv_loop_t` to the function that `loop::walk` gives it,
whoever created the handle.  The function sees the `type` and the `data` of a `uv_handle_t` and nothing
else: a null `data` and the types without a class are passed over, everything else is cast to the class
of its type and handed to the callback.

`walk_visits_managed_iff` compares this with what a walk is for: one call for every handle created
through the library, at its class, and none for the others.  They agree exactly on the loops whose
other handles have a null `data` or a type without a class.
-/

namespace Uvw

/-! ## The types of handles -/

/-- `uv_handle_type`. -/
inductive UvHandleType
  | unknownHandle | async | check | fsEvent | fsPoll | handle | idle | namedPipe | poll | prepare
  | process | stream | tcp | timer | tty | udp | signal | file | handleTypeMax
deriving DecidableEq, Repr

/-- `handle_type`. -/
inductive HandleType
  | unknown | async | check | fsEvent | fsPoll | handle | idle | pipe | poll | prepare | process
  | stream | tcp | timer | tty | udp | signal | file
deriving DecidableEq, Repr

/-- `utilities::guess_handle`. -/
def guessHandle : UvHandleType → HandleType
  | .async => .async
  | .check => .check
  | .fsEvent => .fsEvent
  | .fsPoll => .fsPoll
  | .handle => .handle
  | .idle => .idle
  | .namedPipe => .pipe
  | .poll => .poll
  | .prepare => .prepare
  | .process => .process
  | .stream => .stream
  | .tcp => .tcp
  | .timer => .timer
  | .tty => .tty
  | .udp => .udp
  | .signal => .signal
  | .file => .file
  | _ => .unknown

/-- The type that libuv gives to the handles of a class. -/
def HandleClass.uvType : HandleClass → UvHandleType
  | .async => .async
  | .check => .check
  | .fsEvent => .fsEvent
  | .fsPoll => .fsPoll
  | .idle => .idle
  | .pipe => .namedPipe
  | .poll => .poll
  | .prepare => .prepare
  | .process => .process
  | .signal => .signal
  | .tcp => .tcp
  | .timer => .timer
  | .tty => .tty
  | .udp => .udp

/-! ## The walk -/

/-- A `uv_handle_t`, as far as `loop::walk` reads it. -/
structure UvHandleT where
  type : UvHandleType
  /-- Null, or the object it points to. -/
  data : Option ℕ
deriving DecidableEq, Repr

/-- The reference a callback is called with: the object, and the class it is taken for. -/
structure Visit where
  cls : HandleClass
  object : ℕ
deriving DecidableEq, Repr

/-- The function that `loop::walk` hands to `uv_walk`: the call of the callback it makes, if any. -/
def walkCallback (hndl : UvHandleT) : Option Visit :=
  match hndl.data with
  | none => none
  | some p =>
    match guessHandle hndl.type with
    | .async => some ⟨.async, p⟩
    | .check => some ⟨.check, p⟩
    | .fsEvent => some ⟨.fsEvent, p⟩
    | .fsPoll => some ⟨.fsPoll, p⟩
    | .idle => some ⟨.idle, p⟩
    | .pipe => some ⟨.pipe, p⟩
    | .poll => some ⟨.poll, p⟩
    | .prepare => some ⟨.prepare, p⟩
    | .process => some ⟨.process, p⟩
    | .signal => some ⟨.signal, p⟩
    | .tcp => some ⟨.tcp, p⟩
    | .timer => some ⟨.timer, p⟩
    | .tty => some ⟨.tty, p⟩
    | .udp => some ⟨.udp, p⟩
    -- "this handle isn't managed by uvw, let it be..."
    | _ => none

/-- `loop::walk`: the calls of the callback, in the order in which `uv_walk` finds the handles. -/
def walk (hndls : List UvHandleT) : List Visit := hndls.filterMap walkCallback

/-! ## Who created the handles -/

/-- A handle registered in a `uv_loop_t`, and where it comes from. -/
inductive RegisteredHandle
  /-- Created through the library, as the object `x` of a class. -/
  | managed (x : ℕ) (c : HandleClass)
  /-- Created through libuv by code that shares the loop. -/
  | foreign (hndl : UvHandleT)
deriving DecidableEq, Repr

namespace RegisteredHandle

/-- What libuv has of the handle.  The constructor of a resource stores the object in `data`. -/
def raw : RegisteredHandle → UvHandleT
  | managed x c => { type := c.uvType, data := some x }
  | foreign hndl => hndl

/-- The call of the callback the handle is owed. -/
def visit : RegisteredHandle → Option Visit
  | managed x c => some ⟨c, x⟩
  | foreign _ => none

/-- The handle cannot be taken for one of the library: it is one, or it has no `data`, or its type
is not that of a class. -/
def Recognisable : RegisteredHandle → Prop
  | managed _ _ => True
  | foreign hndl => hndl.data = none ∨ ∀ c : HandleClass, hndl.type ≠ c.uvType

end RegisteredHandle

open RegisteredHandle

/-! ## The dispatch -/

/-- A handle of the library is visited at the class it was created as. -/
@[simp] lemma walkCallback_managed (x : ℕ) (c : HandleClass) :
    walkCallback (managed x c).raw = some ⟨c, x⟩ := by
  cases c <;> rfl

/-- What the walk passes over: handles without `data`, and types without a class. -/
lemma walkCallback_eq_none_iff (hndl : UvHandleT) :
    walkCallback hndl = none ↔ hndl.data = none ∨ ∀ c : HandleClass, hndl.type ≠ c.uvType := by
  obtain ⟨type, data⟩ := hndl
  cases data with
  | none => exact iff_of_true rfl (Or.inl rfl)
  | some p =>
    have hclass : walkCallback ⟨type, some p⟩ = none ↔ ∀ c : HandleClass, type ≠ c.uvType := by
      constructor
      · rintro hnone c rfl
        have hvisit := walkCallback_managed p c
        rw [show (managed p c).raw = ⟨c.uvType, some p⟩ from rfl, hnone] at hvisit
        cases hvisit
      · intro hall
        -- a type that is visited is the type of the class it is visited at
        cases type
        case async => exact absurd rfl (hall .async)
        case check => exact absurd rfl (hall .check)
        case fsEvent => exact absurd rfl (hall .fsEvent)
        case fsPoll => exact absurd rfl (hall .fsPoll)
        case idle => exact absurd rfl (hall .idle)
        case namedPipe => exact absurd rfl (hall .pipe)
        case poll => exact absurd rfl (hall .poll)
        case prepare => exact absurd rfl (hall .prepare)
        case process => exact absurd rfl (hall .process)
        case signal => exact absurd rfl (hall .signal)
        case tcp => exact absurd rfl (hall .tcp)
        case timer => exact absurd rfl (hall .timer)
        case tty => exact absurd rfl (hall .tty)
        case udp => exact absurd rfl (hall .udp)
        all_goals rfl
    simpa using hclass

/-- The walk does with a handle what it should exactly when it recognises it. -/
lemma walkCallback_eq_visit_iff (h : RegisteredHandle) :
    walkCallback h.raw = h.visit ↔ h.Recognisable := by
  cases h with
  | managed x c => exact iff_of_true (walkCallback_managed x c) trivial
  | foreign hndl => exact walkCallback_eq_none_iff hndl

/-- No handle that is owed a call is passed over. -/
lemma visit_le_walkCallback (h : RegisteredHandle) (v : Visit) (hv : h.visit = some v) :
    walkCallback h.raw = some v := by
  cases h with
  | managed x c =>
    obtain rfl := Option.some.inj hv
    exact walkCallback_managed x c
  | foreign hndl => cases hv

/-! ## The whole loop -/

section FilterMap

variable {α β : Type*} {f g : α → Option β}

/-- A function that is defined more often selects more. -/
lemma length_filterMap_le (hle : ∀ x y, f x = some y → g x = some y) (xs : List α) :
    (xs.filterMap f).length ≤ (xs.filterMap g).length := by
  induction xs with
  | nil => exact Nat.le_refl _
  | cons x xs ih =>
    cases hf : f x with
    | none =>
      rw [List.filterMap_cons_none hf]
      have hsub : (xs.filterMap g).length ≤ ((x :: xs).filterMap g).length :=
        (List.Sublist.filterMap g (List.sublist_cons_self x xs)).length_le
      omega
    | some y =>
      rw [List.filterMap_cons_some hf, List.filterMap_cons_some (hle x y hf), List.length_cons,
        List.length_cons]
      omega

/-- Two functions, one defined more often than the other, select the same exactly when they agree. -/
lemma filterMap_eq_filterMap_iff (hle : ∀ x y, f x = some y → g x = some y) (xs : List α) :
    xs.filterMap g = xs.filterMap f ↔ ∀ x ∈ xs, g x = f x := by
  induction xs with
  | nil => simp
  | cons x xs ih =>
    rw [List.forall_mem_cons, ← ih]
    cases hf : f x with
    | some y =>
      rw [List.filterMap_cons_some hf, List.filterMap_cons_some (hle x y hf), hle x y hf]
      simp
    | none =>
      rw [List.filterMap_cons_none hf]
      cases hg : g x with
      | none =>
        rw [List.filterMap_cons_none hg]
        simp
      | some y =>
        -- one call too many, which nothing later in the list makes up for
        rw [List.filterMap_cons_some hg]
        refine iff_of_false (fun heq => ?_) (fun heq => by cases heq.1)
        have hlen := congrArg List.length heq
        have hmore := length_filterMap_le hle xs
        rw [List.length_cons] at hlen
        omega

end FilterMap

/-- **A walk visits the handles of the library exactly where it can recognise them**: the callback is
called once for each handle created through the library, at the class it was created as, and for no
other handle, exactly when every other handle of the loop has a null `data` or a type without a
class. -/
theorem walk_visits_managed_iff (hs : List RegisteredHandle) :
    walk (hs.map raw) = hs.filterMap visit ↔ ∀ h ∈ hs, h.Recognisable := by
  have hiff := filterMap_eq_filterMap_iff visit_le_walkCallback hs
  rw [walk, List.filterMap_map]
  refine hiff.trans (forall₂_congr fun h _ => walkCallback_eq_visit_iff h)

/-- A timer set up through `uv_timer_init`, with the address of the user's own structure in `data`,
is handed to the callback as a `timer_handle`. -/
theorem walk_visits_foreign_timer :
    ¬ walk ([foreign { type := .timer, data := some 5 }].map raw) =
      [foreign { type := .timer, data := some 5 }].filterMap visit := by
  decide

end Uvw
