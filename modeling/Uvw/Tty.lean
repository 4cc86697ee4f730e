import Mathlib.Data.List.Perm.Basic
import Uvw.Foundation.History
import Uvw.Foundation.SharedOnDemand
import Uvw.Runtime.Change

/-!
# Restoring the terminal mode

Every `tty_handle` holds a `shared_ptr` to a `reset_mode_memo`, whose destructor calls
`uv_tty_reset_mode`.  `tty_handle::mode_memo_handler` remembers the memo in a static `weak_ptr` and makes
another one when it is gone.

`TtyRun` is a program with its terminal handles and their memos, `Restores` says that the mode is
restored when the last handle is destroyed and at no other time, and `tty_mode_restored` that this is
so in every run.
-/

namespace Uvw

open TransitionSystem

/-! ## Histories -/

/-- What happens to the terminal handles. -/
inductive TtyEntry
  | constructed (h : ℕ)
  /-- A handle was destroyed, and `uv_tty_reset_mode` was called that often meanwhile. -/
  | destroyed (h : ℕ) (resets : ℕ)
deriving DecidableEq, Repr

namespace TtyEntry

/-- A handle comes into existence. -/
def isConstructed : TtyEntry → Bool
  | constructed _ => true
  | destroyed .. => false

/-- A handle goes. -/
def isDestroyed : TtyEntry → Bool
  | constructed _ => false
  | destroyed .. => true

/-- How many handles exist after a history. -/
def existing (log : List TtyEntry) : ℕ := log.countP isConstructed - log.countP isDestroyed

/-- The mode is restored, once, when the number of handles goes from one to zero. -/
def Expected (past : List TtyEntry) : TtyEntry → Prop
  | constructed _ => True
  | destroyed _ resets => resets = if existing past = 1 then 1 else 0

end TtyEntry

open TtyEntry

/-- The `tty_handle` objects that exist. -/
def World.ttys (w : World) : List ℕ :=
  (List.range w.next).filter fun h => .resource h ∈ w.live ∧ (w.resources h).cls = .handle .tty

/-! ## The memos -/

/-- `tty_handle::mode_memo_handler`, called for the member `memo` of a handle: what `weak.lock()` gives, or
a new memo. -/
def modeMemoHandler (memos : SharedOnDemand ℕ) (h : ℕ) : SharedOnDemand ℕ := memos.acquire h

/-- How often `uv_tty_reset_mode` is called as a memo, if any, is destroyed:
`reset_mode_memo::~reset_mode_memo` calls it. -/
def resetModes (memo : Option ℕ) : ℕ := if memo.isSome then 1 else 0

/-- A program with the `memo` members of its terminal handles. -/
structure TtyRun where
  world : World
  /-- The memos, with the variable of `tty_handle::mode_memo_handler`. -/
  memos : SharedOnDemand ℕ
  log : List TtyEntry

namespace TtyRun

/-- Before the first handle. -/
def init : TtyRun := { world := .init, memos := .empty, log := [] }

variable (s : TtyRun)

/-- `tty_handle::tty_handle`: the new handle holds what `mode_memo_handler` returns. -/
def construct (h : ℕ) : TtyRun :=
  { s with memos := modeMemoHandler s.memos h, log := s.log ++ [.constructed h] }

/-- `tty_handle::~tty_handle`: the handle drops its reference to the memo. -/
def destroy (h : ℕ) : TtyRun :=
  let memos := s.memos.release h
  { s with
    memos := memos.1
    log := s.log ++ [.destroyed h (resetModes memos.2)] }

/-- One action of the program or of libuv: terminal handles are constructed, and destroyed as nothing
refers to them any more. -/
def step (a : Action) : Option TtyRun :=
  (s.world.exec a).map fun w =>
    let born := w.ttys.filter (· ∉ s.world.ttys)
    let died := w.ttys.filter (· ∉ w.settle.ttys)
    { died.foldl destroy (born.foldl construct s) with world := w.settle }

/-- The terminal mode is restored each time the last handle is destroyed, and never while one exists. -/
def Restores : Prop :=
  existing s.log = s.world.ttys.length ∧ History.EachAfter Expected s.log

/-! ## Handles and memos -/

/-- What the memos and the history say of the handles that exist. -/
structure Tracked : Prop where
  single : s.memos.Single
  balance : s.log.countP isConstructed = s.log.countP isDestroyed + s.memos.names.length
  expected : History.EachAfter Expected s.log

variable {s} {s' : TtyRun} {a : Action} {h : ℕ}

/-- No handle has been created yet. -/
lemma tracked_init : init.Tracked where
  single := SharedOnDemand.single_empty
  balance := rfl
  expected := History.eachAfter_nil

/-- The handles that exist are those that hold a memo. -/
lemma Tracked.existing_eq (ht : s.Tracked) : existing s.log = s.memos.names.length := by
  rw [existing, ht.balance, Nat.add_sub_cancel_left]

/-- A constructor asks for the mode. -/
lemma Tracked.construct (ht : s.Tracked) (hh : h ∉ s.memos.names) : (s.construct h).Tracked where
  single := ht.single.acquire hh
  balance := by
    show (s.log ++ [constructed h]).countP isConstructed =
      (s.log ++ [constructed h]).countP isDestroyed + (s.memos.acquire h).names.length
    rw [List.countP_append, List.countP_append, ht.balance, SharedOnDemand.names_acquire]
    exact Nat.add_assoc ..
  expected := History.eachAfter_append.mpr ⟨ht.expected, trivial⟩

/-- **Destroying a handle** restores the mode if no other handle is left. -/
lemma Tracked.destroy (ht : s.Tracked) (hh : h ∈ s.memos.names) : (s.destroy h).Tracked := by
  have hlength : s.memos.names.length = (s.memos.release h).1.names.length + 1 := by
    rw [ht.single.names_release, List.length_erase_of_mem hh]
    exact (Nat.sub_add_cancel (List.length_pos_of_mem hh)).symm
  refine ⟨ht.single.release h, ?_, History.eachAfter_append.mpr ⟨ht.expected, ?_⟩⟩
  · show (s.log ++ [destroyed h _]).countP isConstructed =
      (s.log ++ [destroyed h _]).countP isDestroyed + (s.memos.release h).1.names.length
    rw [List.countP_append, List.countP_append, ht.balance, hlength, Nat.add_comm _ 1]
    exact (Nat.add_assoc ..).symm
  · have hlast : (s.memos.release h).2.isSome = true ↔ existing s.log = 1 := by
      rw [ht.single.release_isSome_iff hh, ht.existing_eq, hlength, ← List.length_eq_zero_iff]
      omega
    exact if_congr hlast rfl rfl

/-- Constructing handles adds them to those that hold a memo. -/
lemma Tracked.foldl_construct (ht : s.Tracked) {hs : List ℕ} (hnodup : hs.Nodup)
    (hnew : ∀ h ∈ hs, h ∉ s.memos.names) :
    (hs.foldl TtyRun.construct s).Tracked ∧
      ∀ h, h ∈ (hs.foldl TtyRun.construct s).memos.names ↔ h ∈ s.memos.names ∨ h ∈ hs := by
  induction hs generalizing s with
  | nil => exact ⟨ht, fun h => by simp⟩
  | cons x hs ih =>
    obtain ⟨hx, hrest⟩ := List.nodup_cons.mp hnodup
    have hnames : (s.construct x).memos.names = x :: s.memos.names := SharedOnDemand.names_acquire
    have hx' : (s.construct x).Tracked := ht.construct (hnew x List.mem_cons_self)
    have hnew' : ∀ h ∈ hs, h ∉ (s.construct x).memos.names := by
      intro h hh hin
      rw [hnames] at hin
      rcases List.mem_cons.mp hin with rfl | hin
      · exact hx hh
      · exact hnew h (List.mem_cons_of_mem x hh) hin
    obtain ⟨htracked, hmem⟩ := ih hx' hrest hnew'
    refine ⟨htracked, fun h => (hmem h).trans ?_⟩
    rw [hnames, List.mem_cons, List.mem_cons]
    tauto

/-- Destroying handles takes them away. -/
lemma Tracked.foldl_destroy (ht : s.Tracked) {hs : List ℕ} (hnodup : hs.Nodup)
    (hold : ∀ h ∈ hs, h ∈ s.memos.names) :
    (hs.foldl TtyRun.destroy s).Tracked ∧
      ∀ h, h ∈ (hs.foldl TtyRun.destroy s).memos.names ↔ h ∈ s.memos.names ∧ h ∉ hs := by
  induction hs generalizing s with
  | nil => exact ⟨ht, fun h => by simp⟩
  | cons x hs ih =>
    obtain ⟨hx, hrest⟩ := List.nodup_cons.mp hnodup
    have hnames : ∀ h, h ∈ (s.destroy x).memos.names ↔ h ≠ x ∧ h ∈ s.memos.names := by
      intro h
      show h ∈ (s.memos.release x).1.names ↔ _
      rw [ht.single.names_release]
      exact ht.single.nodup.mem_erase_iff
    have hx' : (s.destroy x).Tracked := ht.destroy (hold x List.mem_cons_self)
    have hold' : ∀ h ∈ hs, h ∈ (s.destroy x).memos.names := fun h hh =>
      (hnames h).mpr ⟨fun heq => hx (heq ▸ hh), hold h (List.mem_cons_of_mem x hh)⟩
    obtain ⟨htracked, hmem⟩ := ih hx' hrest hold'
    refine ⟨htracked, fun h => (hmem h).trans ?_⟩
    rw [hnames, List.mem_cons]
    tauto

/-! ## Runs -/

/-- The invariant: the handles that hold a memo are those that exist. -/
structure Inv (s : TtyRun) : Prop extends Tracked s where
  world : s.world.Consistent
  names : ∀ h, h ∈ s.memos.names ↔ h ∈ s.world.ttys

/-- The invariant holds before anything has been created. -/
lemma inv_init : init.Inv where
  __ := tracked_init
  world := World.consistent_init
  names h := by simp [init, SharedOnDemand.empty, SharedOnDemand.names, World.ttys, World.init]

/-- Every tty handle is listed once, -/
lemma nodup_ttys (w : World) : w.ttys.Nodup := List.nodup_range.filter _

/-- and exactly those that exist are. -/
lemma mem_ttys {w : World} :
    h ∈ w.ttys ↔ h < w.next ∧ .resource h ∈ w.live ∧ (w.resources h).cls = .handle .tty := by
  rw [World.ttys, List.mem_filter, List.mem_range, decide_eq_true_eq]

/-- Before anything is destroyed, an action only adds handles. -/
lemma ttys_subset_exec {w w' : World} (hexec : w.exec a = some w') : w.ttys ⊆ w'.ttys := by
  intro h hh
  obtain ⟨hlt, hlive, hcls⟩ := mem_ttys.mp hh
  have hext := World.extends_exec hexec
  exact mem_ttys.mpr ⟨hlt.trans_le hext.next_le, hext.live_sub hlive, (hext.cls h hlt).trans hcls⟩

/-- Destruction only takes handles away. -/
lemma ttys_settle_subset (w : World) : w.settle.ttys ⊆ w.ttys := by
  intro h hh
  obtain ⟨hlt, hlive, hcls⟩ := mem_ttys.mp hh
  exact mem_ttys.mpr ⟨hlt, OwnershipGraph.settle_subset hlive, hcls⟩

/-- A step is one of the program. -/
lemma step_world (hstep : s.step a = some s') : s.world.step a = some s'.world := by
  obtain ⟨w, hexec, rfl⟩ := Option.map_eq_some_iff.mp hstep
  exact congrArg (Option.map World.settle) hexec

/-- **Step lemma.** -/
lemma inv_step (hs : s.Inv) (hstep : s.step a = some s') : s'.Inv := by
  have hworld : s'.world.Consistent := World.consistent_step hs.world (step_world hstep)
  obtain ⟨w, hexec, rfl⟩ := Option.map_eq_some_iff.mp hstep
  have hgrow := ttys_subset_exec hexec
  have hshrink := ttys_settle_subset w
  have hnodup := nodup_ttys w
  have hnew : ∀ h ∈ w.ttys.filter (· ∉ s.world.ttys), h ∉ s.memos.names := by
    intro h hh
    rw [hs.names]
    exact decide_eq_true_iff.mp (List.mem_filter.mp hh).2
  obtain ⟨hborn, hborn_names⟩ := hs.toTracked.foldl_construct (hnodup.filter _) hnew
  have hexisting : ∀ h, h ∈ ((w.ttys.filter (· ∉ s.world.ttys)).foldl construct s).memos.names ↔
      h ∈ w.ttys := by
    intro h
    rw [hborn_names, hs.names, List.mem_filter, decide_eq_true_eq]
    have hin : h ∈ s.world.ttys → h ∈ w.ttys := @hgrow h
    tauto
  have hold : ∀ h ∈ w.ttys.filter (· ∉ w.settle.ttys),
      h ∈ ((w.ttys.filter (· ∉ s.world.ttys)).foldl construct s).memos.names := by
    intro h hh
    exact (hexisting h).mpr (List.mem_of_mem_filter hh)
  obtain ⟨hdied, hdied_names⟩ := hborn.foldl_destroy (hnodup.filter _) hold
  refine ⟨⟨hdied.single, hdied.balance, hdied.expected⟩, hworld, fun h => (hdied_names h).trans ?_⟩
  rw [hexisting, List.mem_filter, decide_eq_true_eq]
  have hin : h ∈ w.settle.ttys → h ∈ w.ttys := @hshrink h
  tauto

/-- **What is promised of the mode** follows from the invariant. -/
lemma Inv.restores (hs : s.Inv) : s.Restores := by
  have hperm : s.memos.names.Perm s.world.ttys :=
    (List.perm_ext_iff_of_nodup hs.single.nodup (nodup_ttys s.world)).mpr hs.names
  exact ⟨hs.toTracked.existing_eq.trans hperm.length_eq, hs.expected⟩

end TtyRun

/-- **The terminal mode is restored when the last handle goes away**: in every run, with any number of
terminal handles on any number of loops, initialised successfully or not and closed and destroyed in any
order, the mode is restored exactly once each time the number of terminal handles goes from one to zero,
and not while there is one. -/
theorem tty_mode_restored (as : List Action) : Visits TtyRun.step TtyRun.Restores .init as :=
  visits_of_invariant (I := TtyRun.Inv) (fun _ h => h.restores)
    (fun _ _ _ h hstep => TtyRun.inv_step h hstep) TtyRun.inv_init

end Uvw
