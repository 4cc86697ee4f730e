import Uvw.Runtime.Isolation

/-!
# The calls being executed

A listener may run any loop other than the ones that are running, so the calls of several loops can be
nested into each other.  `callbacks_run_to_completion` says what this means for one of them: its part of the
stack is empty, or the `uv_run` of the loop alone, or one callback inside of it.  Nothing is called back in a
loop while a callback of the loop is being executed.

This is why a listener can rely on `*this`.  The callbacks of a handle other than the close callback hold no
pointer to it, and nothing but the close callback takes the self reference of the handle away; as that has
to wait, the handle stays registered and alive until the callback returns.  A handle that is started again
after it was closed is called back without a self reference, and may go in the middle of it.
-/

namespace Uvw

open TransitionSystem

namespace World

variable {w w' v : World} {a : Action} {f : Frame} {l : ℕ}

/-- The part of the stack that belongs to a loop: it is not running, or it is, or in one callback. -/
def OneCallback (l : ℕ) (calls : List Frame) : Prop :=
  calls = [] ∨ calls = [.running l] ∨ ∃ f, f.isCallback = true ∧ calls = [f, .running l]

/-- What a program is promised about the calls being executed. -/
structure RunsToCompletion (w : World) : Prop where
  one_callback : ∀ l, OneCallback l (w.callsOf l w.stack)
  /-- Their loops exist, -/
  loop_live : ∀ f ∈ w.stack, .loop (w.loopOf f.subject) ∈ w.live
  /-- and so do the objects they are about, up to handles that were started after they were closed. -/
  subject_live : ∀ f ∈ w.stack, (∀ h, f = .handle h → w.late h = false) → f.subject ∈ w.live
  /-- Another handle is not closed from under a callback of it. -/
  handle_registered : ∀ h, .handle h ∈ w.stack → w.late h = false →
    (w.uvHandle h).registered = true

/-! ## What an action does to the stack -/

/-- A call that may start. -/
inductive MayStart (w : World) : Frame → Prop
  | running (l : ℕ) (hlt : l < w.next) (hnot : .running l ∉ w.stack) : MayStart w (.running l)
  | callback (f : Frame) (hf : f.isCallback = true) (hlt : f.subject.id < w.next)
      (hrun : w.InRun (w.loopOf f.subject))
      (hreg : ∀ t, f = .handle t → (w.uvHandle t).registered = true ∨ w.late t = true) :
      MayStart w f

/-- A call that may start is about an object that was created. -/
lemma MayStart.subject_lt (h : w.MayStart f) : f.subject.id < w.next := by
  cases h with
  | running _ hlt => exact hlt
  | callback _ _ hlt => exact hlt

/-- No call starts in an initialisation, -/
lemma initHandle_stack (w : World) (t : ℕ) (code : Int) : (w.initHandle t code).stack = w.stack := by
  rcases initHandle_cases w t code with h | h <;> rw [h]
  rfl

/-- a submission, -/
lemma submit_stack (w : World) (r : ℕ) (code : Int) : (w.submit r code).stack = w.stack := by
  unfold submit uvSubmit
  split <;> rfl

/-- an operation -/
lemma operate_stack (w : World) (t : ℕ) (op : StreamOp) (data : Option DataDeleter) (code : Int) :
    (w.operate t op data code).stack = w.stack :=
  submit_stack _ w.next code

/-- or the creation of an object. -/
lemma resource_stack (w : World) (cls : ResourceClass) (m : ℕ) (code : Int) :
    (w.resource cls m code).1.stack = w.stack := by
  rcases resource_cases w cls m code with h | ⟨c, rfl, h | h⟩ <;> rw [h]
  · rfl
  · exact initHandle_stack _ w.next code
  · exact initHandle_stack _ w.next code

/-- The calls after an action: the same, one more, or one less. -/
lemma exec_stack (hinv : w.Inv) (hexec : w.exec a = some v) :
    v.stack = w.stack ∨ (∃ f, w.MayStart f ∧ v.stack = f :: w.stack) ∨ v.stack = w.stack.tail := by
  cases a with
  | run m =>
    obtain ⟨⟨href, _, hnot⟩, rfl⟩ := by simpa [World.exec] using hexec
    exact Or.inr (Or.inl ⟨_, .running m (hinv.live_lt _ (hinv.refs_live _ href)) hnot, rfl⟩)
  | complete r status =>
    obtain ⟨c, _, hpend, rfl⟩ := exec_complete hexec
    have hlive := (hinv.pending_self r hpend).1
    have hrun : w.InRun (w.resources r).owner := by
      simp only [World.exec] at hexec
      split at hexec
      · exact (Option.ite_none_right_eq_some.mp hexec).1.2
      · cases hexec
    refine Or.inr (Or.inl ⟨.request r, .callback _ rfl (hinv.live_lt _ hlive) hrun (fun _ h => by cases h), ?_⟩)
    unfold World.complete World.completionCallback
    exact congrArg stack (if_pos hlive)
  | callback t cb =>
    obtain ⟨⟨hold, hrun, _⟩, rfl⟩ := exec_callback hexec
    unfold World.handleCallback
    split
    next hlive =>
      refine Or.inr (Or.inl ⟨.handle t, .callback _ rfl (hinv.live_lt _ hlive) hrun ?_, rfl⟩)
      rintro u ⟨⟩
      exact hold
    next => exact Or.inl rfl
  | closeCallback t =>
    obtain ⟨⟨huv, hrun, _⟩, rfl⟩ := by simpa [World.exec] using hexec
    have hlive := (hinv.registered_self t (by rw [huv]; rfl)).1
    refine Or.inr (Or.inl ⟨.closing t, .callback _ rfl (hinv.live_lt _ hlive) hrun (fun _ h => by cases h), ?_⟩)
    unfold World.closeCallback
    exact congrArg stack (if_pos hlive)
  | runEnd =>
    obtain ⟨_, rfl⟩ := by simpa [World.exec] using hexec
    exact Or.inr (Or.inr rfl)
  | ret =>
    obtain ⟨_, rfl⟩ := by simpa [World.exec] using hexec
    exact Or.inr (Or.inr rfl)
  | createLoop d =>
    obtain rfl := Option.some.inj hexec
    exact Or.inl rfl
  | init t code =>
    obtain ⟨_, rfl⟩ := by simpa [World.exec] using hexec
    exact Or.inl (initHandle_stack w t code)
  | resource cls m code =>
    obtain ⟨_, rfl⟩ := by simpa [World.exec] using hexec
    exact Or.inl (resource_stack w cls m code)
  | submit r code =>
    obtain ⟨_, rfl⟩ := by simpa [World.exec] using hexec
    exact Or.inl (submit_stack w r code)
  | write t _ _ code | shutdown t code | connect t code | send t _ code =>
    obtain ⟨_, rfl⟩ := by simpa [World.exec] using hexec
    exact Or.inl (operate_stack w t _ _ code)
  | start t code =>
    obtain ⟨_, rfl⟩ := by simpa [World.exec] using hexec
    rcases start_cases w t code with heq | ⟨_, _, heq⟩ <;> rw [heq] <;> exact Or.inl rfl
  | close t =>
    obtain ⟨_, rfl⟩ := by simpa [World.exec] using hexec
    unfold World.close
    split <;> exact Or.inl rfl
  | closeReset t code =>
    obtain ⟨_, rfl⟩ := by simpa [World.exec] using hexec
    unfold World.closeReset
    split <;> exact Or.inl rfl
  | _ =>
    obtain ⟨_, rfl⟩ := by simpa [World.exec] using hexec
    exact Or.inl rfl

/-- A handle that libuv has registered stays so, unless its close callback starts. -/
lemma Change.registered (hc : w.Change v) {t : ℕ} (ht : (w.uvHandle t).registered = true) :
    (v.uvHandle t).registered = true ∨ v.stack = .closing t :: w.stack := by
  have hupdate : ∀ u st, w.uvHandle u = .none ∨ st.registered = true →
      (Function.update w.uvHandle u st t).registered = true := by
    intro u st hst
    by_cases hu : t = u
    · subst hu
      rw [Function.update_self]
      refine hst.resolve_left fun hnone => ?_
      rw [hnone] at ht
      cases ht
    · rw [Function.update_of_ne hu]
      exact ht
  cases hc with
  | quiet _ _ huv => exact Or.inl (huv ▸ ht)
  | init u st hold _ _ _ huv => exact Or.inl (huv ▸ hupdate u st (Or.inl hold))
  | close u _ _ _ huv => exact Or.inl (huv ▸ hupdate u .closing (Or.inr rfl))
  | closeReset u _ _ _ huv => exact Or.inl (huv ▸ hupdate u .closing (Or.inr rfl))
  | submit r _ _ _ _ _ huv => exact Or.inl (huv ▸ ht)
  | operate u op data code _ _ _ _ _ _ _ _ huv => exact Or.inl (huv ▸ ht)
  | complete r c status _ _ _ _ huv => exact Or.inl (huv ▸ ht)
  | callback u cb _ _ _ _ _ huv => exact Or.inl (huv ▸ ht)
  | dangling u _ _ _ _ huv => exact Or.inl (huv ▸ ht)
  | closeCallback u _ _ _ _ _ huv hstack =>
    by_cases hu : t = u
    · exact Or.inr (hu ▸ hstack)
    · exact Or.inl (by rw [huv, Function.update_of_ne hu]; exact ht)

/-! ## Run to completion -/

/-- What holds of the stack between two actions. -/
structure StackInv (w : World) : Prop where
  one_callback : ∀ l, OneCallback l (w.callsOf l w.stack)
  subject_lt : ∀ f ∈ w.stack, f.subject.id < w.next
  handle_registered : ∀ h, .handle h ∈ w.stack → w.late h = false →
    (w.uvHandle h).registered = true

/-- No call is being executed yet. -/
lemma stackInv_init : init.StackInv where
  one_callback _ := Or.inl rfl
  subject_lt _ hmem := absurd hmem List.not_mem_nil
  handle_registered _ hmem := absurd hmem List.not_mem_nil

/-- The object of a call exists, unless it is a handle that was started late. -/
lemma StackInv.subject_live (h : w.StackInv) (hinv : w.Inv) (hf : f ∈ w.stack)
    (hlate : ∀ t, f = .handle t → w.late t = false) : f.subject ∈ w.live := by
  cases f with
  | running l => exact hinv.held_live _ hf _ (List.mem_singleton_self _)
  | request r => exact hinv.held_live _ hf _ (List.mem_singleton_self _)
  | handle t => exact (hinv.registered_self t (h.handle_registered t hf (hlate t rfl))).1
  | closing t => exact hinv.held_live _ hf _ (List.mem_singleton_self _)

/-- A call belongs to the loop of what it is about. -/
lemma StackInv.belongsTo (h : w.StackInv) (hf : f ∈ w.stack) :
    w.BelongsTo f.subject (w.loopOf f.subject) :=
  ⟨h.subject_lt f hf, rfl⟩

/-- The loop runs where one of its calls is executed, and once. -/
lemma StackInv.callsOf_of_not_running (h : w.StackInv) (hl : .running l ∉ w.stack) :
    w.callsOf l w.stack = [] := by
  have hnot : .running l ∉ w.callsOf l w.stack := fun hmem => hl (List.mem_of_mem_filter hmem)
  rcases h.one_callback l with hnone | hrun | ⟨f, _, hboth⟩
  · exact hnone
  · exact absurd (hrun ▸ List.mem_singleton_self _) hnot
  · exact absurd (hboth ▸ List.mem_cons_of_mem f (List.mem_singleton_self _)) hnot

/-- In its innermost call, a loop executes nothing but `uv_run`. -/
lemma StackInv.callsOf_of_inRun (h : w.StackInv) (hrun : w.InRun l) :
    w.callsOf l w.stack = [.running l] := by
  obtain ⟨rest, hstack⟩ := List.head?_eq_some_iff.mp hrun
  have hbelongs : w.BelongsTo (Frame.running l).subject l :=
    h.belongsTo (hstack ▸ List.mem_cons_self)
  have hcalls : w.callsOf l w.stack = .running l :: w.callsOf l rest := by
    rw [hstack]
    exact List.filter_cons_of_pos (by simpa using hbelongs)
  rcases h.one_callback l with hnone | hrun | ⟨f, hf, hboth⟩
  · exact absurd (hcalls.symm.trans hnone) (List.cons_ne_nil _ _)
  · exact hrun
  · -- `uv_run` is no callback
    obtain rfl := (List.cons.inj (hcalls.symm.trans hboth)).1
    cases hf

/-- No callback but the innermost is executed in a loop. -/
lemma StackInv.callback_not_mem (h : w.StackInv) (hf : f ∈ w.stack)
    (hcallback : f.isCallback = true) : ¬ w.InRun (w.loopOf f.subject) := by
  intro hrun
  have hmem : f ∈ w.callsOf (w.loopOf f.subject) w.stack :=
    List.mem_filter.mpr ⟨hf, by simpa using h.belongsTo hf⟩
  rw [h.callsOf_of_inRun hrun] at hmem
  rw [List.mem_singleton.mp hmem] at hcallback
  cases hcallback

/-- The loop of a call is running, so it exists. -/
lemma StackInv.loop_live (h : w.StackInv) (hinv : w.Inv) (hf : f ∈ w.stack) :
    .loop (w.loopOf f.subject) ∈ w.live := by
  have hmem : f ∈ w.callsOf (w.loopOf f.subject) w.stack :=
    List.mem_filter.mpr ⟨hf, by simpa using h.belongsTo hf⟩
  have hrun : .running (w.loopOf f.subject) ∈ w.callsOf (w.loopOf f.subject) w.stack := by
    rcases h.one_callback (w.loopOf f.subject) with hnone | hrun | ⟨g, _, hboth⟩
    · rw [hnone] at hmem
      exact absurd hmem List.not_mem_nil
    · exact hrun ▸ List.mem_singleton_self _
    · exact hboth ▸ List.mem_cons_of_mem g (List.mem_singleton_self _)
  exact hinv.held_live _ (List.mem_of_mem_filter hrun) _ (List.mem_singleton_self _)

/-- The calls of a loop are the same after an action, as far as they are. -/
lemma StackInv.callsOf_congr (h : w.StackInv) (hext : w.Extends v) {calls : List Frame}
    (hcalls : ∀ f ∈ calls, f ∈ w.stack) : v.callsOf l calls = w.callsOf l calls := by
  refine List.filter_congr fun f hf => ?_
  have hlt := h.subject_lt f (hcalls f hf)
  have hloop : v.loopOf f.subject = w.loopOf f.subject := hext.loopOf_eq hlt
  simp only [BelongsTo, hloop, hlt, hlt.trans_le hext.next_le]

/-- **Calls**: starting one, or returning from one, keeps the loops to one callback. -/
lemma StackInv.one_callback_exec (h : w.StackInv) (hinv : w.Inv) (hexec : w.exec a = some v) (l : ℕ) :
    OneCallback l (v.callsOf l v.stack) := by
  have hext := extends_exec hexec
  have hold := h.one_callback l
  rcases exec_stack hinv hexec with hsame | ⟨f, hstart, hpush⟩ | hpop
  · rwa [hsame, h.callsOf_congr hext fun _ hf => hf]
  · rw [hpush]
    have hrest : v.callsOf l w.stack = w.callsOf l w.stack := h.callsOf_congr hext fun _ hf => hf
    by_cases hbelongs : v.BelongsTo f.subject l
    · have hcons : v.callsOf l (f :: w.stack) = f :: w.callsOf l w.stack := by
        rw [← hrest]
        exact List.filter_cons_of_pos (by simpa using hbelongs)
      rw [hcons]
      cases hstart with
      | running m _ hnot =>
        obtain rfl : m = l := hbelongs.2
        rw [h.callsOf_of_not_running hnot]
        exact Or.inr (Or.inl rfl)
      | callback _ hf hlt hrun =>
        obtain rfl : w.loopOf f.subject = l := (hext.loopOf_eq hlt).symm.trans hbelongs.2
        rw [h.callsOf_of_inRun hrun]
        exact Or.inr (Or.inr ⟨f, hf, rfl⟩)
    · have hskip : v.callsOf l (f :: w.stack) = v.callsOf l w.stack :=
        List.filter_cons_of_neg (by simpa using hbelongs)
      rwa [hskip, hrest]
  · rw [hpop, h.callsOf_congr hext fun _ hf => List.mem_of_mem_tail hf]
    cases hstack : w.stack with
    | nil => exact Or.inl rfl
    | cons f rest =>
      rw [hstack] at hold
      by_cases hbelongs : w.BelongsTo f.subject l
      · have hcons : w.callsOf l (f :: rest) = f :: w.callsOf l rest :=
          List.filter_cons_of_pos (by simpa using hbelongs)
        rw [hcons] at hold
        rcases hold with hnone | hrun | ⟨g, _, hboth⟩
        · cases hnone
        · exact Or.inl (List.cons.inj hrun).2
        · exact Or.inr (Or.inl (List.cons.inj hboth).2)
      · have hskip : w.callsOf l (f :: rest) = w.callsOf l rest :=
          List.filter_cons_of_neg (by simpa using hbelongs)
        rwa [hskip] at hold

/-- Calls are about objects that were created. -/
lemma StackInv.subject_lt_exec (h : w.StackInv) (hinv : w.Inv) (hexec : w.exec a = some v)
    (hf : f ∈ v.stack) : f.subject.id < v.next := by
  refine lt_of_lt_of_le ?_ (extends_exec hexec).next_le
  rcases exec_stack hinv hexec with hsame | ⟨g, hstart, hpush⟩ | hpop
  · exact h.subject_lt f (hsame ▸ hf)
  · rcases List.mem_cons.mp (hpush ▸ hf) with rfl | hmem
    · exact hstart.subject_lt
    · exact h.subject_lt f hmem
  · exact h.subject_lt f (List.mem_of_mem_tail (hpop ▸ hf))

/-- **Handles**: one whose callback is being executed is not closed, unless it was started late. -/
lemma StackInv.handle_registered_exec (h : w.StackInv) (hinv : w.Inv) (hexec : w.exec a = some v) {t : ℕ}
    (ht : .handle t ∈ v.stack) (hlate : v.late t = false) : (v.uvHandle t).registered = true := by
  have hkept := fun hreg => (hinv.change hexec).registered (t := t) hreg
  have hlate' : w.late t = false :=
    Bool.eq_false_iff.mpr fun htrue => Bool.eq_false_iff.mp hlate (late_mono hexec htrue)
  rcases exec_stack hinv hexec with hsame | ⟨f, hstart, hpush⟩ | hpop
  · refine (hkept (h.handle_registered t (hsame ▸ ht) hlate')).resolve_right fun hclosing => ?_
    exact List.cons_ne_self _ _ (hclosing.symm.trans hsame)
  · rcases List.mem_cons.mp (hpush ▸ ht) with rfl | hmem
    · -- the callback that starts now
      cases hstart with
      | callback _ _ _ _ hreg =>
        have hreg' := (hreg t rfl).resolve_right (Bool.eq_false_iff.mp hlate')
        refine (hkept hreg').resolve_right fun hclosing => ?_
        cases (List.cons.inj (hpush.symm.trans hclosing)).1
    · refine (hkept (h.handle_registered t hmem hlate')).resolve_right fun hclosing => ?_
      -- the close callback would have to start inside of `uv_run`, which the other callback is not
      obtain rfl := (List.cons.inj (hpush.symm.trans hclosing)).1
      cases hstart with
      | callback _ _ _ hrun => exact h.callback_not_mem hmem rfl hrun
  · have hmem := List.mem_of_mem_tail (hpop ▸ ht)
    refine (hkept (h.handle_registered t hmem hlate')).resolve_right fun hclosing => ?_
    have hlength := congrArg List.length (hpop.symm.trans hclosing)
    rw [List.length_tail, List.length_cons] at hlength
    omega

/-- **Step lemma** for the calls being executed. -/
lemma stackInv_step (hinv : w.Inv) (h : w.StackInv) (hstep : w.step a = some w') : w'.StackInv := by
  obtain ⟨v, hexec, rfl⟩ := Option.map_eq_some_iff.mp hstep
  have hv : v.StackInv := ⟨h.one_callback_exec hinv hexec, fun _ => h.subject_lt_exec hinv hexec,
    fun _ => h.handle_registered_exec hinv hexec⟩
  exact ⟨hv.one_callback, hv.subject_lt, hv.handle_registered⟩

/-- What is promised of the calls follows from the invariants. -/
lemma StackInv.runsToCompletion (h : w.StackInv) (hinv : w.Inv) : w.RunsToCompletion where
  one_callback := h.one_callback
  loop_live _ hf := h.loop_live hinv hf
  subject_live _ hf := h.subject_live hinv hf
  handle_registered := h.handle_registered

/-- **Callbacks run to completion**: along every run, whatever the nesting of the loops, no callback starts
in a loop while another one is being executed there, and the loops and objects of the calls being executed
exist, the handles among them being closed only after their callback has returned.  Only a handle that was
started after it was closed may go while a callback of it is being executed. -/
theorem callbacks_run_to_completion (as : List Action) : Visits World.step RunsToCompletion init as := by
  refine visits_of_invariant (I := fun w => w.Inv ∧ w.StackInv) (fun _ h => h.2.runsToCompletion h.1) ?_
    ⟨inv_init, stackInv_init⟩
  rintro w a w' ⟨hinv, h⟩ hstep
  exact ⟨inv_step hinv hstep, stackInv_step hinv h hstep⟩

end World

end Uvw
