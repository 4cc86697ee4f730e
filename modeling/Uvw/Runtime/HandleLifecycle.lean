import Uvw.Runtime.RequestOwnership

/-!
# The life of a handle

A handle is initialised, possibly registered by libuv, closed any number of times and at last called
back.  `handles_live_until_closed` collects what holds of it on the way, unless it is started again
after `close()`: it owns itself while it is registered, `uv_close` sees it at most once, its
`close_event` is the last event published on it, and once the close callback has returned it lives
exactly as long as somebody else refers to it.

### Outline

* `eventsOn`, the events published on a resource, and what one action adds to them;
* `CloseHistory`, the invariant on the history, and its step lemma;
* the clauses of `HandleLifecycle`.
-/

namespace Uvw

/-- The event an entry publishes on a resource. -/
def Entry.eventOn (t : ℕ) : Entry → Option Event
  | .published on ev _ _ => if on = t then some ev else none
  | _ => none

/-- The events published on a resource, in order, those forwarded by requests included. -/
def eventsOn (log : List Entry) (t : ℕ) : List Event := log.filterMap (Entry.eventOn t)

@[simp] lemma eventsOn_nil (t : ℕ) : eventsOn [] t = [] := rfl

@[simp] lemma eventsOn_append (es fs : List Entry) (t : ℕ) :
    eventsOn (es ++ fs) t = eventsOn es t ++ eventsOn fs t :=
  List.filterMap_append

lemma mem_eventsOn {es : List Entry} {t : ℕ} {ev : Event} :
    ev ∈ eventsOn es t ↔ ∃ via alive, .published t ev via alive ∈ es := by
  simp only [eventsOn, List.mem_filterMap]
  constructor
  · rintro ⟨e, he, hev⟩
    cases e with
    | published on ev' via alive =>
      simp only [Entry.eventOn, Option.ite_none_right_eq_some, Option.some.injEq] at hev
      obtain ⟨rfl, rfl⟩ := hev
      exact ⟨via, alive, he⟩
    | _ => cases hev
  · rintro ⟨via, alive, he⟩
    exact ⟨_, he, by simp [Entry.eventOn]⟩

namespace World

variable {w w' : World} {a : Action}

/-- The program or a request of the handle refers to it. -/
def ReferencedByOthers (w : World) (h : ℕ) : Prop :=
  0 < w.refs (.resource h) ∨ ∃ r, .resource r ∈ w.live ∧ (w.resources r).target = some h

/-- What a handle is promised in a world. -/
structure HandleLifecycle (w : World) (h : ℕ) : Prop where
  /-- While it is registered it owns itself, so callbacks find it. -/
  registered_self : (w.uvHandle h).registered = true →
    (w.resources h).hasSelf = true ∧ .resource h ∈ w.live
  /-- `uv_close` is called on it at most once, and on an open handle. -/
  uvClose_open : ∀ st, .uvClose h st ∈ w.log → st = .open
  uvClose_once : w.log.count (.uvClose h .open) ≤ 1
  /-- Until its close callback starts it publishes no `close_event`, -/
  not_closed : w.uvHandle h ≠ .closed → .close ∉ eventsOn w.log h
  /-- from then on exactly one, which stays its last event. -/
  closed : w.uvHandle h = .closed →
    ∃ before, eventsOn w.log h = before ++ [.close] ∧ .close ∉ before
  /-- The listeners of its `close_event` find it alive and not owning itself, -/
  in_close_callback : .closing h ∈ w.stack →
    (w.resources h).hasSelf = false ∧ .resource h ∈ w.live
  /-- and when the callback returns it survives exactly if somebody else refers to it. -/
  after_close_callback : ∀ w', w.stack.head? = some (.closing h) → w.step .ret = some w' →
    (.resource h ∈ w'.live ↔ w.ReferencedByOthers h)
  /-- A failed initialisation leaves it without a self reference. -/
  init_failed : w.uvHandle h = .failed → (w.resources h).cls ≠ .handle .process →
    (w.resources h).hasSelf = false

/-! ## The history of a handle -/

/-- What the history, the frames and the accepted requests tell of the handles that are closed. -/
structure CloseHistory (w : World) : Prop where
  events_open : ∀ h, w.uvHandle h ≠ .closed → .close ∉ eventsOn w.log h
  /-- Only a handle that was started late has events after its `close_event`. -/
  events_closed : ∀ h, w.uvHandle h = .closed →
    ∃ before later, eventsOn w.log h = before ++ .close :: later ∧ .close ∉ before ∧
      .close ∉ later ∧ (w.late h = false → later = [])
  /-- No accepted request outlives the close callback of its handle. -/
  pending_open : ∀ r h, w.pending r = true → (w.resources r).target = some h →
    w.uvHandle h ≠ .closed
  uvClose_open : ∀ h st, .uvClose h st ∈ w.log → st = .open
  uvClose_once : ∀ h, w.log.count (.uvClose h .open) ≤ 1
  uvClose_zero : ∀ h, w.closing h = false → w.log.count (.uvClose h .open) = 0
  frame_once : ∀ h, w.stack.count (.closing h) ≤ 1

lemma closeHistory_init : init.CloseHistory where
  events_open _ _ := List.not_mem_nil
  events_closed h hh := by cases hh
  pending_open r _ hr := by cases hr
  uvClose_open _ _ hh := absurd hh List.not_mem_nil
  uvClose_once _ := by simp [init]
  uvClose_zero _ _ := by simp [init]
  frame_once _ := by simp [init]

/-- An update that neither leaves nor reaches the closed state. -/
lemma update_eq_closed_iff {f : ℕ → UvHandle} {u t : ℕ} {st : UvHandle} (hold : f u ≠ .closed)
    (hst : st ≠ .closed) : Function.update f u st t = .closed ↔ f t = .closed := by
  by_cases ht : t = u
  · subst ht
    simp [hold, hst]
  · rw [Function.update_of_ne ht]

/-- The events of a completion go to the request and to the handle its listeners captured. -/
lemma mem_completionEntries {r t : ℕ} {c : RequestClass} {status : Int} {ev : Event}
    {via : Option ℕ} {alive : Bool}
    (h : .published t ev via alive ∈ w.completionEntries r c status) :
    ev = c.callback status ∧ (t = r ∨ (w.resources r).target = some t) := by
  simp only [completionEntries, List.mem_cons, reduceCtorEq, Entry.published.injEq, List.mem_map,
    Option.mem_toList, false_or] at h
  rcases h with ⟨rfl, rfl, _⟩ | ⟨u, hu, rfl, rfl, _⟩
  · exact ⟨rfl, Or.inl rfl⟩
  · exact ⟨rfl, Or.inr hu⟩

/-- **Events of one action**: a close callback publishes a `close_event` on its handle; every other
action publishes no `close_event`, and nothing on a closed handle that was not started late. -/
lemma Change.eventsOn (hc : w.Change w') (hinv : w.Inv)
    (hopen : ∀ r t, w.pending r = true → (w.resources r).target = some t →
      w.uvHandle t ≠ .closed) (t : ℕ) :
    ((w'.uvHandle t = .closed ↔ w.uvHandle t = .closed) ∧
      ∃ evs, Uvw.eventsOn w'.log t = Uvw.eventsOn w.log t ++ evs ∧ .close ∉ evs ∧
        (w.uvHandle t = .closed → w.late t = false → evs = [])) ∨
    (w.uvHandle t = .closing ∧ w'.uvHandle t = .closed ∧
      Uvw.eventsOn w'.log t = Uvw.eventsOn w.log t ++ [.close]) := by
  cases hc with
  | quiet hlog _ huv => exact Or.inl ⟨by rw [huv], [], by simp [hlog], by simp, fun _ _ => rfl⟩
  | init u st hold hst hlog _ huv =>
    refine Or.inl ⟨?_, [], by simp [hlog], by simp, fun _ _ => rfl⟩
    rw [huv, update_eq_closed_iff (by simp [hold]) (by rcases hst with rfl | rfl <;> simp)]
  | close u hold hlog _ huv =>
    refine Or.inl ⟨?_, [], by simp [hlog, Uvw.eventsOn, Entry.eventOn], by simp, fun _ _ => rfl⟩
    rw [huv, update_eq_closed_iff (by simp [hold]) (by simp)]
  | closeReset u hold hlog _ huv =>
    refine Or.inl ⟨?_, [], by simp [hlog], by simp, fun _ _ => rfl⟩
    rw [huv, update_eq_closed_iff (by simp [hold]) (by simp)]
  | submit r _ _ _ hlog _ huv =>
    exact Or.inl ⟨by rw [huv], [], by simp [hlog], by simp, fun _ _ => rfl⟩
  | operate u op data code _ _ _ _ _ _ hlog _ huv =>
    exact Or.inl ⟨by rw [huv], [], by simp [hlog, Uvw.eventsOn, Entry.eventOn], by simp,
      fun _ _ => rfl⟩
  | complete r c status hold _ hlog _ huv =>
    refine Or.inl ⟨by rw [huv], _, by rw [hlog, eventsOn_append], ?_, ?_⟩
    · intro hmem
      obtain ⟨via, alive, he⟩ := mem_eventsOn.mp hmem
      exact c.callback_ne_close status (mem_completionEntries he).1.symm
    · intro hclosed _
      apply List.eq_nil_iff_forall_not_mem.mpr
      intro ev hev
      obtain ⟨via, alive, he⟩ := mem_eventsOn.mp hev
      rcases (mem_completionEntries he).2 with rfl | htarget
      · have hhnd := hinv.uv_handle t (by simp [hclosed])
        rw [(hinv.pending_self t hold).2.2] at hhnd
        exact absurd hhnd (by decide)
      · exact hopen r t hold htarget hclosed
  | callback u cb hold _ _ hlog _ huv =>
    refine Or.inl ⟨by rw [huv], _, by rw [hlog, eventsOn_append], ?_, ?_⟩
    · intro hmem
      obtain ⟨via, alive, he⟩ := mem_eventsOn.mp hmem
      obtain ⟨ev, hev, heq⟩ := List.mem_map.mp he
      cases heq
      exact cb.event_ne_close (Option.mem_toList.mp hev)
    · intro hclosed hlate
      apply List.eq_nil_iff_forall_not_mem.mpr
      intro ev hev
      obtain ⟨via, alive, he⟩ := mem_eventsOn.mp hev
      obtain ⟨ev', _, heq⟩ := List.mem_map.mp he
      cases heq
      simp [hclosed, UvHandle.registered, hlate] at hold
  | dangling u _ _ hlog _ huv =>
    exact Or.inl ⟨by rw [huv], [], by simp [hlog, Uvw.eventsOn, Entry.eventOn], by simp,
      fun _ _ => rfl⟩
  | closeCallback u hold _ _ hlog _ huv =>
    by_cases ht : t = u
    · subst ht
      refine Or.inr ⟨hold, by rw [huv, Function.update_self], ?_⟩
      rw [hlog, eventsOn_append]
      simp [Uvw.eventsOn, Entry.eventOn]
    · refine Or.inl ⟨by rw [huv, Function.update_of_ne ht], [], ?_, by simp, fun _ _ => rfl⟩
      rw [hlog, eventsOn_append]
      simp [Uvw.eventsOn, Entry.eventOn, Ne.symm ht]

/-- **Calls of `uv_close` by one action**: none, or one on an open handle. -/
lemma Change.count_uvClose (hc : w.Change w') (t : ℕ) :
    w'.log.count (.uvClose t .open) = w.log.count (.uvClose t .open) ∨
    (w.uvHandle t = .open ∧ w'.uvHandle t = .closing ∧
      w'.log.count (.uvClose t .open) = w.log.count (.uvClose t .open) + 1) := by
  cases hc with
  | close u hold hlog _ huv =>
    by_cases ht : t = u
    · subst ht
      exact Or.inr ⟨hold, by rw [huv, Function.update_self], by simp [hlog]⟩
    · exact Or.inl (by simp [hlog, Ne.symm ht])
  | complete r c status _ _ hlog =>
    apply Or.inl
    rw [hlog, List.count_append, Nat.add_eq_left, List.count_eq_zero]
    simp [completionEntries]
  | callback u cb _ _ _ hlog =>
    apply Or.inl
    rw [hlog, List.count_append, Nat.add_eq_left, List.count_eq_zero]
    simp
  | dangling u _ _ hlog => exact Or.inl (by simp [hlog])
  | quiet hlog => exact Or.inl (by rw [hlog])
  | init u st _ _ hlog => exact Or.inl (by rw [hlog])
  | closeReset u _ hlog => exact Or.inl (by rw [hlog])
  | submit r _ _ _ hlog => exact Or.inl (by rw [hlog])
  | operate u op data code _ _ _ _ _ _ hlog => exact Or.inl (by simp [hlog])
  | closeCallback u _ _ _ hlog => exact Or.inl (by simp [hlog])

/-- What `uv_close` is called on by an action is open. -/
lemma Change.mem_uvClose (hc : w.Change w') {t : ℕ} {st : UvHandle}
    (h : .uvClose t st ∈ w'.log) : .uvClose t st ∈ w.log ∨ st = .open := by
  cases hc with
  | close u _ hlog =>
    rw [hlog, List.mem_append, List.mem_singleton] at h
    exact h.imp_right fun heq => (Entry.uvClose.inj heq).2
  | complete r c status _ _ hlog => exact Or.inl (by simpa [hlog, completionEntries] using h)
  | callback u cb _ _ _ hlog => exact Or.inl (by simpa [hlog] using h)
  | _ => exact Or.inl (by simp_all)

/-- The close callbacks being executed after an action. -/
lemma Change.count_closing (hc : w.Change w') (t : ℕ) :
    w'.stack.count (.closing t) ≤ w.stack.count (.closing t) ∨
    (w.uvHandle t = .closing ∧
      w'.stack.count (.closing t) = w.stack.count (.closing t) + 1) := by
  cases hc with
  | closeCallback u hold _ _ _ _ _ hstack =>
    by_cases ht : t = u
    · subst ht
      exact Or.inr ⟨hold, by simp [hstack]⟩
    · exact Or.inl (by simp [hstack, Ne.symm ht])
  | quiet _ _ _ hstack =>
    rcases hstack with hstack | ⟨l, hstack⟩ | hstack
    · exact Or.inl (by rw [hstack])
    · exact Or.inl (by simp [hstack])
    · exact Or.inl (by rw [hstack]; exact (List.tail_sublist _).count_le _)
  | _ => exact Or.inl (by simp_all)

lemma hasPending_eq_false_iff {t : ℕ} :
    w.hasPending t = false ↔
      ∀ r < w.next, (w.resources r).target = some t → w.pending r = false := by
  simp [hasPending]

/-- An accepted request with a target was accepted before the action, or is accepted now on a
registered handle. -/
lemma Change.pending_target (hc : w.Change w') (hext : w.Extends w') (hinv : w.Inv) {r t : ℕ}
    (hpend : w'.pending r = true) (htarget : (w'.resources r).target = some t) :
    (w.pending r = true ∧ (w.resources r).target = some t) ∨
    ((w.uvHandle t).registered = true ∧ w'.uvHandle = w.uvHandle) := by
  have hold : w.pending r = true →
      w.pending r = true ∧ (w.resources r).target = some t := fun hr =>
    ⟨hr, hext.target r (hinv.live_lt _ (hinv.pending_self r hr).1) ▸ htarget⟩
  cases hc with
  | submit s hlt _ hnone _ hpend' =>
    by_cases hr : r = s
    · subst hr
      rw [hext.target r hlt, hnone] at htarget
      cases htarget
    · rw [hpend', Function.update_of_ne hr] at hpend
      exact Or.inl (hold hpend)
  | operate u op data code hreg _ htarget' _ _ _ _ hpend' huv =>
    by_cases hr : w.pending r = true
    · exact Or.inl (hold hr)
    split at hpend'
    · have hrn : r = w.next := by
        by_contra hne
        rw [hpend', Function.update_of_ne hne] at hpend
        exact hr hpend
      rw [hrn, htarget'] at htarget
      obtain rfl := Option.some.inj htarget
      exact Or.inr ⟨hreg.resolve_right fun hcl => hcl.2 ‹code = 0›, huv⟩
    · exact absurd (hpend' ▸ hpend) hr
  | complete s c status _ _ _ hpend' =>
    by_cases hr : r = s
    · simp [hpend', hr] at hpend
    · rw [hpend', Function.update_of_ne hr] at hpend
      exact Or.inl (hold hpend)
  | _ => exact Or.inl (hold (by simp_all))

/-- The close callback of a handle starts only when it has no accepted request left. -/
lemma Change.closed_cases (hc : w.Change w') {t : ℕ} (ht : w'.uvHandle t = .closed) :
    w.uvHandle t = .closed ∨ w.hasPending t = false := by
  cases hc with
  | closeCallback u _ hidle _ _ _ huv =>
    by_cases htu : t = u
    · exact Or.inr (htu ▸ hidle)
    · rw [huv, Function.update_of_ne htu] at ht
      exact Or.inl ht
  | init u st hold hst _ _ huv =>
    rw [huv, update_eq_closed_iff (by simp [hold]) (by rcases hst with rfl | rfl <;> simp)] at ht
    exact Or.inl ht
  | close u hold _ _ huv =>
    rw [huv, update_eq_closed_iff (by simp [hold]) (by simp)] at ht
    exact Or.inl ht
  | closeReset u hold _ _ huv =>
    rw [huv, update_eq_closed_iff (by simp [hold]) (by simp)] at ht
    exact Or.inl ht
  | _ => exact Or.inl (by simp_all)

/-- **Step lemma** for the history of the handles. -/
lemma closeHistory_step (h : w.Consistent) (hh : w.CloseHistory) (hstep : w.step a = some w') :
    w'.CloseHistory := by
  obtain ⟨v, hexec, rfl⟩ := Option.map_eq_some_iff.mp hstep
  have hext := extends_exec hexec
  have hc := h.toInv.change hexec
  have hevents := hc.eventsOn h.toInv hh.pending_open
  refine
    { events_open := ?_
      events_closed := ?_
      pending_open := ?_
      uvClose_open := fun t st hmem =>
        (hc.mem_uvClose hmem).elim (hh.uvClose_open t st) id
      uvClose_once := ?_
      uvClose_zero := ?_
      frame_once := ?_ }
  · intro t ht
    rcases hevents t with ⟨hiff, evs, heq, hnot, _⟩ | ⟨_, hclosed, _⟩
    · rw [settle_log, heq, List.mem_append]
      exact not_or.mpr ⟨hh.events_open t (mt hiff.mpr ht), hnot⟩
    · exact absurd hclosed ht
  · intro t ht
    rcases hevents t with ⟨hiff, evs, heq, hnone, hnil⟩ | ⟨hclosing, _, heq⟩
    · have hold := hiff.mp ht
      obtain ⟨before, later, hbefore, hnot, hlater, hlast⟩ := hh.events_closed t hold
      refine ⟨before, later ++ evs, ?_, hnot, ?_, fun hlate => ?_⟩
      · rw [settle_log, heq, hbefore, List.append_assoc, List.cons_append]
      · exact List.mem_append.not.mpr (not_or.mpr ⟨hlater, hnone⟩)
      · have hlate' : w.late t = false :=
          Bool.eq_false_iff.mpr fun htrue => Bool.eq_false_iff.mp hlate (late_mono hexec htrue)
        rw [hlast hlate', hnil hold hlate', List.append_nil]
    · exact ⟨_, [], heq, hh.events_open t (by simp [hclosing]), List.not_mem_nil, fun _ => rfl⟩
  · intro r t hpend htarget hclosed
    rcases hc.pending_target hext h.toInv hpend htarget with ⟨hpend, htarget⟩ | ⟨hreg, huv⟩
    · rcases hc.closed_cases hclosed with hold | hidle
      · exact hh.pending_open r t hpend htarget hold
      · have hlt := h.live_lt _ (h.pending_self r hpend).1
        rw [hasPending_eq_false_iff.mp hidle r hlt htarget] at hpend
        cases hpend
    · rw [settle_uvHandle, huv] at hclosed
      simp [hclosed, UvHandle.registered] at hreg
  · intro t
    rw [settle_log]
    rcases hc.count_uvClose t with hcount | ⟨hopen, _, hcount⟩
    · exact hcount ▸ hh.uvClose_once t
    · rw [hcount, hh.uvClose_zero t (by simp [World.closing, hopen])]
  · intro t ht
    rw [settle_log]
    rcases hc.count_uvClose t with hcount | ⟨_, hclosing, _⟩
    · rw [hcount]
      refine hh.uvClose_zero t (Bool.eq_false_iff.mpr fun hold => ?_)
      exact absurd ht (Bool.eq_false_iff.not_left.mpr (hc.closing hold))
    · simp [World.closing, hclosing] at ht
  · intro t
    rw [settle_stack]
    rcases hc.count_closing t with hle | ⟨hclosing, hcount⟩
    · exact hle.trans (hh.frame_once t)
    · have hnone : .closing t ∉ w.stack := fun hmem => by
        simp [h.closing_frame t hmem] at hclosing
      rw [hcount, List.count_eq_zero.mpr hnone]

/-! ## The promise -/

/-- The self reference of a handle comes with its registration, up to failed spawns. -/
lemma Inv.hasSelf_registered (h : w.Inv) {t : ℕ} (hhnd : (w.resources t).isHandle = true)
    (hnot : (w.uvHandle t).registered = false)
    (hcls : w.uvHandle t = .failed → (w.resources t).cls ≠ .handle .process) :
    (w.resources t).hasSelf = false := by
  by_contra hself
  rw [Bool.not_eq_false] at hself
  rcases h.self_registered t hhnd hself with hreg | ⟨hproc, hfailed⟩
  · rw [hnot] at hreg
    cases hreg
  · exact hcls hfailed hproc

/-- When the close callback returns, the handle survives exactly if somebody else refers to it. -/
lemma Consistent.live_after_close_callback (h : w.Consistent) (hh : w.CloseHistory) {t : ℕ}
    (hhead : w.stack.head? = some (.closing t)) (hstep : w.step .ret = some w') :
    .resource t ∈ w'.live ↔ w.ReferencedByOthers t := by
  have h' := consistent_step h hstep
  have hclosed : w.uvHandle t = .closed := h.closing_frame t (List.mem_of_mem_head? hhead)
  have hhnd : (w.resources t).isHandle = true := h.uv_handle t (by simp [hclosed])
  obtain ⟨rest, hstack⟩ := List.head?_eq_some_iff.mp hhead
  obtain ⟨v, hexec, rfl⟩ := Option.map_eq_some_iff.mp hstep
  obtain ⟨_, rfl⟩ := by simpa [World.exec] using hexec
  have hrest : w.pop.settle.stack = rest := by simp [World.pop, hstack]
  have hself : (w.resources t).hasSelf = false :=
    h.toInv.hasSelf_registered hhnd (by simp [hclosed, UvHandle.registered])
      (fun hfailed => by simp [hclosed] at hfailed)
  have hrequest : .request t ∉ rest := fun hmem => by
    have hreq := h.request_frame t (hstack ▸ List.mem_cons_of_mem _ hmem)
    simp [hhnd] at hreq
  have hclosing : .closing t ∉ rest := by
    have hcount := hh.frame_once t
    rw [hstack, List.count_cons_self] at hcount
    exact List.count_eq_zero.mp (by omega)
  -- the requests that survive the return are those that were there before it
  have hlive : ∀ r, (w.resources r).target = some t →
      (.resource r ∈ w.pop.settle.live ↔ .resource r ∈ w.live) := by
    intro r hr
    have hreq := (h.target_handle r t hr).1
    rw [h'.request_mem_live_iff hreq, h.request_mem_live_iff hreq, hrest, hstack]
    simp [World.pop]
  constructor
  · intro hmem
    rcases h'.settled.resource_referenced hmem with
      hrefs | (hframe | hframe) | hown | ⟨r, hr, htarget⟩
    · exact Or.inl hrefs
    · exact absurd (hrest ▸ hframe) hrequest
    · exact absurd (hrest ▸ hframe) hclosing
    · exact absurd (hself.symm.trans hown) Bool.false_ne_true
    · exact Or.inr ⟨r, (hlive r htarget).mp hr, htarget⟩
  · rintro (hrefs | ⟨r, hr, htarget⟩)
    · exact h'.refs_live _ hrefs
    · exact h'.target_live r t ((hlive r htarget).mpr hr) htarget

/-- A handle that was not started late has all of its promise. -/
lemma Consistent.handleLifecycle (h : w.Consistent) (hh : w.CloseHistory) {t : ℕ}
    (hhnd : (w.resources t).isHandle = true) (hlate : w.late t = false) :
    w.HandleLifecycle t where
  registered_self hreg := (h.registered_self t hreg).symm
  uvClose_open := hh.uvClose_open t
  uvClose_once := hh.uvClose_once t
  not_closed := hh.events_open t
  closed hclosed := by
    obtain ⟨before, later, heq, hnot, _, hlast⟩ := hh.events_closed t hclosed
    exact ⟨before, hlast hlate ▸ heq, hnot⟩
  in_close_callback hframe := by
    have hclosed := h.closing_frame t hframe
    exact ⟨h.toInv.hasSelf_registered hhnd (by simp [hclosed, UvHandle.registered])
        (fun hfailed => by simp [hclosed] at hfailed),
      h.held_live _ hframe _ (List.mem_singleton_self _)⟩
  after_close_callback _ hhead hstep := h.live_after_close_callback hh hhead hstep
  init_failed hfailed hcls :=
    h.toInv.hasSelf_registered hhnd (by simp [hfailed, UvHandle.registered]) fun _ => hcls

/-- `loop::resource` after a failed initialisation: the only reference to the object is dropped. -/
lemma resource_of_initResult_ne_zero {cls : ResourceClass} {l : ℕ} {code : Int}
    (hcode : initResult cls code ≠ 0) :
    w.resource cls l code =
      ((((w.uninitializedResource cls l).uvInit w.next code).modify w.next
        (·.leakIf code)).release (.resource w.next), none) := by
  cases cls with
  | handle c =>
    have hinit : (w.uninitializedResource (.handle c) l).handleClass? w.next = some c := by
      rw [handleClass?_eq_some, uninitializedResource_resources]
      rfl
    unfold World.resource World.initHandle
    rw [if_neg hcode]
    dsimp only
    cases c with
    | process => exact absurd rfl hcode
    | _ => rw [hinit]
  | request c => exact absurd rfl hcode

/-- `loop::resource` returns null when the initialisation fails, and the object it created is gone
without ever having owned itself. -/
lemma Consistent.resource_of_init_failed (h : w.Consistent) {cls : ResourceClass} {l : ℕ}
    {code : Int} (hcode : initResult cls code ≠ 0) :
    (w.resource cls l code).2 = none ∧
      ((w.resource cls l code).1.resources w.next).hasSelf = false ∧
      .resource w.next ∉ (w.resource cls l code).1.settle.live := by
  have hne : code ≠ 0 := by
    rintro rfl
    cases cls with
    | handle c => cases c <;> exact hcode rfl
    | request c => exact hcode rfl
  rw [resource_of_initResult_ne_zero hcode]
  have hself : ((((w.uninitializedResource cls l).uvInit w.next code).modify w.next
      (·.leakIf code)).resources w.next).hasSelf = false := by
    simp [World.modify, Resource.hasSelf, World.uvInit, hne, Resource.construct]
  refine ⟨rfl, hself, fun hlive => ?_⟩
  have hfresh : ∀ x : Obj, x.id = w.next → x ∉ w.live := fun x hx => not_mem_live_next h.toInv hx
  rcases settled_settle.resource_referenced hlive with hrefs | hframe | hown | ⟨r, _, hr⟩
  · have hzero : w.refs (.resource w.next) = 0 := by
      by_contra hpos
      exact hfresh _ rfl (h.refs_live _ (Nat.pos_of_ne_zero hpos))
    simp [World.release, World.modify, World.uvInit, World.uninitializedResource, World.acquire,
      World.allocate, hzero] at hrefs
  · rcases hframe with hmem | hmem <;>
      exact hfresh _ rfl (h.held_live _ hmem _ (List.mem_singleton_self _))
  · exact absurd (hself.symm.trans hown) Bool.false_ne_true
  · have htarget : ((w.uninitializedResource cls l).resources r).target = some w.next :=
      (modify_leakIf_target _ _ _ _).symm.trans hr
    by_cases hrn : r = w.next
    · exact uninitializedResource_target cls l _ (hrn ▸ htarget)
    · have hold : (w.resources r).target = some w.next := by
        simpa [World.uninitializedResource, World.acquire, World.allocate, hrn] using htarget
      exact lt_irrefl _ (h.target_handle r _ hold).2.2

/-- What a program is promised of its handles: each has the promise of `HandleLifecycle`, no callback
finds its resource gone, and after a failed initialisation `loop::resource` returns null and leaves
no object behind. -/
structure HandlesKept (w : World) : Prop where
  lifecycle : ∀ h, (w.resources h).isHandle = true → w.HandleLifecycle h
  found : ∀ r, .dangling r ∉ w.log
  init_failed : ∀ cls l code, initResult cls code ≠ 0 →
    (w.resource cls l code).2 = none ∧
      ((w.resource cls l code).1.resources w.next).hasSelf = false ∧
      .resource w.next ∉ (w.resource cls l code).1.settle.live

/-- **Handles live until they are closed**: along every run that starts no handle after it was closed,
every handle owns itself while it is registered, is handed to `uv_close` at most once and only when
open, publishes one `close_event` after all its other events, survives its close callback exactly if
somebody else refers to it, and is never owned by itself or returned after a failed initialisation. -/
theorem handles_live_until_closed (as : List Action)
    (h : TransitionSystem.Along World.step (fun w a => ¬ w.StartsLate a) init as) :
    TransitionSystem.Visits World.step HandlesKept init as := by
  refine TransitionSystem.visits_of_invariant_along
    (I := fun w => (w.Consistent ∧ w.CloseHistory) ∧ ∀ t, w.late t = false) ?_ ?_
    ⟨⟨consistent_init, closeHistory_init⟩, fun _ => rfl⟩ h
  · rintro w ⟨⟨h, hh⟩, hlate⟩
    refine ⟨fun t hhnd => h.handleLifecycle hh hhnd (hlate t), fun r hr => ?_,
      fun _ _ _ => h.resource_of_init_failed⟩
    exact Bool.eq_false_iff.mp (hlate r) (h.dangling_late r hr)
  · rintro w a w' ⟨⟨h, hh⟩, hlate⟩ ha hstep
    refine ⟨⟨consistent_step h hstep, closeHistory_step h hh hstep⟩, fun t => ?_⟩
    obtain ⟨v, hexec, rfl⟩ := Option.map_eq_some_iff.mp hstep
    rw [settle_late, late_of_not_startsLate hexec ha]
    exact hlate t

/-- An idle handle is started, called back, closed by its own listener and forgotten. -/
theorem handles_live_until_closed_idle :
    TransitionSystem.Visits World.step HandlesKept init
      [.createLoop .delete, .resource (.handle .idle) 0 0, .start 1 0, .drop (.resource 1), .run 0,
        .callback 1 .idleStart, .close 1, .ret, .closeCallback 1, .ret, .runEnd] :=
  handles_live_until_closed _ (by decide +kernel)

/-- An idle handle that is started after it was closed is called back when it is gone. -/
theorem idle_started_after_close :
    ¬ ∀ as, TransitionSystem.Visits World.step HandlesKept init as := by
  intro h
  have hrun := (h [.createLoop .delete, .resource (.handle .idle) 0 0, .close 1, .start 1 0,
    .drop (.resource 1), .run 0, .closeCallback 1, .ret, .callback 1 .idleStart]).after
    (Option.some_get (by decide +kernel)).symm
  exact hrun.found 1 (by decide +kernel)

end World

end Uvw
