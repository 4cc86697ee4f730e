import Uvw.Runtime.HandleLifecycle

/-!
# Every accepted operation is answered once

`write`, `shutdown`, `connect` and `send` create a request of their own, install two listeners on it
that capture the handle, and submit it.  `operations_are_answered_once` follows the request of every
call through the history: nothing is forwarded for a refused call or before the completion, the
completion is forwarded once, to the handle of the call, which is alive, and the data of the request
is released with the request, at once for a refused call and after the completion for an accepted one.

### Outline

* the projections of the history on one request, and what one action adds to them;
* `StreamHistory`, the invariant on the calls made so far, and its step lemma;
* `OperationAnswered`, the promise to one call.
-/

namespace Uvw

/-! ## The history of a request -/

/-- The status an entry completes a request with. -/
def Entry.completionOf (r : ℕ) : Entry → Option Int
  | .completed s status => if s = r then some status else none
  | _ => none

/-- What the listeners of a request forward in an entry: the resource, the event and whether the
resource was alive. -/
def Entry.forwardedBy (r : ℕ) : Entry → Option (ℕ × Event × Bool)
  | .published on ev via alive => if via = some r then some (on, ev, alive) else none
  | _ => none

/-- The request of a call. -/
def Entry.callRequest : Entry → Option ℕ
  | .called r .. => some r
  | _ => none

/-- The statuses libuv completed a request with. -/
def completionsOf (log : List Entry) (r : ℕ) : List Int := log.filterMap (Entry.completionOf r)

/-- What the listeners of a request forwarded. -/
def forwardedBy (log : List Entry) (r : ℕ) : List (ℕ × Event × Bool) :=
  log.filterMap (Entry.forwardedBy r)

/-- The requests of the calls made. -/
def callRequests (log : List Entry) : List ℕ := log.filterMap Entry.callRequest

/-- A request was made for a call. -/
lemma mem_callRequests {log : List Entry} {r : ℕ} :
    r ∈ callRequests log ↔ ∃ h op data code, .called r h op data code ∈ log := by
  simp only [callRequests, List.mem_filterMap]
  constructor
  · rintro ⟨e, he, hr⟩
    cases e with
    | called s h op data code =>
      obtain rfl := Option.some.inj hr
      exact ⟨h, op, data, code, he⟩
    | _ => cases hr
  · rintro ⟨h, op, data, code, he⟩
    exact ⟨_, he, rfl⟩

namespace World

variable {w w' : World} {a : Action}

/-- **What one action adds to the history of a request**: libuv completes it, it is the request of
the call made, or nothing. -/
inductive RequestChange (w w' : World) (r : ℕ) : Prop
  /-- libuv completes it and its listeners forward the event. -/
  | completed (c : RequestClass) (status : Int) (hold : w.pending r = true)
      (hcls : (w.resources r).cls = .request c) (hpend : w'.pending r = false)
      (hcompl : completionsOf w'.log r = completionsOf w.log r ++ [status])
      (hforw : forwardedBy w'.log r = forwardedBy w.log r ++
        (w.resources r).target.toList.map fun h => (h, c.callback status, true))
      (hnext : w'.next = w.next)
      (hcalled : ∀ h op data code, .called r h op data code ∈ w'.log →
        .called r h op data code ∈ w.log)
  /-- It is created by a call of an operation. -/
  | called (h : ℕ) (op : StreamOp) (data : Option DataDeleter) (code : Int) (hr : r = w.next)
      (hcls : (w'.resources r).cls = .request op.request)
      (htarget : (w'.resources r).target = some h) (hdata : (w'.resources r).data = data)
      (hnext : w'.next = w.next + 1) (hrefs : w'.refs = w.refs)
      (hpend : w'.pending r = decide (code = 0))
      (hlog : w'.log = w.log ++ [.called r h op data code]) (hstack : w'.stack = w.stack)
      (hcompl : completionsOf w'.log r = completionsOf w.log r)
      (hforw : forwardedBy w'.log r = forwardedBy w.log r)
  /-- Nothing happens to it, unless it is a request of the program. -/
  | none (hpend : w'.pending r = w.pending r ∨ r < w.next ∧ (w.resources r).target = .none)
      (hcompl : completionsOf w'.log r = completionsOf w.log r)
      (hforw : forwardedBy w'.log r = forwardedBy w.log r)
      (hstack : .request r ∈ w'.stack → .request r ∈ w.stack)
      (hnew : r = w.next → (w'.resources r).target = .none ∨ w'.next = w.next)
      (hcalled : ∀ h op data code, .called r h op data code ∈ w'.log →
        .called r h op data code ∈ w.log)

/-- The entries of a completion, projected on a request. -/
lemma projections_completionEntries (w : World) (s r : ℕ) (c : RequestClass) (status : Int) :
    completionsOf (w.completionEntries s c status) r = (if s = r then [status] else []) ∧
      forwardedBy (w.completionEntries s c status) r =
        (if s = r then (w.resources s).target.toList.map fun h => (h, c.callback status, true)
          else []) := by
  by_cases hs : s = r
  · subst hs
    cases htarget : (w.resources s).target <;>
      simp [completionEntries, completionsOf, forwardedBy, Entry.completionOf, Entry.forwardedBy,
        htarget, List.filterMap_cons]
  · cases htarget : (w.resources s).target <;>
      simp [completionEntries, completionsOf, forwardedBy, Entry.completionOf, Entry.forwardedBy,
        hs, htarget]

/-- **What one action does to a request** is one of the cases. -/
lemma Change.request (hc : w.Change w') (hinv : w.Inv) (r : ℕ) : w.RequestChange w' r := by
  have hupdate : ∀ s b, r ≠ s → w'.pending = Function.update w.pending s b →
      w'.pending r = w.pending r := fun s b hne h => by rw [h, Function.update_of_ne hne]
  cases hc with
  | quiet hlog hpend _ hstack hnext =>
    refine .none (Or.inl (by rw [hpend])) (by rw [hlog]) (by rw [hlog]) ?_ ?_ (by simp [hlog])
    · intro hmem
      rcases hstack with hstack | ⟨l, hstack⟩ | hstack
      · exact hstack ▸ hmem
      · simpa [hstack] using hmem
      · exact List.mem_of_mem_tail (hstack ▸ hmem)
    rintro rfl
    exact Or.inl (Option.eq_none_iff_forall_ne_some.mpr hnext)
  | init u st _ _ hlog hpend _ hstack hnext =>
    refine .none (Or.inl (by rw [hpend])) (by rw [hlog]) (by rw [hlog]) (by simp [hstack]) ?_
      (by simp [hlog])
    rintro rfl
    exact Or.inl (Option.eq_none_iff_forall_ne_some.mpr hnext)
  | close u _ hlog hpend _ hstack hnext =>
    exact .none (Or.inl (by rw [hpend])) (by simp [hlog, completionsOf, Entry.completionOf])
      (by simp [hlog, forwardedBy, Entry.forwardedBy]) (by simp [hstack]) (fun _ => Or.inr hnext)
      (by simp [hlog])
  | closeReset u _ hlog hpend _ hstack hnext =>
    exact .none (Or.inl (by rw [hpend])) (by rw [hlog]) (by rw [hlog]) (by simp [hstack])
      (fun _ => Or.inr hnext) (by simp [hlog])
  | submit s hlt _ htarget hlog hpend _ hstack hnext =>
    refine .none ?_ (by rw [hlog]) (by rw [hlog]) (by simp [hstack]) (fun _ => Or.inr hnext)
      (by simp [hlog])
    by_cases hr : r = s
    · exact Or.inr (hr ▸ ⟨hlt, htarget⟩)
    · exact Or.inl (hupdate s true hr hpend)
  | operate u op data code _ hcls htarget hdata _ hrefs hlog hpend _ hstack hnext =>
    have hcompl : completionsOf w'.log r = completionsOf w.log r := by
      simp [hlog, completionsOf, Entry.completionOf]
    have hforw : forwardedBy w'.log r = forwardedBy w.log r := by
      simp [hlog, forwardedBy, Entry.forwardedBy]
    by_cases hr : r = w.next
    · subst hr
      refine .called u op data code rfl hcls htarget hdata hnext hrefs ?_ hlog hstack hcompl hforw
      by_cases hcode : code = 0
      · simp [hpend, hcode]
      · simp [hpend, hcode, hinv.fresh_pending w.next le_rfl]
    · refine .none (Or.inl ?_) hcompl hforw (by simp [hstack]) (fun h => absurd h hr)
        (by simp [hlog, hr])
      rw [hpend]
      split
      · exact Function.update_of_ne hr _ _
      · rfl
  | complete s c status hold hcls hlog hpend _ hstack hnext =>
    obtain ⟨hcompl, hforw⟩ := w.projections_completionEntries s r c status
    have hcalled : ∀ h op data code, .called r h op data code ∈ w'.log →
        .called r h op data code ∈ w.log := by
      simp [hlog, completionEntries]
    by_cases hr : r = s
    · subst hr
      refine .completed c status hold hcls (by simp [hpend]) ?_ ?_ hnext hcalled
      · rw [hlog, completionsOf, List.filterMap_append]
        exact congrArg _ (hcompl.trans (if_pos rfl))
      · rw [hlog, forwardedBy, List.filterMap_append]
        exact congrArg _ (hforw.trans (if_pos rfl))
    · refine .none (Or.inl (hupdate s false hr hpend)) ?_ ?_ (by simp [hstack, hr])
        (fun _ => Or.inr hnext) hcalled
      · rw [hlog, completionsOf, List.filterMap_append]
        exact (congrArg _ (hcompl.trans (if_neg (Ne.symm hr)))).trans (List.append_nil _)
      · rw [hlog, forwardedBy, List.filterMap_append]
        exact (congrArg _ (hforw.trans (if_neg (Ne.symm hr)))).trans (List.append_nil _)
  | dangling u _ _ hlog hpend _ hstack hnext =>
    exact .none (Or.inl (by rw [hpend])) (by simp [hlog, completionsOf, Entry.completionOf])
      (by simp [hlog, forwardedBy, Entry.forwardedBy]) (by simp [hstack]) (fun _ => Or.inr hnext)
      (by simp [hlog])
  | callback u cb _ _ _ hlog hpend _ hstack hnext =>
    refine .none (Or.inl (by rw [hpend])) ?_ ?_ (by simp [hstack]) (fun _ => Or.inr hnext)
      (by simp [hlog])
    · cases hev : cb.event <;> simp [hlog, completionsOf, Entry.completionOf, hev]
    · cases hev : cb.event <;> simp [hlog, forwardedBy, Entry.forwardedBy, hev]
  | closeCallback u _ _ _ hlog hpend _ hstack hnext =>
    exact .none (Or.inl (by rw [hpend])) (by simp [hlog, completionsOf, Entry.completionOf])
      (by simp [hlog, forwardedBy, Entry.forwardedBy]) (by simp [hstack]) (fun _ => Or.inr hnext)
      (by simp [hlog])

/-- A new call is made under a new number. -/
lemma Change.callRequests (hc : w.Change w') :
    Uvw.callRequests w'.log = Uvw.callRequests w.log ∨
      Uvw.callRequests w'.log = Uvw.callRequests w.log ++ [w.next] := by
  cases hc with
  | operate u op data code _ _ _ _ _ _ hlog =>
    exact Or.inr (by simp [hlog, Uvw.callRequests, Entry.callRequest])
  | complete s c status _ _ hlog =>
    apply Or.inl
    cases htarget : (w.resources s).target <;>
      simp [hlog, completionEntries, Uvw.callRequests, Entry.callRequest, htarget,
        List.filterMap_cons]
  | callback u cb _ _ _ hlog =>
    apply Or.inl
    cases hev : cb.event <;> simp [hlog, Uvw.callRequests, Entry.callRequest, hev]
  | _ => exact Or.inl (by simp_all [Uvw.callRequests, Entry.callRequest])

/-! ## The calls made so far -/

/-- What has been said about a call: nothing while libuv has it or after a refusal, and after the
completion its event, once, to the handle of the call while that was alive. -/
def Answered (w : World) (r h : ℕ) (op : StreamOp) (code : Int) : Prop :=
  if w.pending r = false ∧ code = 0 then
    ∃ status, completionsOf w.log r = [status] ∧
      forwardedBy w.log r = [(h, completionEvent op.request.success status, true)]
  else completionsOf w.log r = [] ∧ forwardedBy w.log r = []

/-- The invariant on the calls made so far. -/
structure StreamHistory (w : World) : Prop where
  calls_nodup : (callRequests w.log).Nodup
  /-- The record of the request keeps what the call was made with. -/
  record : ∀ r h op data code, .called r h op data code ∈ w.log →
    r < w.next ∧ (w.resources r).target = some h ∧ (w.resources r).cls = .request op.request ∧
      (w.resources r).data = data
  refused : ∀ r h op data code, .called r h op data code ∈ w.log → w.pending r = true → code = 0
  answered : ∀ r h op data code, .called r h op data code ∈ w.log → w.Answered r h op code
  fresh : ∀ r, w.next ≤ r → completionsOf w.log r = [] ∧ forwardedBy w.log r = []
  callback : ∀ r, .request r ∈ w.stack → completionsOf w.log r ≠ []
  /-- The program has no reference to the request of a call. -/
  hidden : ∀ r h, (w.resources r).target = some h → w.refs (.resource r) = 0
  /-- The data of a request is released with it. -/
  released : ∀ r, w.released r = if .resource r ∈ w.live then 0 else w.dataDtor r

/-- Nothing has been called yet. -/
lemma streamHistory_init : init.StreamHistory where
  calls_nodup := List.nodup_nil
  record _ _ _ _ _ h := absurd h List.not_mem_nil
  refused _ _ _ _ _ h := absurd h List.not_mem_nil
  answered _ _ _ _ _ h := absurd h List.not_mem_nil
  fresh _ _ := ⟨rfl, rfl⟩
  callback _ h := absurd h List.not_mem_nil
  hidden _ _ _ := rfl
  released _ := by simp [init, dataDtor, default, Resource.construct]

/-- The record of the request of a call keeps what the call was made with. -/
lemma RequestChange.record {r h : ℕ} {op : StreamOp} {data : Option DataDeleter} {code : Int}
    (hr : w.RequestChange w' r) (hext : w.Extends w') (hh : w.StreamHistory)
    (hcall : .called r h op data code ∈ w'.log) :
    r < w'.next ∧ (w'.resources r).target = some h ∧ (w'.resources r).cls = .request op.request ∧
      (w'.resources r).data = data := by
  have hold : .called r h op data code ∈ w.log →
      r < w'.next ∧ (w'.resources r).target = some h ∧
        (w'.resources r).cls = .request op.request ∧ (w'.resources r).data = data := by
    intro hmem
    obtain ⟨hlt, htarget, hcls, hdata⟩ := hh.record r h op data code hmem
    rw [hext.target r hlt, hext.cls r hlt, hext.data r (Or.inl hlt)]
    exact ⟨hlt.trans_le hext.next_le, htarget, hcls, hdata⟩
  cases hr with
  | completed _ _ _ _ _ _ _ _ hcalled => exact hold (hcalled _ _ _ _ hcall)
  | none _ _ _ _ _ hcalled => exact hold (hcalled _ _ _ _ hcall)
  | called u op' data' code' hrn hcls htarget hdata hnext _ _ hlog =>
    rw [hlog, List.mem_append, List.mem_singleton] at hcall
    rcases hcall with hmem | heq
    · exact hold hmem
    · cases heq
      exact ⟨by omega, htarget, hcls, hdata⟩

/-- Libuv has only accepted calls. -/
lemma RequestChange.refused {r h : ℕ} {op : StreamOp} {data : Option DataDeleter} {code : Int}
    (hr : w.RequestChange w' r) (hh : w.StreamHistory)
    (hcall : .called r h op data code ∈ w'.log) (hpend : w'.pending r = true) : code = 0 := by
  cases hr with
  | completed c status _ _ hpend' =>
    rw [hpend'] at hpend
    cases hpend
  | none hpend' _ _ _ _ hcalled =>
    have hmem := hcalled _ _ _ _ hcall
    rcases hpend' with hsame | ⟨_, hnone⟩
    · exact hh.refused r h op data code hmem (hsame ▸ hpend)
    · rw [(hh.record r h op data code hmem).2.1] at hnone
      cases hnone
  | called u op' data' code' hrn _ _ _ _ _ hpend' hlog =>
    rw [hlog, List.mem_append, List.mem_singleton] at hcall
    rcases hcall with hmem | heq
    · exact absurd (hh.record r h op data code hmem).1 (by omega)
    · cases heq
      rw [hpend'] at hpend
      exact of_decide_eq_true hpend

/-- **One call**: what has been said about it stays in order. -/
lemma RequestChange.answered {r h : ℕ} {op : StreamOp} {data : Option DataDeleter} {code : Int}
    (hr : w.RequestChange w' r) (hh : w.StreamHistory)
    (hcall : .called r h op data code ∈ w'.log) : w'.Answered r h op code := by
  cases hr with
  | completed c status hold hcls hpend hcompl hforw _ hcalled =>
    have hmem := hcalled _ _ _ _ hcall
    obtain ⟨_, htarget, hcls', _⟩ := hh.record r h op data code hmem
    have hcode : code = 0 := hh.refused r h op data code hmem hold
    have hbefore := hh.answered r h op data code hmem
    rw [Answered, if_neg (by simp [hold])] at hbefore
    rw [Answered, if_pos ⟨hpend, hcode⟩]
    refine ⟨status, by rw [hcompl, hbefore.1, List.nil_append], ?_⟩
    have hc : c = op.request := by
      rw [hcls] at hcls'
      exact ResourceClass.request.inj hcls'
    rw [hforw, hbefore.2, htarget, hc, RequestClass.callback_eq]
    rfl
  | none hpend hcompl hforw _ _ hcalled =>
    have hmem := hcalled _ _ _ _ hcall
    have hsame : w'.pending r = w.pending r := by
      rcases hpend with hsame | ⟨_, hnone⟩
      · exact hsame
      · rw [(hh.record r h op data code hmem).2.1] at hnone
        cases hnone
    have hbefore := hh.answered r h op data code hmem
    rwa [Answered, hsame, hcompl, hforw]
  | called u op' data' code' hrn _ _ _ _ _ hpend hlog _ hcompl hforw =>
    rw [hlog, List.mem_append, List.mem_singleton] at hcall
    rcases hcall with hmem | heq
    · exact absurd (hh.record r h op data code hmem).1 (by omega)
    · cases heq
      rw [Answered, if_neg, hcompl, hforw]
      · exact hh.fresh r hrn.ge
      · rintro ⟨hnot, hcode⟩
        rw [hpend, decide_eq_true hcode] at hnot
        cases hnot

/-- The request of a call stays out of the program's hands. -/
lemma RequestChange.hidden {r t : ℕ} (hr : w.RequestChange w' r) (hinv : w.Inv) (hinv' : w'.Inv)
    (hext : w.Extends w') (hh : w.StreamHistory) (htarget : (w'.resources r).target = some t) :
    w'.refs (.resource r) = 0 := by
  have hfresh : ¬ w'.next ≤ r := fun hle => by
    rw [hinv'.fresh_resource r hle] at htarget
    cases htarget
  rcases Nat.lt_or_ge r w.next with hlt | hge
  · have hold : (w.resources r).target = some t := hext.target r hlt ▸ htarget
    have hzero := hh.hidden r t hold
    by_contra hpos
    rcases hext.refs (.resource r) (by omega) with hvis | hid
    · exact absurd (hold.symm.trans hvis.2) (by simp)
    · exact absurd hid hlt.ne
  have hrn : r = w.next := by
    have := hext.next_succ
    omega
  cases hr with
  | completed _ _ _ _ _ _ _ hnext => omega
  | none _ _ _ _ hnew =>
    rcases hnew hrn with hnone | hnext
    · rw [hnone] at htarget
      cases htarget
    · omega
  | called _ _ _ _ _ _ _ _ _ hrefs =>
    rw [hrefs]
    by_contra hpos
    have hlive := hinv.live_lt _ (hinv.refs_live _ (Nat.pos_of_ne_zero hpos))
    exact absurd hlive (by simp [Obj.id, hrn])

/-- An action releases no data by itself. -/
lemma Extends.released_iff (hext : w.Extends w') (hinv : w.Inv) (hh : w.StreamHistory) (r : ℕ) :
    w'.released r = if .resource r ∈ w'.live then 0 else w'.dataDtor r := by
  rw [hext.released, hh.released r]
  by_cases hold : .resource r ∈ w.live
  · rw [if_pos hold, if_pos (hext.live_sub hold)]
  by_cases hnew : .resource r ∈ w'.live
  · have hid : r = w.next := hext.live_new _ hnew hold
    rw [if_neg hold, if_pos hnew, dataDtor, hid, hinv.fresh_resource _ le_rfl]
    rfl
  · rw [if_neg hold, if_neg hnew, dataDtor, dataDtor, hext.data r (Or.inr hnew)]

/-- Destruction releases the data of what it destroys. -/
lemma settle_released {r : ℕ}
    (h : w.released r = if .resource r ∈ w.live then 0 else w.dataDtor r) :
    w.settle.released r = if .resource r ∈ w.settle.live then 0 else w.settle.dataDtor r := by
  change (if w.Dies w.settle.live (.resource r) then w.released r + w.dataDtor r
    else w.released r) = _
  have hsub : .resource r ∈ w.settle.live → .resource r ∈ w.live :=
    fun hmem => OwnershipGraph.settle_subset hmem
  have hdata : w.settle.dataDtor r = w.dataDtor r := rfl
  by_cases hlive : .resource r ∈ w.settle.live
  · rw [if_neg fun hdies => hdies.2 hlive, h, if_pos (hsub hlive), if_pos hlive]
  by_cases hold : .resource r ∈ w.live
  · rw [if_pos ⟨hold, hlive⟩, h, if_pos hold, if_neg hlive, hdata, Nat.zero_add]
  · rw [if_neg fun hdies => hold hdies.1, h, if_neg hold, if_neg hlive, hdata]

/-- **Step lemma** for the calls made so far. -/
lemma streamHistory_step (h : w.Consistent) (hh : w.StreamHistory) (hstep : w.step a = some w') :
    w'.StreamHistory := by
  obtain ⟨v, hexec, rfl⟩ := Option.map_eq_some_iff.mp hstep
  have hext := extends_exec hexec
  have hc := h.toInv.change hexec
  have hr := hc.request h.toInv
  refine
    { calls_nodup := ?_
      record := fun r _ _ _ _ => (hr r).record hext hh
      refused := fun r _ _ _ _ => (hr r).refused hh
      answered := fun r _ _ _ _ => (hr r).answered hh
      fresh := ?_
      callback := ?_
      hidden := fun r _ => (hr r).hidden h.toInv (h.toInv.exec hexec) hext hh
      released := fun r => settle_released (hext.released_iff h.toInv hh r) }
  · rw [settle_log]
    rcases hc.callRequests with hsame | hnew
    · exact hsame ▸ hh.calls_nodup
    · rw [hnew, List.nodup_append_comm, List.singleton_append, List.nodup_cons]
      refine ⟨fun hmem => ?_, hh.calls_nodup⟩
      obtain ⟨t, op, data, code, hcall⟩ := mem_callRequests.mp hmem
      exact lt_irrefl _ (hh.record _ _ _ _ _ hcall).1
  · intro r hge
    have hle : w.next ≤ r := hext.next_le.trans hge
    rw [settle_log]
    cases hr r with
    | completed _ _ hold =>
      have hlt := h.live_lt _ (h.pending_self r hold).1
      exact absurd hlt (not_lt_of_ge hle)
    | called _ _ _ _ hrn _ _ _ hnext =>
      rw [settle_next] at hge
      omega
    | none _ hcompl hforw =>
      rw [hcompl, hforw]
      exact hh.fresh r hle
  · intro r hmem
    rw [settle_log]
    cases hr r with
    | completed _ _ _ _ _ hcompl => exact hcompl ▸ List.append_ne_nil_of_right_ne_nil _ (by simp)
    | called _ _ _ _ _ _ _ _ _ _ _ _ hstack hcompl => exact hcompl ▸ hh.callback r (hstack ▸ hmem)
    | none _ hcompl _ hstack => exact hcompl ▸ hh.callback r (hstack hmem)

/-! ## The promise -/

/-- How often the data of a call is released in the end. -/
def releases (data : Option DataDeleter) : ℕ := if data = some .delete then 1 else 0

/-- What the caller of an operation is promised. -/
structure OperationAnswered (w : World) (r h : ℕ) (op : StreamOp) (data : Option DataDeleter)
    (code : Int) : Prop where
  /-- A refused call publishes nothing and releases its data at once. -/
  refused : code ≠ 0 → completionsOf w.log r = [] ∧ forwardedBy w.log r = [] ∧
    w.released r = releases data
  /-- An accepted call publishes nothing and keeps its data until it is completed. -/
  in_flight : code = 0 → w.pending r = true → completionsOf w.log r = [] ∧
    forwardedBy w.log r = [] ∧ w.released r = 0
  /-- Its completion publishes one event on the handle of the call, which is alive, and the data is
  released when the callback returns. -/
  completed : code = 0 → w.pending r = false → ∃ status, completionsOf w.log r = [status] ∧
    forwardedBy w.log r =
      [(h, if status = 0 then op.request.success else .error status, true)] ∧
    w.released r = if .request r ∈ w.stack then 0 else releases data

/-- **What is promised of an operation** follows from the invariants. -/
lemma StreamHistory.operationAnswered (h : w.Consistent) (hh : w.StreamHistory) {r t : ℕ}
    {op : StreamOp} {data : Option DataDeleter} {code : Int}
    (hcall : .called r t op data code ∈ w.log) : w.OperationAnswered r t op data code := by
  obtain ⟨_, htarget, _, hdata⟩ := hh.record _ _ _ _ _ hcall
  have hanswered := hh.answered _ _ _ _ _ hcall
  have hrel : w.released r = if .resource r ∈ w.live then 0 else releases data := by
    rw [hh.released r, dataDtor, hdata]
    rfl
  -- the request lives while it is in flight and in its callback
  have hlive : .resource r ∈ w.live ↔ w.pending r = true ∨ .request r ∈ w.stack := by
    rw [h.request_mem_live_iff (h.target_handle r t htarget).1, hh.hidden r t htarget]
    simp
  constructor
  · intro hcode
    have hpend : w.pending r ≠ true := fun hp => hcode (hh.refused _ _ _ _ _ hcall hp)
    rw [Answered, if_neg fun hif => hcode hif.2] at hanswered
    have hframe : .request r ∉ w.stack := fun hmem => hh.callback r hmem hanswered.1
    refine ⟨hanswered.1, hanswered.2, ?_⟩
    rw [hrel, if_neg (hlive.not.mpr (not_or.mpr ⟨hpend, hframe⟩))]
  · intro _ hpend
    rw [Answered, if_neg fun hif => by simp [hpend] at hif] at hanswered
    exact ⟨hanswered.1, hanswered.2, by rw [hrel, if_pos (hlive.mpr (Or.inl hpend))]⟩
  · intro hcode hpend
    rw [Answered, if_pos ⟨hpend, hcode⟩] at hanswered
    obtain ⟨status, hcompl, hforw⟩ := hanswered
    refine ⟨status, hcompl, ?_, ?_⟩
    · rw [hforw, completionEvent, ite_not]
    · rw [hrel]
      simp [hlive, hpend]

/-- **Operations are answered once**: along every run, every call of `write`, `shutdown`, `connect`
and `send` has a request of its own; a refused call publishes nothing, an accepted one nothing until
its completion and then one event on the handle it was made on, while that is alive; and its data is
released once, not before the completion of an accepted call. -/
theorem operations_are_answered_once (as : List Action) :
    TransitionSystem.Visits World.step
      (fun w => (callRequests w.log).Nodup ∧
        ∀ r h op data code, .called r h op data code ∈ w.log →
          w.OperationAnswered r h op data code)
      init as := by
  refine TransitionSystem.visits_of_invariant (I := fun w => w.Consistent ∧ w.StreamHistory) ?_ ?_
    ⟨consistent_init, streamHistory_init⟩
  · rintro w ⟨h, hh⟩
    exact ⟨hh.calls_nodup, fun _ _ _ _ _ => hh.operationAnswered h⟩
  · rintro w a w' ⟨h, hh⟩ hstep
    exact ⟨consistent_step h hstep, streamHistory_step h hh hstep⟩

end World

end Uvw
