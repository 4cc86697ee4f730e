import Uvw.Runtime.Change

/-!
# Requests own themselves while they are in flight

A request takes a reference to itself when libuv accepts it (`leak_if`) and moves it into a local
one when libuv calls back (`reserve`), before its event is published.  So it may be submitted, forgotten
and submitted again from its own listener: `requests_own_themselves` says that in every reachable
world the self reference is there exactly while the operation is in flight, and that the object lives
exactly as long as it is in flight, in its callback or referred to.
-/

namespace Uvw

namespace World

variable {w : World}

/-- What a request is promised: it owns itself exactly while libuv holds an accepted, not yet
completed operation of it, it is alive then and until its callback has returned, and it is gone as
soon as it is idle and nobody refers to it. -/
structure RequestOwned (w : World) (r : ℕ) : Prop where
  hasSelf_iff : (w.resources r).hasSelf = true ↔ w.pending r = true
  pending_live : w.pending r = true → .resource r ∈ w.live
  callback_live : .request r ∈ w.stack → .resource r ∈ w.live
  live_iff : .resource r ∈ w.live ↔
    w.pending r = true ∨ .request r ∈ w.stack ∨ 0 < w.refs (.resource r)

/-- The frames that hold a resource are its completion and its close callback. -/
lemma mem_held_resource {f : Frame} {r : ℕ} :
    .resource r ∈ f.held ↔ f = .request r ∨ f = .closing r := by
  cases f <;> simp [Frame.held, eq_comm]

/-- What can keep a resource alive: the program, its callbacks, itself and the requests that forward
their events to it. -/
lemma Settled.resource_referenced (h : w.Settled) {r : ℕ} (hlive : .resource r ∈ w.live) :
    0 < w.refs (.resource r) ∨ (.request r ∈ w.stack ∨ .closing r ∈ w.stack) ∨
      (w.resources r).selfPtr = true ∨
      ∃ s, .resource s ∈ w.live ∧ (w.resources s).target = some r := by
  rcases useCount_pos_iff.mp (h _ hlive) with hrefs | ⟨f, hf, hheld⟩ | ⟨s, hs, howned⟩
  · exact Or.inl hrefs
  · rcases mem_held_resource.mp hheld with rfl | rfl
    · exact Or.inr (Or.inl (Or.inl hf))
    · exact Or.inr (Or.inl (Or.inr hf))
  · rcases mem_owned_resource.mp howned with ⟨hself, rfl⟩ | htarget
    · exact Or.inr (Or.inr (Or.inl hself))
    · exact Or.inr (Or.inr (Or.inr ⟨s, hs, htarget⟩))

/-- What keeps a request alive: no close callback holds it and no listener captures it. -/
lemma Consistent.request_mem_live_iff (h : w.Consistent) {r : ℕ}
    (hreq : (w.resources r).isHandle = false) :
    .resource r ∈ w.live ↔
      w.pending r = true ∨ .request r ∈ w.stack ∨ 0 < w.refs (.resource r) := by
  constructor
  · intro hlive
    rcases h.settled.resource_referenced hlive with hrefs | (hcall | hclose) | hself | ⟨s, _, hs⟩
    · exact Or.inr (Or.inr hrefs)
    · exact Or.inr (Or.inl hcall)
    · have huv := h.closing_frame r hclose
      rw [h.uv_handle r (by simp [huv])] at hreq
      exact absurd hreq (by decide)
    · exact Or.inl (h.self_pending r hreq hself)
    · rw [(h.target_handle s r hs).2.1] at hreq
      exact absurd hreq (by decide)
  · rintro (hpend | hcall | hrefs)
    · exact (h.pending_self r hpend).1
    · exact h.held_live _ hcall _ (List.mem_singleton_self _)
    · exact h.refs_live _ hrefs

lemma Consistent.requestOwned (h : w.Consistent) {r : ℕ}
    (hreq : (w.resources r).isRequest = true) : w.RequestOwned r := by
  have hnot : (w.resources r).isHandle = false := by simpa [Resource.isRequest] using hreq
  refine ⟨⟨h.self_pending r hnot, fun hpend => (h.pending_self r hpend).2.1⟩,
    fun hpend => (h.pending_self r hpend).1, ?_, h.request_mem_live_iff hnot⟩
  exact fun hcall => h.held_live _ hcall _ (List.mem_singleton_self _)

/-- **Requests own themselves while they are in flight**: along every run, every request owns itself
exactly while libuv holds an accepted operation of it, lives exactly while it is in flight, in its
callback or referred to, and no callback ever finds its request gone. -/
theorem requests_own_themselves (as : List Action) :
    TransitionSystem.Visits World.step
      (fun w => ∀ r, (w.resources r).isRequest = true →
        w.RequestOwned r ∧ .dangling r ∉ w.log)
      init as :=
  visits_of_consistent (fun _ h _ hreq => ⟨h.requestOwned hreq, h.no_dangling_request hreq⟩) as

end World

end Uvw
