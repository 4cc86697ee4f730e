import Uvw.Udp.Receive

/-!
# Conservation of receive buffers

Every report of a buffer makes one owner of it: a listener that keeps the data, or the `delete[]` that
follows the callback.  A buffer that is reported through its base only has one owner in the end
(`Single`); one that is reported in chunks has as many as there were chunks, and one more when libuv
hands it back (`Accounted`, `Twice`).  So `recv_conserves_iff` finds the buffers conserved exactly along
the runs without a chunk, which are all the runs of a handle created without `UV_UDP_RECVMMSG`
(`conserved_of_not_recvmmsg`).
-/

namespace Uvw

open ObjectMemory TransitionSystem

namespace UdpReceiver

section

variable {uv : UvInet} {s t : UdpReceiver} {keep : Bool} {p : CharPtr} {a : UdpAction} {b : ℕ}

/-! ## Runs without a chunk -/

/-- What can have become of a buffer that is reported through its base only. -/
inductive BufferState (s : UdpReceiver) (b : ℕ) : Prop
  | unused (hlt : s.buffers ≤ b) (hphase : s.phase.buffer ≠ some b) (hheld : s.heldOf b = [])
      (hhist : s.history b = [])
  | filled (len : ℕ) (hlt : b < s.buffers) (hphase : s.phase = .filled b len)
      (hheld : s.heldOf b = []) (hhist : s.history b = [])
  | kept (hlt : b < s.buffers) (hphase : s.phase.buffer ≠ some b)
      (hheld : s.heldOf b = [⟨b, 0⟩]) (hhist : s.history b = [.delivered 0])
  | released (hlt : b < s.buffers) (hphase : s.phase.buffer ≠ some b) (hheld : s.heldOf b = [])
      (hhist : s.history b = [.delivered 0, .freed 0])

/-- What holds as long as no chunk is reported. -/
structure Single (s : UdpReceiver) : Prop where
  not_batch : ∀ b len, s.phase ≠ .batch b len
  buffer : ∀ b, s.BufferState b

lemma single_start (f : ℕ) : (start f).Single where
  not_batch _ _ h := by cases h
  buffer b := .unused (Nat.zero_le b) (by simp [start, RecvPhase.buffer]) rfl rfl

/-- A buffer whose pointers, phase and history stay as they are keeps its state. -/
lemma BufferState.congr (h : s.BufferState b) (hbuffers : t.buffers = s.buffers)
    (hphase : t.phase = s.phase) (hheld : t.heldOf b = s.heldOf b)
    (hhist : t.history b = s.history b) : t.BufferState b := by
  cases h with
  | unused hlt hp hh hr =>
    exact .unused (hbuffers ▸ hlt) (hphase ▸ hp) (hheld.trans hh) (hhist.trans hr)
  | filled len hlt hp hh hr =>
    exact .filled len (hbuffers ▸ hlt) (hphase.trans hp) (hheld.trans hh) (hhist.trans hr)
  | kept hlt hp hh hr =>
    exact .kept (hbuffers ▸ hlt) (hphase ▸ hp) (hheld.trans hh) (hhist.trans hr)
  | released hlt hp hh hr =>
    exact .released (hbuffers ▸ hlt) (hphase ▸ hp) (hheld.trans hh) (hhist.trans hr)

lemma heldOf_congr (hheld : t.held = s.held) : t.heldOf b = s.heldOf b := by
  rw [heldOf, heldOf, hheld]

lemma mem_heldOf : p ∈ s.heldOf b ↔ p ∈ s.held ∧ p.buffer = b := by
  rw [heldOf, List.mem_filter, decide_eq_true_eq]

/-- A listener destroys a pointer. -/
lemma heldOf_erase (hheld : t.held = s.held.erase p) : t.heldOf b = (s.heldOf b).erase p := by
  rw [heldOf, hheld, heldOf, List.erase_filter]

lemma heldOf_erase_of_ne (hheld : t.held = s.held.erase p) (hne : p.buffer ≠ b) :
    t.heldOf b = s.heldOf b := by
  have hnot : p ∉ s.heldOf b := fun hmem => hne (mem_heldOf.mp hmem).2
  rw [heldOf_erase hheld, List.erase_of_not_mem hnot]

/-- A report of another buffer. -/
lemma Delivered.of_ne (h : Delivered s t p) (hne : p.buffer ≠ b) :
    t.heldOf b = s.heldOf b ∧ t.history b = s.history b := by
  rcases h.outcome with ⟨hheld, hhist⟩ | ⟨hheld, hhist⟩
  · refine ⟨?_, by rw [hhist, if_neg hne, List.append_nil]⟩
    rw [heldOf, hheld, List.filter_cons_of_neg (by simpa using hne), heldOf]
  · exact ⟨heldOf_congr hheld, by rw [hhist, if_neg hne, List.append_nil]⟩

/-- The report of a filled buffer: a listener keeps it or it is released. -/
lemma Delivered.bufferState (h : Delivered s t ⟨b, 0⟩) (hidle : t.phase = .idle)
    (hlt : b < s.buffers) (hheld : s.heldOf b = []) (hhist : s.history b = []) :
    t.BufferState b := by
  have hphase : t.phase.buffer ≠ some b := by rw [hidle]; simp [RecvPhase.buffer]
  have hlt' : b < t.buffers := h.buffers ▸ hlt
  rcases h.outcome with ⟨hheld', hhist'⟩ | ⟨hheld', hhist'⟩
  · refine .kept hlt' hphase ?_ ?_
    · rw [heldOf, hheld', List.filter_cons_of_pos (by simp)]
      exact congrArg _ hheld
    · rw [hhist', hhist, if_pos rfl]
      rfl
  · refine .released hlt' hphase ((heldOf_congr hheld').trans hheld) ?_
    rw [hhist', hhist, if_pos rfl]
    rfl

/-- A buffer that libuv has neither before nor after keeps its state. -/
lemma BufferState.of_not_in_phase (h : s.BufferState b) (hnot : s.phase.buffer ≠ some b)
    (hphase : t.phase.buffer ≠ some b) (hlt : b < t.buffers ↔ b < s.buffers)
    (hheld : t.heldOf b = s.heldOf b) (hhist : t.history b = s.history b) : t.BufferState b := by
  cases h with
  | unused hle _ hh hr =>
    exact .unused (Nat.le_of_not_lt fun hb => hle.not_gt (hlt.mp hb)) hphase (hheld.trans hh)
      (hhist.trans hr)
  | filled _ _ hp => exact absurd (by rw [hp]; rfl) hnot
  | kept hb _ hh hr => exact .kept (hlt.mpr hb) hphase (hheld.trans hh) (hhist.trans hr)
  | released hb _ hh hr => exact .released (hlt.mpr hb) hphase (hheld.trans hh) (hhist.trans hr)

/-- **Step lemma** for the runs without a chunk. -/
lemma Single.step (hs : s.Single) (hc : Change s t false) : t.Single := by
  cases hc with
  | quiet _ hbuffers hphase hheld hhist =>
    refine ⟨fun b len => hphase ▸ hs.not_batch b len, fun b => ?_⟩
    exact (hs.buffer b).congr hbuffers hphase (heldOf_congr hheld) (hhist b)
  | alloc len _ hbuffers hold hphase hheld hhist =>
    refine ⟨fun _ _ => by simp [hphase], fun b => ?_⟩
    have hheld' : t.heldOf b = s.heldOf b := heldOf_congr hheld
    by_cases hb : b = s.buffers
    · subst hb
      have hlt : s.buffers < t.buffers := by omega
      cases hs.buffer s.buffers with
      | unused _ _ hh hr => exact .filled len hlt hphase (hheld'.trans hh) ((hhist _).trans hr)
      | filled _ hlt' => exact absurd hlt' (lt_irrefl _)
      | kept hlt' => exact absurd hlt' (lt_irrefl _)
      | released hlt' => exact absurd hlt' (lt_irrefl _)
    · have hnot : s.phase.buffer ≠ some b := by rw [hold]; simp [RecvPhase.buffer]
      have hne : t.phase.buffer ≠ some b := by
        rw [hphase]
        simpa [RecvPhase.buffer] using Ne.symm hb
      exact (hs.buffer b).of_not_in_phase hnot hne (by omega) hheld' (hhist b)
  | report b' len _ hold hphase hdel =>
    refine ⟨fun _ _ => by simp [hphase], fun b => ?_⟩
    by_cases hb : b = b'
    · subst hb
      have hbuf : s.phase.buffer = some b := by rw [hold]; rfl
      cases hs.buffer b with
      | filled _ hlt _ hh hr => exact hdel.bufferState hphase hlt hh hr
      | unused _ hp => exact absurd hbuf hp
      | kept _ hp => exact absurd hbuf hp
      | released _ hp => exact absurd hbuf hp
    · obtain ⟨hheld, hhist⟩ := hdel.of_ne (Ne.symm hb)
      have hnot : s.phase.buffer ≠ some b := by
        rw [hold]
        simpa [RecvPhase.buffer] using Ne.symm hb
      have hne : t.phase.buffer ≠ some b := by rw [hphase]; simp [RecvPhase.buffer]
      exact (hs.buffer b).of_not_in_phase hnot hne (by rw [hdel.buffers]) hheld hhist
  | chunk _ _ _ hchunk => cases hchunk
  | mmsgFree b len _ hold => exact absurd hold (hs.not_batch b len)
  | destroy p _ hbuffers hphase hmem hheld hhist =>
    refine ⟨fun b len => hphase ▸ hs.not_batch b len, fun b => ?_⟩
    by_cases hb : p.buffer = b
    · have hmem' : p ∈ s.heldOf b := mem_heldOf.mpr ⟨hmem, hb⟩
      cases hs.buffer b with
      | kept hlt hp hh hr =>
        obtain rfl : p = ⟨b, 0⟩ := by simpa [hh] using hmem'
        have hgone : t.heldOf b = [] := by rw [heldOf_erase hheld, hh, List.erase_cons_head]
        refine .released (hbuffers ▸ hlt) (hphase ▸ hp) hgone ?_
        rw [hhist, hr, if_pos rfl]
        rfl
      | unused _ _ hh => simp [hh] at hmem'
      | filled _ _ _ hh => simp [hh] at hmem'
      | released _ _ hh => simp [hh] at hmem'
    · exact (hs.buffer b).congr hbuffers hphase (heldOf_erase_of_ne hheld hb)
        (by rw [hhist, if_neg hb, List.append_nil])

/-- Without chunks the buffers are conserved. -/
lemma Single.conserved (hs : s.Single) (hpub : s.dataEvents = s.datagrams.map (summary uv)) :
    s.Conserved uv where
  in_use b huse o hfreed := by
    cases hs.buffer b with
    | unused _ _ _ hr => simp [hr] at hfreed
    | filled _ _ _ _ hr => simp [hr] at hfreed
    | kept _ _ _ hr => simp [hr] at hfreed
    | released _ hp hh => exact huse.elim hp fun hne => hne hh
  released b hlt huse := by
    cases hs.buffer b with
    | unused hle => omega
    | filled _ _ hp => exact absurd (Or.inl (by rw [hp]; rfl)) huse
    | kept _ _ hh => exact absurd (Or.inr (by simp [hh])) huse
    | released _ _ _ hr => exact ⟨[0], hr⟩
  published := hpub

/-! ## Runs with a chunk -/

/-- How often a buffer was reported. -/
def reports (s : UdpReceiver) (b : ℕ) : ℕ :=
  (s.history b).countP fun e => match e with | .delivered _ => true | .freed _ => false

/-- How often a buffer was released, through whatever pointer. -/
def releases (s : UdpReceiver) (b : ℕ) : ℕ :=
  (s.history b).countP fun e => match e with | .delivered _ => false | .freed _ => true

/-- What holds of every run: each report of a buffer makes one owner more, which is a listener or has
released it. -/
structure Accounted (s : UdpReceiver) : Prop where
  balance : ∀ b, s.releases b + (s.heldOf b).length = s.reports b
  lt : ∀ b, s.phase.buffer = some b → b < s.buffers

lemma accounted_start (f : ℕ) : (start f).Accounted where
  balance _ := rfl
  lt _ h := by cases h

/-- A report makes one owner more. -/
lemma Delivered.reports (h : Delivered s t p) :
    t.reports b = s.reports b + (if p.buffer = b then 1 else 0) ∧
      t.releases b + (t.heldOf b).length =
        s.releases b + (s.heldOf b).length + if p.buffer = b then 1 else 0 := by
  by_cases hb : p.buffer = b
  · rw [if_pos hb]
    rcases h.outcome with ⟨hheld, hhist⟩ | ⟨hheld, hhist⟩
    · have hlist : t.heldOf b = p :: s.heldOf b := by
        rw [heldOf, hheld, List.filter_cons_of_pos (by simpa using hb), heldOf]
      simp [UdpReceiver.reports, releases, hhist, hb, hlist]
      omega
    · simp [UdpReceiver.reports, releases, hhist, hb, heldOf_congr hheld]
      omega
  · obtain ⟨hheld, hhist⟩ := h.of_ne hb
    simp [UdpReceiver.reports, releases, hheld, hhist, hb]

/-- Two reports of one buffer, or one in a batch that is not over. -/
def Twice (s : UdpReceiver) : Prop :=
  ∃ b < s.buffers, 2 ≤ s.reports b ∨ (∃ len, s.phase = .batch b len) ∧ 1 ≤ s.reports b

/-- A change that leaves the pointers into the buffers and their histories alone. -/
lemma Accounted.balance_congr (hs : s.Accounted) (hheld : t.held = s.held)
    (hhist : ∀ b, t.history b = s.history b) (b : ℕ) :
    t.releases b + (t.heldOf b).length = t.reports b ∧ t.reports b = s.reports b := by
  rw [releases, UdpReceiver.reports, hhist, heldOf_congr hheld]
  exact ⟨hs.balance b, rfl⟩

lemma Accounted.balance_delivered (hs : s.Accounted) (h : Delivered s t p) (b : ℕ) :
    t.releases b + (t.heldOf b).length = t.reports b := by
  have hbalance := hs.balance b
  obtain ⟨hreports, hreleases⟩ := h.reports (b := b)
  omega

lemma Delivered.reports_le (h : Delivered s t p) (b : ℕ) : s.reports b ≤ t.reports b := by
  have hreports := (h.reports (b := b)).1
  omega

/-- Destroying what a listener holds releases it. -/
lemma Accounted.balance_destroy (hs : s.Accounted) (hmem : p ∈ s.held)
    (hheld : t.held = s.held.erase p)
    (hhist : ∀ b, t.history b = s.history b ++ if p.buffer = b then [.freed p.offset] else [])
    (b : ℕ) :
    t.releases b + (t.heldOf b).length = t.reports b ∧ t.reports b = s.reports b := by
  have hbalance := hs.balance b
  by_cases hb : p.buffer = b
  · have hmem' : p ∈ s.heldOf b := mem_heldOf.mpr ⟨hmem, hb⟩
    have hlen := List.length_erase_of_mem hmem'
    have hpos := List.length_pos_of_mem hmem'
    have hreleases : t.releases b = s.releases b + 1 := by simp [releases, hhist, hb]
    have hreports : t.reports b = s.reports b := by simp [UdpReceiver.reports, hhist, hb]
    rw [heldOf_erase hheld]
    omega
  · have hreleases : t.releases b = s.releases b := by simp [releases, hhist, hb]
    have hreports : t.reports b = s.reports b := by simp [UdpReceiver.reports, hhist, hb]
    rw [heldOf_erase_of_ne hheld hb]
    omega

/-- **Step lemma** for all runs: the balance is kept. -/
lemma Accounted.step {chunk : Bool} (hs : s.Accounted) (hc : Change s t chunk) : t.Accounted := by
  cases hc with
  | quiet _ hbuffers hphase hheld hhist =>
    refine ⟨fun b => (hs.balance_congr hheld hhist b).1, fun b hb => ?_⟩
    rw [hbuffers]
    exact hs.lt b (hphase ▸ hb)
  | alloc len _ hbuffers _ hphase hheld hhist =>
    refine ⟨fun b => (hs.balance_congr hheld hhist b).1, fun b hb => ?_⟩
    obtain rfl : s.buffers = b := by simpa [hphase, RecvPhase.buffer] using hb
    omega
  | report b len _ _ hphase hdel =>
    exact ⟨hs.balance_delivered hdel, fun b hb => by simp [hphase, RecvPhase.buffer] at hb⟩
  | chunk b len offset _ hold hphase hdel =>
    refine ⟨hs.balance_delivered hdel, fun b' hb' => ?_⟩
    obtain rfl : b = b' := by simpa [hphase, RecvPhase.buffer] using hb'
    rw [hdel.buffers]
    rcases hold with hold | hold <;> exact hs.lt b (by rw [hold]; rfl)
  | mmsgFree b len _ _ hphase hdel =>
    exact ⟨hs.balance_delivered hdel, fun b hb => by simp [hphase, RecvPhase.buffer] at hb⟩
  | destroy p _ hbuffers hphase hmem hheld hhist =>
    refine ⟨fun b => (hs.balance_destroy hmem hheld hhist b).1, fun b hb => ?_⟩
    rw [hbuffers]
    exact hs.lt b (hphase ▸ hb)

/-- A chunk is reported before the buffer is handed back. -/
lemma Accounted.twice_of_chunk (hs : s.Accounted) (hc : Change s t true) : t.Twice := by
  cases hc with
  | chunk b len offset _ hold hphase hdel =>
    have hlt : b < s.buffers := by
      rcases hold with hold | hold <;> exact hs.lt b (by rw [hold]; rfl)
    have hone : 1 ≤ t.reports b := by
      have hreports := (hdel.reports (b := b)).1
      rw [if_pos rfl] at hreports
      omega
    exact ⟨b, hdel.buffers ▸ hlt, Or.inr ⟨⟨len, hphase⟩, hone⟩⟩
  | quiet hchunk => cases hchunk
  | alloc _ hchunk => cases hchunk
  | report _ _ hchunk => cases hchunk
  | mmsgFree _ _ hchunk => cases hchunk
  | destroy _ hchunk => cases hchunk

/-- Two reports stay, and a batch ends with another one. -/
lemma Accounted.twice_step {chunk : Bool} (hs : s.Accounted) (hc : Change s t chunk)
    (h : s.Twice) : t.Twice := by
  obtain ⟨b, hlt, hb⟩ := h
  cases hc with
  | quiet _ hbuffers hphase hheld hhist =>
    have hreports := (hs.balance_congr hheld hhist b).2
    refine ⟨b, hbuffers ▸ hlt, ?_⟩
    rw [hreports, hphase]
    exact hb
  | alloc len _ hbuffers hold hphase hheld hhist =>
    have hreports := (hs.balance_congr hheld hhist b).2
    refine ⟨b, by omega, Or.inl ?_⟩
    rcases hb with htwo | ⟨⟨_, hbatch⟩, _⟩
    · omega
    · rw [hold] at hbatch
      cases hbatch
  | report b' len _ hold hphase hdel =>
    have hle := hdel.reports_le b
    refine ⟨b, hdel.buffers ▸ hlt, Or.inl ?_⟩
    rcases hb with htwo | ⟨⟨_, hbatch⟩, _⟩
    · omega
    · rw [hold] at hbatch
      cases hbatch
  | chunk b' len offset hchunk hold hphase hdel =>
    subst hchunk
    exact hs.twice_of_chunk (.chunk b' len offset rfl hold hphase hdel)
  | mmsgFree b' len _ hold hphase hdel =>
    have hle := hdel.reports_le b
    refine ⟨b, hdel.buffers ▸ hlt, Or.inl ?_⟩
    rcases hb with htwo | ⟨⟨_, hbatch⟩, hone⟩
    · omega
    · obtain rfl : b' = b := by
        rw [hold] at hbatch
        exact (RecvPhase.batch.inj hbatch).1
      have hreports := (hdel.reports (b := b')).1
      rw [if_pos rfl] at hreports
      omega
  | destroy p _ hbuffers hphase hmem hheld hhist =>
    have hreports := (hs.balance_destroy hmem hheld hhist b).2
    refine ⟨b, hbuffers ▸ hlt, ?_⟩
    rw [hreports, hphase]
    exact hb

/-- Buffers that are conserved at the end of a run have been reported once each. -/
lemma Conserved.not_twice (hs : s.Accounted) (hq : s.Quiet) (hc : s.Conserved uv) : ¬ s.Twice := by
  rintro ⟨b, hlt, htwice⟩
  have hidle : s.InUse b → False := by
    rintro (hphase | hheld)
    · rw [hq.1] at hphase
      cases hphase
    · exact hheld (by rw [heldOf, hq.2]; rfl)
  obtain ⟨offsets, hhist⟩ := hc.released b hlt hidle
  have hbalance := hs.balance b
  have hheld : s.heldOf b = [] := by rw [heldOf, hq.2]; rfl
  have hone : s.releases b = 1 := by
    simp [releases, hhist, List.countP_eq_zero]
  rw [hone, hheld] at hbalance
  rcases htwice with htwo | ⟨⟨len, hbatch⟩, _⟩
  · simp at hbalance
    omega
  · rw [hq.1] at hbatch
    cases hbatch

/-! ## The whole run -/

/-- **Run lemma**: the balance is kept, and a run with a chunk ends with a buffer reported twice or in a
batch. -/
lemma Accounted.after {as : List UdpAction} (hs : s.Accounted)
    (h : after (UdpReceiver.step uv) s as = some t) :
    t.Accounted ∧ (s.Twice ∨ (∃ a ∈ as, a.isChunk = true) → t.Twice) := by
  induction as generalizing s with
  | nil =>
    obtain rfl := Option.some.inj h
    exact ⟨hs, fun h => h.elim id fun ⟨_, ha, _⟩ => absurd ha List.not_mem_nil⟩
  | cons a as ih =>
    obtain ⟨u, hu, hrest⟩ := after_cons_eq_some.mp h
    have hc : Change s u a.isChunk := (step_effect hu).change
    obtain ⟨haccounted, htwice⟩ := ih (hs.step hc) hrest
    refine ⟨haccounted, fun hor => htwice ?_⟩
    rcases hor with htwo | ⟨b, hb, hchunk⟩
    · exact Or.inl (hs.twice_step hc htwo)
    · rcases List.mem_cons.mp hb with rfl | hb
      · rw [hchunk] at hc
        exact Or.inl (hs.twice_of_chunk hc)
      · exact Or.inr ⟨b, hb, hchunk⟩

/-- Along every run whose actions report no chunk, the buffers are conserved. -/
lemma visits_conserved {f : ℕ} {as : List UdpAction}
    (hC : Along (UdpReceiver.step uv) (fun _ a => a.isChunk = false) (start f) as) :
    Visits (UdpReceiver.step uv) (Conserved uv) (start f) as := by
  refine visits_of_invariant_along
    (I := fun s => s.Single ∧ s.dataEvents = s.datagrams.map (summary uv)) ?_ ?_
    ⟨single_start f, rfl⟩ hC
  · rintro s ⟨hs, hpub⟩
    exact hs.conserved hpub
  · rintro s a t ⟨hs, hpub⟩ ha hstep
    have heffect := step_effect hstep
    have hc : Change s t a.isChunk := heffect.change
    rw [ha] at hc
    exact ⟨hs.step hc, heffect.published_eq hpub⟩

/-- **Reception conserves buffers exactly without chunks**: along every run in which no
`UV_UDP_MMSG_CHUNK` is reported, every buffer is released once, through its base and not before its last
report, and every datagram yields one event; and of the runs at whose end libuv has reported every
buffer and the listeners hold nothing, only these do so. -/
theorem recv_conserves_iff (uv : UvInet) (f : ℕ) (as : List UdpAction) :
    ((∀ a ∈ as, a.isChunk = false) →
      Visits (UdpReceiver.step uv) (Conserved uv) (start f) as) ∧
    ∀ s, TransitionSystem.after (UdpReceiver.step uv) (start f) as = some s → s.Quiet →
      (Visits (UdpReceiver.step uv) (Conserved uv) (start f) as ↔ ∀ a ∈ as, a.isChunk = false) := by
  have hsingle : (∀ a ∈ as, a.isChunk = false) →
      Visits (UdpReceiver.step uv) (Conserved uv) (start f) as :=
    fun hno => visits_conserved (along_of_forall_mem fun _ a ha => hno a ha)
  refine ⟨hsingle, fun s hend hquiet => ⟨fun hall a ha => ?_, hsingle⟩⟩
  obtain ⟨haccounted, htwice⟩ := (accounted_start f).after hend
  have hc : s.Conserved uv := hall.after hend
  by_contra hchunk
  exact hc.not_twice haccounted hquiet (htwice (Or.inr ⟨a, ha, by simpa using hchunk⟩))

/-- Three receptions on a handle without flags: a datagram whose data the listener keeps for a while, an
empty one, and nothing to read. -/
theorem recv_conserves_iff_single :
    Visits (UdpReceiver.step .loopback) (Conserved .loopback) (start 0)
      [.recv, .alloc 65536, .receive 3 (fun _ => 0) true, .alloc 65536,
        .receive 0 (fun _ => 0) false, .alloc 65536, .nothing, .destroy ⟨0, 0⟩, .stop] :=
  ((recv_conserves_iff .loopback 0 _).2 _ (Option.some_get (by decide)).symm (by decide)).mpr
    (by decide)

/-- A batch of one datagram on a handle with `UV_UDP_RECVMMSG`: the buffer is released with the event and
again when libuv hands it back. -/
theorem recv_batch_releases_twice :
    ¬ Visits (UdpReceiver.step .loopback) (Conserved .loopback) (start uvUdpRecvmmsg)
      [.recv, .alloc 65536, .chunk 0 65536 3 (fun _ => 0) false, .mmsgFree] := by
  intro hall
  have hend := (Option.some_get (show (TransitionSystem.after (UdpReceiver.step .loopback)
    (start uvUdpRecvmmsg) [.recv, .alloc 65536, .chunk 0 65536 3 (fun _ => 0) false,
      .mmsgFree]).isSome = true by decide)).symm
  have hc := hall.after hend
  exact hc.not_twice ((accounted_start _).after hend).1 (by decide) ⟨0, by decide, Or.inl (by decide)⟩

/-! ## Handles without `UV_UDP_RECVMMSG` -/

/-- No chunk is reported to a handle that was not created with `UV_UDP_RECVMMSG`. -/
lemma along_not_chunk {as : List UdpAction} (hs : s.flags &&& uvUdpRecvmmsg = 0) :
    Along (UdpReceiver.step uv) (fun _ a => a.isChunk = false) s as := by
  induction as generalizing s with
  | nil => trivial
  | cons a as ih =>
    intro t ht
    have heffect := step_effect ht
    refine ⟨?_, ih (by rw [heffect.flags]; exact hs)⟩
    by_contra hyes
    exact heffect.recvmmsg (by simpa using hyes) hs

/-- **Handles created without `UV_UDP_RECVMMSG`** conserve the buffers of all their runs. -/
theorem conserved_of_not_recvmmsg (uv : UvInet) {f : ℕ} (hf : f &&& uvUdpRecvmmsg = 0)
    (as : List UdpAction) : Visits (UdpReceiver.step uv) (Conserved uv) (start f) as :=
  visits_conserved (along_not_chunk hf)

end

end UdpReceiver

end Uvw
