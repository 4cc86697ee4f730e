import Mathlib.Data.List.Basic
import Mathlib.Logic.Basic

/-!
# Runs of a partial transition function

A system is a function `step : σ → α → Option σ`: the action `a` is possible in the state `s` when
`step s a` is some state.  A run is given by the state it starts in and a list of actions; it ends
early where an action is not possible.  `Visits` says that a predicate holds of every state met on the
way, `Along` that every action is taken in a state where a condition allows it, and `after` is the
state in which a run ends that takes all its actions.  The rules are the usual ones: what follows from
an invariant of the steps holds of every state visited (`visits_of_invariant`, and
`visits_of_invariant_along` for steps taken under a condition), an invariant of the actions of a run
holds where it ends (`invariant_after`), two conditions that agree wherever an invariant holds, hold
along the same runs (`along_congr`), and where a condition says exactly which steps keep a predicate
true, it says so of the runs (`visits_iff_along_of_invariant`).
-/

namespace TransitionSystem

variable {σ α : Type*} (step : σ → α → Option σ) {C : σ → α → Prop}

/-- `P` holds of every state met by the run, the first and the last included. -/
def Visits (P : σ → Prop) : σ → List α → Prop
  | s, [] => P s
  | s, a :: as => P s ∧ ∀ s', step s a = some s' → Visits P s' as

/-- Every action the run takes is taken in a state where `C` allows it. -/
def Along (C : σ → α → Prop) : σ → List α → Prop
  | _, [] => True
  | s, a :: as => ∀ s', step s a = some s' → C s a ∧ Along C s' as

/-- Whether a condition holds along a run is found by running it. -/
instance decidableAlong [∀ s a, Decidable (C s a)] : ∀ s as, Decidable (Along step C s as)
  | _, [] => isTrue trivial
  | s, a :: as =>
    match hs : step s a with
    | none => isTrue fun t ht => by simp [hs] at ht
    | some t =>
      have := decidableAlong t as
      decidable_of_iff (C s a ∧ Along step C t as) (by simp [Along, hs])

/-- The state after a run, when it takes all its actions. -/
def after : σ → List α → Option σ
  | s, [] => some s
  | s, a :: as => (step s a).bind fun s' => after s' as

variable {step} {P : σ → Prop} {s t : σ} {a : α} {as bs : List α}

/-- A condition on the actions of a run holds along it. -/
lemma along_of_forall_mem (h : ∀ s, ∀ a ∈ as, C s a) : Along step C s as := by
  induction as generalizing s with
  | nil => trivial
  | cons a as ih =>
    intro t _
    exact ⟨h s a List.mem_cons_self, ih fun s b hb => h s b (List.mem_cons_of_mem a hb)⟩

/-- **Invariant rule for the states on the way**: what follows from an invariant of the steps taken
under `C` holds of every state visited along `C`. -/
theorem visits_of_invariant_along {I : σ → Prop} (hI : ∀ s, I s → P s)
    (hstep : ∀ s a s', I s → C s a → step s a = some s' → I s') (hs : I s)
    (hC : Along step C s as) : Visits step P s as := by
  induction as generalizing s with
  | nil => exact hI s hs
  | cons a as ih =>
    refine ⟨hI s hs, fun t ht => ?_⟩
    obtain ⟨hCa, hrest⟩ := hC t ht
    exact ih (hstep s a t hs hCa ht) hrest

/-- The invariant rule for the states on the way, without a condition. -/
theorem visits_of_invariant {I : σ → Prop} (hI : ∀ s, I s → P s)
    (hstep : ∀ s a s', I s → step s a = some s' → I s') (hs : I s) : Visits step P s as :=
  visits_of_invariant_along hI (fun s a s' h _ => hstep s a s' h) hs
    (along_of_forall_mem fun _ _ _ => trivial)

/-- Visiting only states with `P` is starting in one and taking only steps into one. -/
lemma visits_iff_along :
    Visits step P s as ↔ P s ∧ Along step (fun s a => ∀ s', step s a = some s' → P s') s as := by
  induction as generalizing s with
  | nil => exact ⟨fun h => ⟨h, trivial⟩, And.left⟩
  | cons a as ih =>
    refine and_congr_right fun _ => forall₂_congr fun t ht => ?_
    have hnext : (∀ s', step s a = some s' → P s') ↔ P t := by
      simp only [ht, Option.some.injEq, forall_eq']
    exact ih.trans (and_congr hnext.symm Iff.rfl)

/-! ## Where a run ends -/

@[simp] lemma after_nil : after step s [] = some s := rfl

lemma after_cons_eq_some :
    after step s (a :: as) = some t ↔ ∃ s', step s a = some s' ∧ after step s' as = some t :=
  Option.bind_eq_some_iff

lemma after_append_eq_some :
    after step s (as ++ bs) = some t ↔
      ∃ s', after step s as = some s' ∧ after step s' bs = some t := by
  induction as generalizing s with
  | nil => simp
  | cons a as ih =>
    simp only [List.cons_append, after_cons_eq_some, ih]
    constructor
    · rintro ⟨u, hu, s', hs', ht⟩
      exact ⟨s', ⟨u, hu, hs'⟩, ht⟩
    · rintro ⟨s', ⟨u, hu, hs'⟩, ht⟩
      exact ⟨u, hu, s', hs', ht⟩

/-- What holds of every state visited holds where the run ends. -/
lemma Visits.after (h : Visits step P s as) (ht : after step s as = some t) : P t := by
  induction as generalizing s with
  | nil =>
    obtain rfl := Option.some.inj ht
    exact h
  | cons a as ih =>
    obtain ⟨s', hs', ht⟩ := after_cons_eq_some.mp ht
    exact ih (h.2 s' hs') ht

/-- The state a run visits first is the one it starts in. -/
lemma Visits.start (h : Visits step P s as) : P s := by
  cases as with
  | nil => exact h
  | cons a as => exact h.1

/-- **Invariant rule for the end of a run**: what every action of the run keeps holds where it ends. -/
theorem invariant_after {I : σ → Prop}
    (hstep : ∀ s a s', a ∈ as → I s → step s a = some s' → I s') (hs : I s)
    (ht : after step s as = some t) : I t := by
  induction as generalizing s with
  | nil =>
    obtain rfl := Option.some.inj ht
    exact hs
  | cons a as ih =>
    obtain ⟨s', hs', ht⟩ := after_cons_eq_some.mp ht
    have hnext : I s' := hstep s a s' List.mem_cons_self hs hs'
    exact ih (fun u b u' hb => hstep u b u' (List.mem_cons_of_mem a hb)) hnext ht

/-! ## Comparing conditions -/

/-- Two conditions hold along a run together exactly when each does. -/
lemma along_and {D : σ → α → Prop} :
    Along step (fun s a => C s a ∧ D s a) s as ↔ Along step C s as ∧ Along step D s as := by
  induction as generalizing s with
  | nil => exact ⟨fun _ => ⟨trivial, trivial⟩, fun _ => trivial⟩
  | cons a as ih =>
    simp only [Along, ih]
    constructor
    · intro h
      exact ⟨fun t ht => ⟨(h t ht).1.1, (h t ht).2.1⟩, fun t ht => ⟨(h t ht).1.2, (h t ht).2.2⟩⟩
    · rintro ⟨hC, hD⟩ t ht
      exact ⟨⟨(hC t ht).1, (hD t ht).1⟩, (hC t ht).2, (hD t ht).2⟩

/-- **Equivalent conditions**: two conditions that agree on the steps of an invariant kept under
the first hold along the same runs. -/
theorem along_congr {I : σ → Prop} {D : σ → α → Prop}
    (hkeep : ∀ s a s', I s → C s a → step s a = some s' → I s')
    (hiff : ∀ s a s', I s → step s a = some s' → (C s a ↔ D s a)) (hs : I s) :
    Along step C s as ↔ Along step D s as := by
  induction as generalizing s with
  | nil => exact Iff.rfl
  | cons a as ih =>
    refine forall₂_congr fun t ht => ?_
    constructor
    · rintro ⟨hCa, hrest⟩
      exact ⟨(hiff s a t hs ht).mp hCa, (ih (hkeep s a t hs hCa ht)).mp hrest⟩
    · rintro ⟨hDa, hrest⟩
      have hCa : C s a := (hiff s a t hs ht).mpr hDa
      exact ⟨hCa, (ih (hkeep s a t hs hCa ht)).mpr hrest⟩

/-- **Conditions for a predicate to stay true**: where a step ends in a state with `P` exactly if `C`
allows it, and an invariant is kept by the steps `C` allows, a run visits only states with `P` exactly if
`C` holds along it. -/
theorem visits_iff_along_of_invariant {I : σ → Prop} (hP : P s) (hs : I s)
    (hstep : ∀ s a s', I s → C s a → step s a = some s' → I s')
    (hiff : ∀ s a s', I s → step s a = some s' → (P s' ↔ C s a)) :
    Visits step P s as ↔ Along step C s as := by
  have hnext : ∀ s a s', I s → step s a = some s' →
      ((∀ t, step s a = some t → P t) ↔ C s a) := by
    intro s a s' h ht
    rw [← hiff s a s' h ht, ht]
    exact ⟨fun h => h s' rfl, fun h t heq => Option.some.inj heq ▸ h⟩
  rw [visits_iff_along, and_iff_right hP]
  exact along_congr (fun s a s' h hC ht => hstep s a s' h ((hnext s a s' h ht).mp hC) ht) hnext hs

end TransitionSystem
