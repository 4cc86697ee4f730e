import Uvw.Foundation.TransitionSystem

/-!
# What can be reached

`Reaches step C s t` says of a transition system that some run, along which the condition `C` holds, leads
from the state `s` to `t`, and `CanLead step C P Q` that from every state with `P` such runs can lead to one
with `Q`.  This is a possibility, not an inevitability: somebody chooses the actions.  Such statements
compose, and `canLead_of_variant` is the rule for loops: where every state that is not there yet can lead to
one with a smaller variant, the goal can be reached.

`reaches_of_after` is the rule for refinement: where every step of one system is a run of another, or no
step at all, between the states it stands for, so is every run.
-/

namespace TransitionSystem

variable {σ α : Type*}

/-- A run along which `C` holds leads from `s` to `t`. -/
def Reaches (step : σ → α → Option σ) (C : σ → α → Prop) (s t : σ) : Prop :=
  ∃ as, Along step C s as ∧ after step s as = some t

/-- From every state with `P`, runs along which `C` holds can lead to a state with `Q`. -/
def CanLead (step : σ → α → Option σ) (C : σ → α → Prop) (P Q : σ → Prop) : Prop :=
  ∀ s, P s → ∃ t, Reaches step C s t ∧ Q t

variable {step : σ → α → Option σ} {C : σ → α → Prop} {P Q : σ → Prop} {s t u : σ} {a : α}

/-- A condition that holds along two runs holds along one after the other. -/
lemma along_append {as bs : List α} (h : Along step C s as) (hafter : after step s as = some t)
    (h' : Along step C t bs) : Along step C s (as ++ bs) := by
  induction as generalizing s with
  | nil =>
    obtain rfl := Option.some.inj hafter
    exact h'
  | cons a as ih =>
    obtain ⟨v, hv, hrest⟩ := after_cons_eq_some.mp hafter
    intro v' hv'
    obtain rfl : v = v' := Option.some.inj (hv.symm.trans hv')
    exact ⟨(h v hv).1, ih (h v hv).2 hrest⟩

/-- A state reaches itself, -/
lemma Reaches.refl : Reaches step C s s :=
  ⟨[], trivial, rfl⟩

/-- what one step leads to, -/
lemma Reaches.of_step (ha : C s a) (hstep : step s a = some t) : Reaches step C s t :=
  ⟨[a], fun _ _ => ⟨ha, trivial⟩, after_cons_eq_some.mpr ⟨t, hstep, rfl⟩⟩

/-- and what is reached from there. -/
lemma Reaches.trans (h : Reaches step C s t) (h' : Reaches step C t u) : Reaches step C s u := by
  obtain ⟨as, has, hst⟩ := h
  obtain ⟨bs, hbs, htu⟩ := h'
  exact ⟨as ++ bs, along_append has hst hbs, after_append_eq_some.mpr ⟨t, hst, htu⟩⟩

/-- What the steps of the condition keep holds where they lead. -/
lemma Reaches.invariant {I : σ → Prop} (h : Reaches step C s t)
    (hkeep : ∀ s a t, C s a → I s → step s a = some t → I t) (hs : I s) : I t := by
  obtain ⟨as, has, hst⟩ := h
  induction as generalizing s with
  | nil =>
    obtain rfl := Option.some.inj hst
    exact hs
  | cons a as ih =>
    obtain ⟨v, hv, hrest⟩ := after_cons_eq_some.mp hst
    exact ih (hkeep s a v (has v hv).1 hs hv) (has v hv).2 hrest

/-- **Variant rule**: the goal can be reached where every state that is not there yet can lead to one with
a smaller variant. -/
theorem canLead_of_variant (μ : σ → ℕ)
    (h : ∀ s, P s → ¬ Q s → ∃ t, Reaches step C s t ∧ P t ∧ μ t < μ s) :
    CanLead step C P fun s => P s ∧ Q s := by
  have hall : ∀ n s, P s → μ s = n → ∃ t, Reaches step C s t ∧ P t ∧ Q t := by
    intro n
    induction n using Nat.strongRecOn with
    | ind n ih =>
      intro s hP hn
      by_cases hQ : Q s
      · exact ⟨s, .refl, hP, hQ⟩
      · obtain ⟨t, hst, hPt, hlt⟩ := h s hP hQ
        obtain ⟨u, htu, hu⟩ := ih (μ t) (hn ▸ hlt) t hPt rfl
        exact ⟨u, hst.trans htu, hu⟩
  exact fun s hs => hall (μ s) s hs rfl

/-- **Refinement rule**: where every step is a run of the other system between the states that are stood
for, so is every run. -/
theorem reaches_of_after {τ β : Type*} {step' : τ → β → Option τ} {D : τ → β → Prop} {abs : σ → τ}
    {I : σ → Prop} (hkeep : ∀ s a t, C s a → I s → step s a = some t → I t)
    (hsim : ∀ s a t, C s a → I s → step s a = some t → Reaches step' D (abs s) (abs t)) (hs : I s)
    (hreach : Reaches step C s t) : Reaches step' D (abs s) (abs t) := by
  have hall := hreach.invariant (I := fun u => I u ∧ Reaches step' D (abs s) (abs u))
    (fun u a v ha hu hstep => ⟨hkeep u a v ha hu.1 hstep, hu.2.trans (hsim u a v ha hu.1 hstep)⟩)
    ⟨hs, .refl⟩
  exact hall.2

end TransitionSystem
