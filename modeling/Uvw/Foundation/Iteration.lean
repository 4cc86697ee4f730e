import Mathlib.Data.List.Forall2
import Mathlib.Data.List.TakeWhile
import Mathlib.Tactic.Common

/-!
# Successive calls and the loops they drive

`next s i` is a call in the state `s` whose environment answers `i`; it returns a result and the next
state, or has no value.  `calls` are the results of a list of calls, `whileLoop` is the loop
`while(next())` that runs its body on every result that says there is more, and `untilLoop` the same
iteration written with callbacks, which sees the last result as well.  Both are determined by `calls`
(`whileLoop_eq`, `untilLoop_eq`), and `calls_of_invariant` evaluates the calls from what one of them
returns.
-/

namespace Iteration

variable {ι σ ρ : Type*}

/-- The results of successive calls. -/
def calls (next : σ → ι → Option (ρ × σ)) : σ → List ι → Option (List ρ)
  | _, [] => some []
  | s, i :: is => (next s i).bind fun r => (calls next r.2 is).map (r.1 :: ·)

/-- The results a `while` loop runs its body on, and whether the loop has stopped. -/
def whileLoop (next : σ → ι → Option (ρ × σ)) (more : ρ → Bool) :
    σ → List ι → Option (List ρ × Bool)
  | _, [] => some ([], false)
  | s, i :: is => (next s i).bind fun r =>
    if more r.1 then (whileLoop next more r.2 is).map fun l => (r.1 :: l.1, l.2)
    else some ([], true)

/-- The results of calls that are repeated as long as a result says there is more. -/
def untilLoop (next : σ → ι → Option (ρ × σ)) (more : ρ → Bool) : σ → List ι → Option (List ρ)
  | _, [] => some []
  | s, i :: is => (next s i).bind fun r =>
    if more r.1 then (untilLoop next more r.2 is).map (r.1 :: ·) else some [r.1]

/-- The results up to the first one that ends the iteration, which is included. -/
def upToLast (more : ρ → Bool) : List ρ → List ρ
  | [] => []
  | r :: rs => if more r then r :: upToLast more rs else [r]

variable {next : σ → ι → Option (ρ × σ)} {more : ρ → Bool} {s : σ} {is : List ι} {rs : List ρ}

/-- Successive calls are one call and those after it. -/
lemma calls_cons_eq_some {i : ι} (h : calls next s (i :: is) = some rs) :
    ∃ r rs', next s i = some r ∧ calls next r.2 is = some rs' ∧ r.1 :: rs' = rs := by
  obtain ⟨r, hcall, hrest⟩ := Option.bind_eq_some_iff.mp h
  obtain ⟨rs', hrs', heq⟩ := Option.map_eq_some_iff.mp hrest
  exact ⟨r, rs', hcall, hrs', heq⟩

/-- **Rule for successive calls**: under an invariant, what holds of the result of one call holds of
the result of each. -/
theorem calls_of_invariant {I : σ → Prop} {R : ι → ρ → Prop}
    (hnext : ∀ s i, I s → ∃ r s', next s i = some (r, s') ∧ R i r ∧ I s') (hs : I s)
    (is : List ι) : ∃ rs, calls next s is = some rs ∧ List.Forall₂ R is rs := by
  induction is generalizing s with
  | nil => exact ⟨[], rfl, List.Forall₂.nil⟩
  | cons i is ih =>
    obtain ⟨r, s', hcall, hr, hs'⟩ := hnext s i hs
    obtain ⟨rs, hrs, hall⟩ := ih hs'
    refine ⟨r :: rs, ?_, List.Forall₂.cons hr hall⟩
    rw [calls, hcall, Option.bind_some, hrs, Option.map_some]

/-- What holds of the result of each of `n` calls with the same answer. -/
lemma forall_mem_of_replicate {R : ι → ρ → Prop} {i : ι} {n : ℕ}
    (h : List.Forall₂ R (List.replicate n i) rs) : rs.length = n ∧ ∀ r ∈ rs, R i r := by
  induction n generalizing rs with
  | zero =>
    obtain rfl := List.forall₂_nil_left_iff.mp h
    exact ⟨rfl, fun r hr => absurd hr List.not_mem_nil⟩
  | succ n ih =>
    obtain ⟨r, rs, hr, hrs, rfl⟩ := List.forall₂_cons_left_iff.mp h
    obtain ⟨hlength, hall⟩ := ih hrs
    exact ⟨by rw [List.length_cons, hlength], List.forall_mem_cons.mpr ⟨hr, hall⟩⟩

/-- Looking at the results through a function does not change where an iteration ends. -/
lemma map_upToLast {τ : Type*} (f : ρ → τ) (more : τ → Bool) (rs : List ρ) :
    (upToLast (fun r => more (f r)) rs).map f = upToLast more (rs.map f) := by
  induction rs with
  | nil => rfl
  | cons r rs ih =>
    rw [List.map_cons, upToLast, upToLast]
    by_cases hr : more (f r) = true
    · rw [if_pos hr, if_pos hr, List.map_cons, ih]
    · rw [if_neg hr, if_neg hr, List.map_singleton]

/-- The `while` loop runs its body on the results before the first one that ends it. -/
theorem whileLoop_eq (h : calls next s is = some rs) :
    whileLoop next more s is = some (rs.takeWhile more, rs.any fun r => !more r) := by
  induction is generalizing s rs with
  | nil =>
    obtain rfl : [] = rs := Option.some.inj h
    rfl
  | cons i is ih =>
    obtain ⟨r, rs', hcall, hrs', rfl⟩ := calls_cons_eq_some h
    rw [whileLoop, hcall, Option.bind_some, ih hrs']
    cases hr : more r.1 with
    | true => simp [hr]
    | false => simp [hr]

/-- The repeated calls return the results up to the first one that ends the iteration. -/
theorem untilLoop_eq (h : calls next s is = some rs) :
    untilLoop next more s is = some (upToLast more rs) := by
  induction is generalizing s rs with
  | nil =>
    obtain rfl : [] = rs := Option.some.inj h
    rfl
  | cons i is ih =>
    obtain ⟨r, rs', hcall, hrs', rfl⟩ := calls_cons_eq_some h
    rw [untilLoop, hcall, Option.bind_some, ih hrs', upToLast]
    cases hr : more r.1 with
    | true => simp
    | false => simp

end Iteration
