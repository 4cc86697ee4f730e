import Mathlib.Data.List.Basic
import Mathlib.Data.List.Induction
import Mathlib.Tactic.Common

/-!
# Histories

A history is a list of entries, the oldest first, that grows at its end.  `EachAfter P` asks of every
entry what `P` says of it and the entries before it, which is how one states what was true at the time
the entry was made; `latest given` is the value of the last entry that gives one.  The rules for both
are those of one entry more (`eachAfter_append` and `latest_append`).
-/

namespace History

variable {ε β : Type*}

/-- Every entry is as the entries before it require. -/
def EachAfter (P : List ε → ε → Prop) (log : List ε) : Prop :=
  ∀ past e rest, log = past ++ e :: rest → P past e

/-- The value of the last entry that gives one. -/
def latest (given : ε → Option β) (log : List ε) : Option β := (log.filterMap given).getLast?

variable {P : List ε → ε → Prop} {log past rest : List ε} {e e' x : ε}
variable {given : ε → Option β} {b : β}

/-- An entry of a longer history is the new one or an entry of the shorter one. -/
lemma append_singleton_eq_split : log ++ [e] = past ++ x :: rest ↔
    log = past ∧ e = x ∧ rest = [] ∨ ∃ init, rest = init ++ [e] ∧ log = past ++ x :: init := by
  constructor
  · intro heq
    rcases List.eq_nil_or_concat' rest with rfl | ⟨init, last, rfl⟩
    · obtain ⟨hpast, hlast⟩ := List.append_inj' heq rfl
      exact Or.inl ⟨hpast, List.singleton_inj.mp hlast, rfl⟩
    · rw [← List.cons_append, ← List.append_assoc] at heq
      obtain ⟨hlog, hlast⟩ := List.append_inj' heq rfl
      exact Or.inr ⟨init, by rw [List.singleton_inj.mp hlast], hlog⟩
  · rintro (⟨rfl, rfl, rfl⟩ | ⟨init, rfl, rfl⟩)
    · rfl
    · rw [List.append_assoc, List.cons_append]

/-! ### What each entry says -/

lemma eachAfter_nil : EachAfter P [] := by
  intro past e rest heq
  simp at heq

/-- **One entry more.** -/
theorem eachAfter_append : EachAfter P (log ++ [e]) ↔ EachAfter P log ∧ P log e := by
  constructor
  · intro h
    refine ⟨fun past x rest heq => h past x (rest ++ [e]) ?_, h log e [] rfl⟩
    exact append_singleton_eq_split.mpr (Or.inr ⟨rest, rfl, heq⟩)
  · rintro ⟨hlog, he⟩ past x rest heq
    rcases append_singleton_eq_split.mp heq with ⟨rfl, rfl, _⟩ | ⟨init, _, hinit⟩
    · exact he
    · exact hlog past x init hinit

/-- Two entries more. -/
lemma EachAfter.append_two (h : EachAfter P log) (he : P log e) (he' : P (log ++ [e]) e') :
    EachAfter P (log ++ [e, e']) := by
  have hlog : log ++ [e, e'] = (log ++ [e]) ++ [e'] := by simp
  rw [hlog]
  exact eachAfter_append.mpr ⟨eachAfter_append.mpr ⟨h, he⟩, he'⟩

/-! ### The latest value -/

@[simp] lemma latest_nil : latest given [] = none := rfl

/-- **One entry more.** -/
theorem latest_append : latest given (log ++ [e]) = (given e).or (latest given log) := by
  unfold latest
  rw [List.filterMap_append]
  cases h : given e with
  | none => rw [List.filterMap_cons_none h, List.filterMap_nil, List.append_nil, Option.none_or]
  | some b => rw [List.filterMap_cons_some h, List.filterMap_nil, List.getLast?_concat, Option.some_or]

/-- The value after one entry more, where there was one before. -/
lemma latest_append_getD (d : β) :
    (latest given (log ++ [e])).getD d = (given e).getD ((latest given log).getD d) := by
  rw [latest_append]
  cases given e with
  | none => rw [Option.none_or, Option.getD_none]
  | some b => rw [Option.some_or, Option.getD_some, Option.getD_some]

/-- **What the latest value is**: an entry gives it, and none after that gives another. -/
theorem latest_eq_some_iff : latest given log = some b ↔
    ∃ past x rest, log = past ++ x :: rest ∧ given x = some b ∧ ∀ y ∈ rest, given y = none := by
  induction log using List.reverseRecOn with
  | nil => simp
  | append_singleton log e ih =>
    rw [latest_append, Option.or_eq_some_iff, ih]
    constructor
    · rintro (he | ⟨he, past, x, rest, rfl, hx, hrest⟩)
      · exact ⟨log, e, [], rfl, he, fun y hy => absurd hy List.not_mem_nil⟩
      · refine ⟨past, x, rest ++ [e], by simp, hx, fun y hy => ?_⟩
        rcases List.mem_append.mp hy with hy | hy
        · exact hrest y hy
        · rw [List.mem_singleton.mp hy]
          exact he
    · rintro ⟨past, x, rest, heq, hx, hrest⟩
      rcases append_singleton_eq_split.mp heq with ⟨rfl, rfl, rfl⟩ | ⟨init, rfl, hinit⟩
      · exact Or.inl hx
      · have he := hrest e (List.mem_append_right _ (List.mem_singleton.mpr rfl))
        exact Or.inr ⟨he, past, x, init, hinit, hx, fun y hy => hrest y (List.mem_append_left _ hy)⟩

end History
