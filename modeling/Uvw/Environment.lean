import Mathlib.Data.List.Induction
import Uvw.Foundation.History
import Uvw.Strings

/-!
# Environment variables

`utilities::os::env(name, value)` sets a variable, or removes it if the value is empty, and
`utilities::os::env(name)` reads it through `try_read`, which asks libuv twice if the value is long.  Names
and values are passed as C strings, and a variable that is missing reads as the empty string, so the store
a program sees has a text for every name: `Environ.view`.  `env_reads_last_write` says what a read returns
after any calls of any threads, also of those that set the variable between its two questions.
-/

namespace Uvw

open CString History

/-- `UV_ENOENT`. -/
def uvEnoent : Int := -2

/-- The environment of the process. -/
abbrev Environ := Text UInt8 → Option (Text UInt8)

/-- A call of `env` that sets a variable, and what libuv returns. -/
structure SetEnv where
  name : List UInt8
  value : List UInt8
  code : Int

/-- What a call makes of a variable, as far as a program can see; `none` if it leaves it alone. -/
def SetEnv.gives (n : Text UInt8) (c : SetEnv) : Option (List UInt8) :=
  if c.code = 0 ∧ cStr c.name = n then some (cStr c.value).1 else none

/-- What `try_read` makes of the text at its first question and that at its second. -/
def readText (v₁ v₂ : List UInt8) : List UInt8 :=
  if v₁.length ≤ 127 then v₁ else if v₂.length ≤ v₁.length then v₂ else []

namespace Environ

variable (e : Environ)

/-- `uv_os_setenv`. -/
def uvOsSetenv (name value : Text UInt8) (code : Int) : Int × Environ :=
  (code, if code = 0 then Function.update e name (some value) else e)

/-- `uv_os_unsetenv`. -/
def uvOsUnsetenv (name : Text UInt8) (code : Int) : Int × Environ :=
  (code, if code = 0 then Function.update e name none else e)

/-- `utilities::os::env(const std::string &, const std::string &)`. -/
def set (c : SetEnv) : Bool × Environ :=
  let r := if c.value.isEmpty then e.uvOsUnsetenv (cStr c.name) c.code
    else e.uvOsSetenv (cStr c.name) (cStr c.value) c.code
  (0 == r.1, r.2)

/-- The environment after a number of calls. -/
def afterCalls (cs : List SetEnv) : Environ := cs.foldl (fun e c => (e.set c).2) e

/-- What libuv has to say of a variable. -/
def held (n : Text UInt8) : Held :=
  match e n with
  | some v => .value v
  | none => .failing ⟨uvEnoent, by decide⟩

/-- `uv_os_getenv` answers from the environment. -/
def Answers (u : UvStrings) : Prop := ∀ n, (u.osGetenv n).Follows (e.held n)

/-- What a program sees of a variable. -/
def view (n : Text UInt8) : List UInt8 := ((e n).map Subtype.val).getD []

variable {e} {n : Text UInt8}

/-- **One call**: the flag tells whether libuv did it, and the program sees the value afterwards. -/
lemma set_spec (c : SetEnv) :
    ((e.set c).1 = true ↔ c.code = 0) ∧ (e.set c).2.view n = (c.gives n).getD (e.view n) := by
  have hcode : (if c.value.isEmpty then e.uvOsUnsetenv (cStr c.name) c.code
      else e.uvOsSetenv (cStr c.name) (cStr c.value) c.code).1 = c.code := by
    split <;> rfl
  refine ⟨?_, ?_⟩
  · rw [set, beq_iff_eq, hcode]
    exact eq_comm
  by_cases hok : c.code = 0
  · by_cases hn : cStr c.name = n
    · rw [SetEnv.gives, if_pos ⟨hok, hn⟩, Option.getD_some]
      cases hvalue : c.value with
      | nil =>
        -- the variable is removed, and reads as the empty value
        have hempty : (cStr ([] : List UInt8)).1 = [] := rfl
        simp [set, hvalue, uvOsUnsetenv, hok, hn, view, hempty]
      | cons b bs => simp [set, hvalue, uvOsSetenv, hok, hn, view]
    · rw [SetEnv.gives, if_neg fun h => hn h.2, Option.getD_none]
      cases hvalue : c.value with
      | nil => simp [set, hvalue, uvOsUnsetenv, hok, view, Function.update_of_ne (Ne.symm hn)]
      | cons b bs => simp [set, hvalue, uvOsSetenv, hok, view, Function.update_of_ne (Ne.symm hn)]
  · rw [SetEnv.gives, if_neg fun h => hok h.1, Option.getD_none]
    cases hvalue : c.value with
    | nil => simp [set, hvalue, uvOsUnsetenv, hok]
    | cons b bs => simp [set, hvalue, uvOsSetenv, hok]

/-- **Any number of calls**: the program sees what the last one gave. -/
lemma view_afterCalls (cs : List SetEnv) :
    (e.afterCalls cs).view n = (latest (SetEnv.gives n) cs).getD (e.view n) := by
  induction cs using List.reverseRecOn with
  | nil => rfl
  | append_singleton cs c ih =>
    have hlast : e.afterCalls (cs ++ [c]) = ((e.afterCalls cs).set c).2 := List.foldl_append ..
    rw [hlast, (set_spec c).2, ih, latest_append_getD]

/-- What can be read of a variable is decided by what the program saw. -/
lemma readable_held (e₁ e₂ : Environ) :
    readable (e₁.held n) (e₂.held n) = readText (e₁.view n) (e₂.view n) := by
  unfold held view readText
  cases e₁ n with
  | none => rfl
  | some v =>
    cases e₂ n with
    | none =>
      by_cases hv : v.1.length ≤ 127
      · simp [readable, hv]
      · simp [readable, hv]
    | some v' => rfl

end Environ

/-- **Environment variables read as they were set**: whatever was set before a read, and whatever other
threads set between its two questions to libuv, `env(name)` returns the text that the last successful call
for the name up to the first NUL has given, if it has at most 127 bytes or is not set meanwhile; of a longer
one that is set meanwhile it returns the new text, or nothing if that is longer still. -/
theorem env_reads_last_write (e : Environ) (before between : List SetEnv) (uv : ℕ → UvStrings)
    (hfirst : (e.afterCalls before).Answers (uv 0))
    (hsecond : (e.afterCalls (before ++ between)).Answers (uv 1)) (name : List UInt8) :
    env uv name = some (readText
        ((latest (SetEnv.gives (cStr name)) before).getD (e.view (cStr name)))
        ((latest (SetEnv.gives (cStr name)) (before ++ between)).getD (e.view (cStr name)))) ∧
      ((∀ c ∈ between, c.gives (cStr name) = none) →
        env uv name = some ((latest (SetEnv.gives (cStr name)) before).getD (e.view (cStr name)))) := by
  have hread : env uv name = some (readText ((e.afterCalls before).view (cStr name))
      ((e.afterCalls (before ++ between)).view (cStr name))) := by
    rw [← Environ.readable_held]
    exact tryRead_eq_readable (hfirst _) (hsecond _)
  rw [Environ.view_afterCalls, Environ.view_afterCalls] at hread
  refine ⟨hread, fun hquiet => ?_⟩
  have hsame : latest (SetEnv.gives (cStr name)) (before ++ between) =
      latest (SetEnv.gives (cStr name)) before := by
    unfold latest
    rw [List.filterMap_append, List.filterMap_eq_nil_iff.mpr hquiet, List.append_nil]
  rw [hread, hsame, readText, if_pos (Nat.le_refl _), ite_self]

/-- libuv on an environment; the other strings are missing. -/
def UvStrings.ofEnviron (e : Environ) : UvStrings :=
  let missing : StringReader := fun buf size => (uvEnoent, buf, size)
  { osHomedir := missing, osTmpdir := missing
    osGetenv := fun n => ((e n).map StringReader.ofText).getD missing
    osGethostname := missing, ifIndextoname := fun _ => missing, ifIndextoiid := fun _ => missing
    exepath := missing, cwd := missing, pipeGetsockname := missing, pipeGetpeername := missing
    fsEventGetpath := missing, fsPollGetpath := missing }

lemma Environ.answers_ofEnviron (e : Environ) : e.Answers (.ofEnviron e) := by
  intro n
  unfold Environ.held UvStrings.ofEnviron
  cases hn : e n with
  | none =>
    intro buf size _
    simp [hn, Held.Answers]
  | some v =>
    simp only [hn, Option.map_some, Option.getD_some]
    exact StringReader.ofText_follows v

/-- `env("A", "uvw")`, a call for `A` that fails, and one for `B`. -/
def envCalls : List SetEnv :=
  [⟨[65], [117, 118, 119], 0⟩, ⟨[65], [118], -12⟩, ⟨[66], [118], 0⟩]

/-- `env("A")`, another thread setting `B` between its two questions. -/
theorem env_reads_last_write_uvw :
    env (fun i => .ofEnviron (Environ.afterCalls (fun _ => none) (envCalls.take (2 + i)))) [65] =
      some [117, 118, 119] := by
  have hread := env_reads_last_write (fun _ => none) (envCalls.take 2) (envCalls.drop 2)
    (fun i => .ofEnviron (Environ.afterCalls (fun _ => none) (envCalls.take (2 + i))))
    (Environ.answers_ofEnviron _) (Environ.answers_ofEnviron _) [65]
  exact hread.2 (by decide)

end Uvw
