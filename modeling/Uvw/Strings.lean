import Mathlib.Data.UInt
import Uvw.Foundation.CString

/-!
# Strings that libuv writes into a buffer

`details::try_read` asks a libuv function for a string with a buffer of 128 bytes, and once more with a
buffer of the size the function asks for if that is too small.  `try_read_whole` says what it returns for
every function that follows libuv's protocol, `Answers`, also when the string changes in between.
`utilities::process_title` has a buffer of its own and takes all of it for the title:
`process_title_never_returned`.

A `std::string` is a list of bytes; one that a NUL ends is a `Text`.
-/

namespace Uvw

open CString

/-- `UV_ENOBUFS`. -/
def uvEnobufs : Int := -105

/-- `details::DEFAULT_SIZE`. -/
def defaultSize : ℕ := 128

/-! ## `try_read` -/

/-- A call of a libuv function that reads a string: given the buffer and its size, the code it returns and
what it leaves in both. -/
abbrev StringReader := List UInt8 → ℕ → Int × List UInt8 × ℕ

/-- What libuv has to say of a string. -/
inductive Held
  | value (v : Text UInt8)
  | failing (code : { c : Int // c ≠ 0 ∧ c ≠ uvEnobufs })

/-- libuv's protocol: a string that fits with its terminator is copied, and its length stored without
the terminator; of another one, the size that is needed is stored. -/
def Held.Answers (buf : List UInt8) (size : ℕ) (r : Int × List UInt8 × ℕ) : Held → Prop
  | value v =>
    if v.1.length < size then
      r.1 = 0 ∧ Terminated r.2.1 v.1 ∧ r.2.1.length = buf.length ∧ r.2.2 = v.1.length
    else r.1 = uvEnobufs ∧ r.2.2 = v.1.length + 1
  | failing code => r.1 = code

/-- The call follows the protocol whatever buffer it is given. -/
def StringReader.Follows (f : StringReader) (h : Held) : Prop :=
  ∀ buf size, buf.length = size → h.Answers buf size (f buf size)

/-- `details::try_read`, where `f i` is the `i`-th call of the libuv function; `none` where it reads
beyond a buffer. -/
def tryRead (f : ℕ → StringReader) : Option (List UInt8) :=
  match f 0 (List.replicate defaultSize 0) defaultSize with
  | (err, buf, size) =>
    if uvEnobufs = err then
      match f 1 (List.replicate size 0) size with
      | (err, data, _) => if 0 = err then scan data else some []
    else if 0 = err then
      if size ≤ buf.length then some (buf.take size) else none
    else some []

/-- What should be returned if libuv holds one string at the first call and another at the second. -/
def readable : Held → Held → List UInt8
  | .value v₁, .value v₂ =>
    if v₁.1.length ≤ 127 then v₁.1 else if v₂.1.length ≤ v₁.1.length then v₂.1 else []
  | .value v₁, .failing _ => if v₁.1.length ≤ 127 then v₁.1 else []
  | .failing _, _ => []

section

variable {f : ℕ → StringReader} {g : StringReader} {v : Text UInt8} {h h₁ h₂ : Held} {buf : List UInt8}
  {size : ℕ}

/-- A value that fits is copied with its terminator. -/
lemma StringReader.Follows.of_lt (hg : g.Follows (.value v)) (hsize : buf.length = size)
    (hlt : v.1.length < size) :
    ∃ buf', g buf size = (0, buf', v.1.length) ∧ Terminated buf' v.1 ∧ buf'.length = size := by
  have hanswer := hg buf size hsize
  rw [Held.Answers, if_pos hlt] at hanswer
  obtain ⟨herr, hterm, hlength, hstored⟩ := hanswer
  exact ⟨(g buf size).2.1, Prod.ext herr (Prod.ext rfl hstored), hterm, hlength.trans hsize⟩

/-- For a longer one the size is stored that it needs. -/
lemma StringReader.Follows.of_le (hg : g.Follows (.value v)) (hsize : buf.length = size)
    (hle : size ≤ v.1.length) : ∃ buf', g buf size = (uvEnobufs, buf', v.1.length + 1) := by
  have hanswer := hg buf size hsize
  rw [Held.Answers, if_neg (Nat.not_lt.mpr hle)] at hanswer
  exact ⟨(g buf size).2.1, Prod.ext hanswer.1 (Prod.ext rfl hanswer.2)⟩

/-- An error is returned as such. -/
lemma StringReader.Follows.of_failing {code : { c : Int // c ≠ 0 ∧ c ≠ uvEnobufs }}
    (hg : g.Follows (.failing code)) (hsize : buf.length = size) :
    ∃ r, g buf size = (code.1, r) :=
  ⟨(g buf size).2, Prod.ext (hg buf size hsize) rfl⟩

/-- The buffers are as long as they are said to be. -/
lemma zeros_length (size : ℕ) : (List.replicate size (0 : UInt8)).length = size :=
  List.length_replicate

/-- A string that fits into the first buffer. -/
lemma tryRead_of_fits (hf : (f 0).Follows (.value v)) (hfits : v.1.length < defaultSize) :
    tryRead f = some v.1 := by
  obtain ⟨buf, hcall, hterm, hlength⟩ := hf.of_lt (zeros_length defaultSize) hfits
  have hroom : v.1.length ≤ buf.length := hlength ▸ Nat.le_of_lt hfits
  rw [tryRead, hcall]
  dsimp only
  rw [if_neg (by decide), if_pos rfl, if_pos hroom, hterm.take]

/-- A failure of the first call. -/
lemma tryRead_of_failing {code : { c : Int // c ≠ 0 ∧ c ≠ uvEnobufs }}
    (hf : (f 0).Follows (.failing code)) : tryRead f = some [] := by
  obtain ⟨r, hcall⟩ := hf.of_failing (zeros_length defaultSize)
  rw [tryRead, hcall]
  dsimp only
  rw [if_neg (Ne.symm code.2.2), if_neg (Ne.symm code.2.1)]

/-- The second call, with a buffer for what was there at the first. -/
lemma tryRead_of_second (hf : (f 0).Follows (.value v)) (hlong : defaultSize ≤ v.1.length) :
    tryRead f =
      match f 1 (List.replicate (v.1.length + 1) 0) (v.1.length + 1) with
      | (err, data, _) => if 0 = err then scan data else some [] := by
  obtain ⟨buf, hcall⟩ := hf.of_le (zeros_length defaultSize) hlong
  rw [tryRead, hcall]
  dsimp only
  rw [if_pos rfl]

/-- A value that does not fit is asked for again, -/
lemma tryRead_of_long {w : Text UInt8} (hf : (f 0).Follows (.value v))
    (hlong : defaultSize ≤ v.1.length) (hf' : (f 1).Follows (.value w)) :
    tryRead f = some (if w.1.length ≤ v.1.length then w.1 else []) := by
  rw [tryRead_of_second hf hlong]
  by_cases hle : w.1.length ≤ v.1.length
  · obtain ⟨data, hcall, hterm, _⟩ := hf'.of_lt (zeros_length (v.1.length + 1)) (Nat.lt_succ_of_le hle)
    rw [hcall, if_pos hle]
    dsimp only
    rw [if_pos rfl, scan_terminated hterm]
  · obtain ⟨data, hcall⟩ := hf'.of_le (zeros_length (v.1.length + 1)) (Nat.lt_of_not_le hle)
    rw [hcall, if_neg hle]
    dsimp only
    rw [if_neg (by decide)]

/-- which may fail. -/
lemma tryRead_of_second_failing {code : { c : Int // c ≠ 0 ∧ c ≠ uvEnobufs }}
    (hf : (f 0).Follows (.value v)) (hlong : defaultSize ≤ v.1.length)
    (hf' : (f 1).Follows (.failing code)) : tryRead f = some [] := by
  obtain ⟨r, hcall⟩ := hf'.of_failing (zeros_length (v.1.length + 1))
  rw [tryRead_of_second hf hlong, hcall]
  dsimp only
  rw [if_neg (Ne.symm code.2.1)]

/-- **The string that is read** is one of the two, or empty. -/
lemma tryRead_eq_readable (hf : (f 0).Follows h₁) (hf' : (f 1).Follows h₂) :
    tryRead f = some (readable h₁ h₂) := by
  cases h₁ with
  | failing code => exact tryRead_of_failing hf
  | value v =>
    by_cases hfits : v.1.length ≤ 127
    · rw [tryRead_of_fits hf (Nat.lt_succ_of_le hfits)]
      cases h₂ <;> rw [readable, if_pos hfits]
    · have hlong : defaultSize ≤ v.1.length := Nat.lt_of_not_le hfits
      cases h₂ with
      | value w => rw [tryRead_of_long hf hlong hf', readable, if_neg hfits]
      | failing code => rw [tryRead_of_second_failing hf hlong hf', readable, if_neg hfits]

/-- A value that does not change is to be returned. -/
lemma readable_self (v : Text UInt8) : readable (.value v) (.value v) = v.1 := by
  rw [readable, if_pos (Nat.le_refl _), ite_self]

end

/-- **`try_read` returns whole values only**: whatever libuv holds at the first call and at the second,
the string is the first value if it has at most 127 bytes, the second if the first is longer and the
second not longer than it, and empty otherwise.  A value that does not change is returned at every
length. -/
theorem try_read_whole (f : ℕ → StringReader) (h₁ h₂ : Held) (hf : (f 0).Follows h₁)
    (hf' : (f 1).Follows h₂) :
    tryRead f = some (readable h₁ h₂) ∧
      ∀ v, h₁ = .value v → h₂ = .value v → tryRead f = some v.1 := by
  have hwhole : tryRead f = some (readable h₁ h₂) := tryRead_eq_readable hf hf'
  refine ⟨hwhole, ?_⟩
  rintro v rfl rfl
  rw [hwhole, readable_self]

/-- A libuv function that holds a string; it leaves the rest of the buffer alone. -/
def StringReader.ofText (v : Text UInt8) : StringReader := fun buf size =>
  if v.1.length < size then (0, v.1 ++ 0 :: buf.drop (v.1.length + 1), v.1.length)
  else (uvEnobufs, buf, v.1.length + 1)

/-- A reader of a fixed value follows the protocol. -/
lemma StringReader.ofText_follows (v : Text UInt8) : (ofText v).Follows (.value v) := by
  intro buf size hsize
  rw [Held.Answers, ofText]
  by_cases hlt : v.1.length < size
  · rw [if_pos hlt, if_pos hlt]
    refine ⟨rfl, ⟨_, rfl⟩, ?_, rfl⟩
    rw [List.length_append, List.length_cons, List.length_drop]
    omega
  · rw [if_neg hlt, if_neg hlt]
    exact ⟨rfl, rfl⟩

/-- An environment variable of 130 bytes that has 129 bytes, others, at the second call. -/
theorem try_read_whole_shrinking :
    tryRead (fun i => if i = 0 then .ofText ⟨List.replicate 130 117, by simp⟩
      else .ofText ⟨List.replicate 129 118, by simp⟩) = some (List.replicate 129 118) :=
  (try_read_whole _ (.value ⟨List.replicate 130 117, by simp⟩)
    (.value ⟨List.replicate 129 118, by simp⟩) (StringReader.ofText_follows _)
    (StringReader.ofText_follows _)).1.trans (congrArg some (by decide +kernel))

/-! ### The functions that use it -/

/-- The libuv functions that read a string, at some time. -/
structure UvStrings where
  osHomedir : StringReader
  osTmpdir : StringReader
  osGetenv : Text UInt8 → StringReader
  osGethostname : StringReader
  ifIndextoname : ℕ → StringReader
  ifIndextoiid : ℕ → StringReader
  exepath : StringReader
  cwd : StringReader
  pipeGetsockname : StringReader
  pipeGetpeername : StringReader
  fsEventGetpath : StringReader
  fsPollGetpath : StringReader

variable (uv : ℕ → UvStrings)

/-- `utilities::os::homedir`. -/
def homedir : Option (List UInt8) := tryRead fun i => (uv i).osHomedir

/-- `utilities::os::tmpdir`. -/
def tmpdir : Option (List UInt8) := tryRead fun i => (uv i).osTmpdir

/-- `utilities::os::env`. -/
def env (name : List UInt8) : Option (List UInt8) := tryRead fun i => (uv i).osGetenv (cStr name)

/-- `utilities::os::hostname`. -/
def hostname : Option (List UInt8) := tryRead fun i => (uv i).osGethostname

/-- `utilities::index_to_name`. -/
def indexToName (index : ℕ) : Option (List UInt8) := tryRead fun i => (uv i).ifIndextoname index

/-- `utilities::index_to_iid`. -/
def indexToIid (index : ℕ) : Option (List UInt8) := tryRead fun i => (uv i).ifIndextoiid index

/-- `utilities::path`. -/
def exePath : Option (List UInt8) := tryRead fun i => (uv i).exepath

/-- `utilities::cwd`. -/
def cwd : Option (List UInt8) := tryRead fun i => (uv i).cwd

/-- `pipe_handle::sock`. -/
def pipeSock : Option (List UInt8) := tryRead fun i => (uv i).pipeGetsockname

/-- `pipe_handle::peer`. -/
def pipePeer : Option (List UInt8) := tryRead fun i => (uv i).pipeGetpeername

/-- `fs_event_handle::path`. -/
def fsEventPath : Option (List UInt8) := tryRead fun i => (uv i).fsEventGetpath

/-- `fs_poll_handle::path`. -/
def fsPollPath : Option (List UInt8) := tryRead fun i => (uv i).fsPollGetpath

/-- The strings a program can ask for. -/
inductive StringQuery
  | homedir | tmpdir | env (name : List UInt8) | hostname
  | indexToName (index : ℕ) | indexToIid (index : ℕ) | exePath | cwd
  | pipeSock | pipePeer | fsEventPath | fsPollPath

namespace StringQuery

/-- Asking for one. -/
def run : StringQuery → Option (List UInt8)
  | homedir => Uvw.homedir uv
  | tmpdir => Uvw.tmpdir uv
  | env name => Uvw.env uv name
  | hostname => Uvw.hostname uv
  | indexToName index => Uvw.indexToName uv index
  | indexToIid index => Uvw.indexToIid uv index
  | exePath => Uvw.exePath uv
  | cwd => Uvw.cwd uv
  | pipeSock => Uvw.pipeSock uv
  | pipePeer => Uvw.pipePeer uv
  | fsEventPath => Uvw.fsEventPath uv
  | fsPollPath => Uvw.fsPollPath uv

/-- The libuv function that is called. -/
def reader (u : UvStrings) : StringQuery → StringReader
  | homedir => u.osHomedir
  | tmpdir => u.osTmpdir
  | env name => u.osGetenv (cStr name)
  | hostname => u.osGethostname
  | indexToName index => u.ifIndextoname index
  | indexToIid index => u.ifIndextoiid index
  | exePath => u.exepath
  | cwd => u.cwd
  | pipeSock => u.pipeGetsockname
  | pipePeer => u.pipeGetpeername
  | fsEventPath => u.fsEventGetpath
  | fsPollPath => u.fsPollGetpath

/-- Every query is made by `try_read` with the reader it names. -/
lemma run_eq (q : StringQuery) : q.run uv = tryRead fun i => q.reader (uv i) := by
  cases q <;> rfl

/-- All of them return whole values only, up to `exePath`: `uv_exepath` follows no protocol, as it cuts a
path that is too long for the buffer and returns `0`. -/
theorem run_eq_readable (q : StringQuery) {h₁ h₂ : Held} (hf : (q.reader (uv 0)).Follows h₁)
    (hf' : (q.reader (uv 1)).Follows h₂) : q.run uv = some (readable h₁ h₂) :=
  (q.run_eq uv).trans (tryRead_eq_readable hf hf')

end StringQuery

/-! ## The process title -/

/-- `uv_get_process_title`, with the title that is stored. -/
def uvGetProcessTitle (title : Text UInt8) (buf : List UInt8) (size : ℕ) : Int × List UInt8 :=
  if title.1.length < size then (0, title.1 ++ 0 :: buf.drop (title.1.length + 1))
  else (uvEnobufs, buf)

/-- `utilities::process_title()`: the whole buffer is assigned to the string. -/
def processTitle (title : Text UInt8) : List UInt8 :=
  match uvGetProcessTitle title (List.replicate defaultSize 0) defaultSize with
  | (err, buf) => if 0 = err then buf.take defaultSize else []

/-- `utilities::process_title(const std::string &)`, where `uv_set_process_title` returns `code`: the flag,
and the title that is stored then. -/
def setProcessTitle (stored : Text UInt8) (title : List UInt8) (code : Int) : Bool × Text UInt8 :=
  (0 == code, if code = 0 then cStr title else stored)

section

variable {title : Text UInt8}

/-- A title that fits is returned with all that follows it in the buffer, -/
lemma processTitle_of_lt (h : title.1.length < defaultSize) :
    Terminated (processTitle title) title.1 ∧ (processTitle title).length = defaultSize := by
  set rest := (List.replicate defaultSize (0 : UInt8)).drop (title.1.length + 1) with hrest
  have hlength : (title.1 ++ 0 :: rest).length = defaultSize := by
    rw [List.length_append, List.length_cons, hrest, List.length_drop, zeros_length]
    omega
  have hwhole : processTitle title = title.1 ++ 0 :: rest := by
    rw [processTitle, uvGetProcessTitle, if_pos h]
    dsimp only
    rw [if_pos rfl, ← hrest, List.take_of_length_le (Nat.le_of_eq hlength)]
  rw [hwhole]
  exact ⟨⟨rest, rfl⟩, hlength⟩

/-- and of a longer one nothing is returned. -/
lemma processTitle_of_le (h : defaultSize ≤ title.1.length) : processTitle title = [] := by
  rw [processTitle, uvGetProcessTitle, if_neg (Nat.not_lt.mpr h)]
  rfl

end

/-- **A title never comes back**: whatever title has been stored, `process_title()` returns another
string, of 128 bytes or empty; storing what it returns leaves the title unchanged exactly if it has at
most 127 bytes. -/
theorem process_title_never_returned (stored title : Text UInt8) :
    setProcessTitle stored title.1 0 = (true, title) ∧ processTitle title ≠ title.1 ∧
      ((setProcessTitle title (processTitle title) 0).2 = title ↔ title.1.length ≤ 127) := by
  refine ⟨Prod.ext rfl (cStr_text title), ?_⟩
  rcases Nat.lt_or_ge title.1.length defaultSize with hlt | hge
  · obtain ⟨hterm, hlength⟩ := processTitle_of_lt hlt
    have hkept : (setProcessTitle title (processTitle title) 0).2 = title := cStr_terminated hterm
    refine ⟨fun heq => ?_, iff_of_true hkept (Nat.le_of_lt_succ hlt)⟩
    rw [heq] at hlength
    exact Nat.ne_of_lt hlt hlength
  · have hpos : title.1 ≠ [] := fun hnil => by
      rw [hnil] at hge
      exact absurd hge (by decide)
    rw [processTitle_of_le hge]
    refine ⟨Ne.symm hpos, iff_of_false (fun heq => hpos ?_) (Nat.not_le.mpr hge)⟩
    exact (congrArg Subtype.val heq).symm.trans rfl

/-- The title `uvw`. -/
theorem process_title_padded :
    processTitle ⟨[117, 118, 119], by decide⟩ ≠ [117, 118, 119] := by
  decide

end Uvw
