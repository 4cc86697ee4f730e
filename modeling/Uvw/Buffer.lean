import Mathlib.Algebra.Group.Nat.Defs
import Mathlib.Data.List.Basic
import Mathlib.Tactic.Common

/-!
# Buffers

Pointers into the buffers that the alloc callbacks make, the callbacks themselves, and the bytes that
libuv writes through such a pointer.
-/

namespace Uvw

/-- A `char *` into a buffer of the alloc callback; the buffers are numbered. -/
structure CharPtr where
  buffer : ℕ
  offset : ℕ
deriving DecidableEq, Repr

/-- A `uv_buf_t`. -/
structure UvBuf where
  base : Option CharPtr
  len : ℕ
deriving DecidableEq, Repr

/-- `details::common_alloc_callback`, which casts the suggested size to `unsigned int`; the new buffer
gets the given number. -/
def commonAllocCallback (n suggested : ℕ) : UvBuf :=
  let size := suggested % 2 ^ 32
  { base := some { buffer := n, offset := 0 }, len := size }

/-- The template `details::common_alloc_callback`: what `Alloc` returns, a null pointer or one to the
new buffer with the given number, and a size, which is cast to `unsigned int`. -/
def commonAllocCallbackWith (n : ℕ) (null : Bool) (size : ℕ) : UvBuf :=
  { base := if null then none else some { buffer := n, offset := 0 }, len := size % 2 ^ 32 }

/-! ## Bytes -/

/-- The bytes of the buffers. -/
abbrev BufferMemory := CharPtr → UInt8

namespace BufferMemory

/-- Write bytes through a pointer. -/
def write (m : BufferMemory) (p : CharPtr) (bytes : List UInt8) : BufferMemory := fun q =>
  if q.buffer = p.buffer ∧ p.offset ≤ q.offset then (bytes[q.offset - p.offset]?).getD (m q) else m q

/-- The bytes from a pointer on. -/
def read (m : BufferMemory) (p : CharPtr) (n : ℕ) : List UInt8 :=
  (List.range n).map fun i => m { p with offset := p.offset + i }

/-- What was written can be read back. -/
lemma read_write (m : BufferMemory) (p : CharPtr) (bytes : List UInt8) :
    (m.write p bytes).read p bytes.length = bytes := by
  have hlength : ((m.write p bytes).read p bytes.length).length = bytes.length := by simp [read]
  refine List.ext_getElem hlength fun i hi hi' => ?_
  simp [read, write, hi']

end BufferMemory

end Uvw
