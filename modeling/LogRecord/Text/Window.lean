/-! Bounded views of byte buffers.

A window is the first `size` bytes of a buffer that may go on behind them. Every reading operation
is given with its value on `contents`, so what stands behind the bound can change no result. -/

set_option autoImplicit false
namespace LogRecord

structure Window where
  buffer : List UInt8
  size : Nat
  size_le : size ≤ buffer.length
deriving DecidableEq, Repr

namespace Window

/-- The whole of `bytes`, with nothing behind it. -/
def whole (bytes : List UInt8) : Window where
  buffer := bytes
  size := bytes.length
  size_le := Nat.le_refl _

/-- The bytes of `bytes` before its first `terminator`, with the rest of the buffer left in place.
-/
def before (terminator : UInt8) (bytes : List UInt8) : Window where
  buffer := bytes
  size := bytes.findIdx (· == terminator)
  size_le := List.findIdx_le_length

/-- The bytes inside the bound. -/
def contents (window : Window) : List UInt8 :=
  window.buffer.take window.size

def drop (count : Nat) (window : Window) : Window where
  buffer := window.buffer.drop count
  size := window.size - count
  size_le := by
    have := window.size_le
    simp only [List.length_drop]
    omega

/-- At most the first `count` bytes. -/
def take (count : Nat) (window : Window) : List UInt8 :=
  window.buffer.take (min count window.size)

def front? (window : Window) : Option UInt8 :=
  match window.size with
  | 0 => none
  | _ + 1 => window.buffer.head?

private def runLength (keep : UInt8 → Bool) : List UInt8 → Nat → Nat
  | byte :: rest, bound + 1 => if keep byte then runLength keep rest bound + 1 else 0
  | _, _ => 0

/-- How many bytes at the front satisfy `keep`. -/
def run (keep : UInt8 → Bool) (window : Window) : Nat :=
  runLength keep window.buffer window.size

/-- What follows the bytes at the front that satisfy `keep`. -/
def skip (keep : UInt8 → Bool) (window : Window) : Window :=
  window.drop (window.run keep)

@[simp] theorem size_whole (bytes : List UInt8) : (whole bytes).size = bytes.length := rfl

@[simp] theorem contents_whole (bytes : List UInt8) : (whole bytes).contents = bytes := by
  simp [whole, contents]

@[simp] theorem size_drop (count : Nat) (window : Window) :
    (window.drop count).size = window.size - count := rfl

@[simp] theorem length_contents (window : Window) : window.contents.length = window.size := by
  simp [contents, window.size_le]

@[simp] theorem contents_drop (count : Nat) (window : Window) :
    (window.drop count).contents = window.contents.drop count := by
  simp [drop, contents, List.drop_take]

@[simp] theorem drop_zero (window : Window) : window.drop 0 = window := rfl

theorem take_eq (count : Nat) (window : Window) :
    window.take count = window.contents.take count := by
  simp [take, contents, List.take_take]

theorem front?_eq (window : Window) : window.front? = window.contents.head? := by
  obtain ⟨buffer, size, bound⟩ := window
  cases size with
  | zero => simp [front?, contents]
  | succ size => cases buffer <;> simp [front?, contents]

theorem front?_eq_none_iff {window : Window} : window.front? = none ↔ window.size = 0 := by
  rw [front?_eq, List.head?_eq_none_iff, ← length_contents, List.length_eq_zero_iff]

theorem size_pos_of_front? {window : Window} {byte : UInt8} (h : window.front? = some byte) :
    0 < window.size := by
  rcases Nat.eq_zero_or_pos window.size with zero | positive
  · simp [front?_eq_none_iff.mpr zero] at h
  · exact positive

theorem run_eq (keep : UInt8 → Bool) (window : Window) :
    window.run keep = (window.contents.takeWhile keep).length := by
  obtain ⟨buffer, size, bound⟩ := window
  simp only [run, contents]
  clear bound
  induction buffer generalizing size with
  | nil => simp [runLength]
  | cons byte rest ih =>
    cases size with
    | zero => simp [runLength]
    | succ size =>
      by_cases kept : keep byte <;> simp [runLength, kept, ih]

theorem run_le (keep : UInt8 → Bool) (window : Window) : window.run keep ≤ window.size := by
  rw [run_eq, ← length_contents]
  exact (List.takeWhile_sublist keep).length_le

/-- The leading bytes that satisfy `keep`, as a list. -/
theorem take_run (keep : UInt8 → Bool) (window : Window) :
    window.take (window.run keep) = window.contents.takeWhile keep := by
  have starts := List.takeWhile_prefix keep (l := window.contents)
  rw [take_eq, run_eq, ← List.prefix_iff_eq_take.mp starts]

theorem contents_skip (keep : UInt8 → Bool) (window : Window) :
    (window.skip keep).contents = window.contents.dropWhile keep := by
  rw [skip, contents_drop, run_eq]
  have split := List.takeWhile_append_dropWhile (p := keep) (l := window.contents)
  calc window.contents.drop (window.contents.takeWhile keep).length
      = (window.contents.takeWhile keep ++ window.contents.dropWhile keep).drop
          (window.contents.takeWhile keep).length := by rw [split]
    _ = window.contents.dropWhile keep := List.drop_left

theorem size_skip_le (keep : UInt8 → Bool) (window : Window) :
    (window.skip keep).size ≤ window.size :=
  Nat.sub_le _ _

end Window
end LogRecord
