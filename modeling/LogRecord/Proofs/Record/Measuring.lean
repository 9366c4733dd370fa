import LogRecord.Record.Encoding

/-! Measuring agrees with encoding.

`Extent.measure_eq_ok_iff` says all that a measurement can find: the extent of an argument is read
off its encoding, and only an invalid slot or a content too long for its length is refused. -/

set_option autoImplicit false
namespace LogRecord

section
variable {α : Type} [BEq α] [OfNat α 0]

theorem length_visible (limit : Option Nat) (units : List α) :
    (visible limit units).length = contentLength limit units := by
  have content : (units.takeWhile (· != 0)).length = units.findIdx (· == 0) := by
    rw [List.takeWhile_eq_take_findIdx_not, List.length_take, Nat.min_eq_left]
    · simp only [bne, Bool.not_not]
    · exact List.findIdx_le_length
  cases limit with
  | none => exact content
  | some limit => rw [visible, contentLength, List.length_take, content, Nat.min_comm]

theorem length_visible_elim (limit : Option Nat) (units : List α) :
    (visible limit units).length =
      limit.elim (units.takeWhile (· != 0)).length (min (units.takeWhile (· != 0)).length) := by
  cases limit with
  | none => rfl
  | some limit => rw [visible, List.length_take, Nat.min_comm, Option.elim_some]

end

theorem length_encodeUnits (units : List UInt32) :
    (encodeUnits units).length = units.length * wideUnitSize := by
  induction units with
  | nil => rfl
  | cons unit units ih =>
    rw [encodeUnits, List.flatMap_cons, List.length_append, LittleEndian.length_encode,
      ← encodeUnits, ih, List.length_cons, Nat.succ_mul, Nat.add_comm]

theorem length_encodeAddress (address : UInt64) : (encodeAddress address).length = addressSize :=
  LittleEndian.length_encode _ _

theorem length_encodeContent (content : List UInt8) :
    (encodeContent content).length = lengthSize + content.length := by
  rw [encodeContent, List.length_append, LittleEndian.length_encode]

namespace Argument

/-- The content that a slot stores of a string. -/
def content? (slot : Slot) (precision : Option Nat) : Argument → Option (List UInt8)
  | scalar _ | pointer _ => none
  | narrow _ units =>
    if slot.isText then some (visible (slot.limit? precision) units) else none
  | wide _ units =>
    if slot.isText then some (encodeUnits (visible (slot.limit? precision) units)) else none

/-- The precision in force behind an argument, whether or not it fits its slot. -/
def precisionAfter (slot : Slot) (before : Option Nat) : Argument → Option Nat
  | scalar number => if slot = .precision then number.precision? else before
  | pointer _ | narrow _ _ | wide _ _ => before

end Argument

namespace Extent

theorem ofContent_eq_ok_iff {content : Nat} {precision : Option Nat} {extent : Extent} :
    ofContent content precision = .ok extent ↔
      content < LittleEndian.capacity lengthSize ∧
        { total := lengthSize + content, content := some content, precision } = extent := by
  unfold ofContent
  split
  next fits => simp [fits]
  next wide => simp [wide]

-- The only statement about `measure` that later proofs need.
theorem measure_eq_ok_iff {slot : Slot} {before : Option Nat} {argument : Argument}
    {extent : Extent} :
    measure slot before argument = .ok extent ↔
      slot.isValid = true ∧
        (∀ content ∈ argument.content? slot before,
          content.length < LittleEndian.capacity lengthSize) ∧
        { total := (argument.encode slot before).length
          content := (argument.content? slot before).map List.length
          precision := argument.precisionAfter slot before } = extent := by
  by_cases valid : slot.isValid = true
  · cases argument with
    | scalar number =>
      simp [measure, valid, Argument.content?, Argument.encode, Argument.precisionAfter, fixed]
    | pointer address =>
      simp [measure, valid, Argument.content?, Argument.encode, Argument.precisionAfter, fixed,
        length_encodeAddress]
    | narrow address units =>
      by_cases isText : slot.isText = true <;>
        simp [measure, valid, isText, Argument.content?, Argument.encode,
          Argument.precisionAfter, fixed, length_encodeAddress, ofContent_eq_ok_iff,
          length_encodeContent, length_visible]
    | wide address units =>
      by_cases isText : slot.isText = true <;>
        simp [measure, valid, isText, Argument.content?, Argument.encode,
          Argument.precisionAfter, fixed, length_encodeAddress, ofContent_eq_ok_iff,
          length_encodeContent, length_encodeUnits, length_visible]
  · simp [measure, valid]

end Extent
end LogRecord
