import LogRecord.Proofs.Record.Writing

/-! What storing one argument puts into a buffer.

The layout of an argument is told by the argument and its slot alone, also where the two do not
match. Measuring finds its length, and storing writes it and nothing else
(`Writer.storeArgument_writes_layout`). -/

set_option autoImplicit false
namespace LogRecord

/-! ## Layouts -/

/-- The limit of a text slot, where `precision` is the dynamic precision in force. -/
inductive Slot.HasLimit (precision : Option Nat) : Slot → Option Nat → Prop where
  | absent : HasLimit precision (.text .absent) none
  | fixed {limit : UInt32} : HasLimit precision (.text (.fixed limit)) (some limit.toNat)
  | dynamic : HasLimit precision (.text .dynamic) precision

/-- The units in front of the terminator are counted up to the limit. -/
def IsCut {α : Type} [BEq α] [OfNat α 0] (limit : Option Nat) (units : List α) (count : Nat) :
    Prop :=
  count = limit.elim (units.takeWhile (· != 0)).length (min (units.takeWhile (· != 0)).length)

/-- The number of content bytes of an argument, if it is stored as a string, and its bytes. -/
inductive Argument.LaidOut (slot : Slot) (precision : Option Nat) :
    Argument → Option Nat → List UInt8 → Prop where
  | scalar {number : Scalar} :
      LaidOut slot precision (.scalar number) none
        (LittleEndian.encode number.type.bytes number.bits.toNat)
  | pointer {address : UInt64} :
      LaidOut slot precision (.pointer address) none (LittleEndian.encode 8 address.toNat)
  | narrowAddress {address : UInt64} {units : List UInt8} : slot.isText = false →
      LaidOut slot precision (.narrow address units) none (LittleEndian.encode 8 address.toNat)
  | wideAddress {address : UInt64} {units : List UInt32} : slot.isText = false →
      LaidOut slot precision (.wide address units) none (LittleEndian.encode 8 address.toNat)
  | narrow {address : UInt64} {units : List UInt8} {limit : Option Nat} {count : Nat} :
      slot.HasLimit precision limit → IsCut limit units count →
      LaidOut slot precision (.narrow address units) (some count)
        (LittleEndian.encode 4 count ++ units.take count)
  | wide {address : UInt64} {units : List UInt32} {limit : Option Nat} {count : Nat} :
      slot.HasLimit precision limit → IsCut limit units count →
      LaidOut slot precision (.wide address units) (some (count * 4))
        (LittleEndian.encode 4 (count * 4) ++
          (units.take count).flatMap fun unit => LittleEndian.encode 4 unit.toNat)

theorem Slot.hasLimit {slot : Slot} (isText : slot.isText = true) (precision : Option Nat) :
    slot.HasLimit precision (slot.limit? precision) := by
  cases slot with
  | text limit =>
    cases limit with
    | absent => exact .absent
    | dynamic => exact .dynamic
    | fixed limit => exact .fixed
  | invalid | width | precision | value => contradiction

theorem Slot.HasLimit.isText {slot : Slot} {precision limit : Option Nat}
    (has : slot.HasLimit precision limit) : slot.isText = true := by
  cases has <;> rfl

theorem Slot.HasLimit.limit?_eq {slot : Slot} {precision limit : Option Nat}
    (has : slot.HasLimit precision limit) : slot.limit? precision = limit := by
  cases has <;> rfl

theorem Slot.HasLimit.unique {slot : Slot} {precision limit other : Option Nat}
    (has : slot.HasLimit precision limit) (hasOther : slot.HasLimit precision other) :
    limit = other :=
  has.limit?_eq.symm.trans hasOther.limit?_eq

section
variable {α : Type} [BEq α] [OfNat α 0] {limit : Option Nat} {units : List α} {count : Nat}

theorem isCut_length_visible (limit : Option Nat) (units : List α) :
    IsCut limit units (visible limit units).length :=
  length_visible_elim limit units

/-- What a slot shows of a string stands at its front. -/
theorem visible_eq_take (limit : Option Nat) (units : List α) :
    visible limit units = units.take (visible limit units).length := by
  apply List.prefix_iff_eq_take.mp
  cases limit with
  | none => exact List.takeWhile_prefix _
  | some limit => exact (List.take_prefix _ _).trans (List.takeWhile_prefix _)

/-- A slot shows the units in front of the cut. -/
theorem IsCut.visible_eq (cut : IsCut limit units count) :
    visible limit units = units.take count := by
  rw [visible_eq_take, length_visible_elim, ← cut]

theorem IsCut.length_take (cut : IsCut limit units count) : (units.take count).length = count := by
  rw [← cut.visible_eq, length_visible_elim, ← cut]

theorem IsCut.count_eq_of_take_eq {others : List α} {otherLimit : Option Nat} {otherCount : Nat}
    (cut : IsCut limit units count) (otherCut : IsCut otherLimit others otherCount)
    (same : units.take count = others.take otherCount) : count = otherCount := by
  rw [← cut.length_take, same, otherCut.length_take]

end

theorem Argument.laidOut_encode (slot : Slot) (precision : Option Nat) (argument : Argument) :
    argument.LaidOut slot precision ((argument.content? slot precision).map List.length)
      (argument.encode slot precision) := by
  cases argument with
  | scalar number => exact .scalar
  | pointer address => exact .pointer
  | narrow address units =>
    cases isText : slot.isText with
    | false =>
      simp only [content?, encode, isText, Bool.false_eq_true, if_false]
      exact .narrowAddress isText
    | true =>
      have laid := @LaidOut.narrow _ _ address _ _ _ (slot.hasLimit isText precision)
        (isCut_length_visible _ units)
      rw [← visible_eq_take] at laid
      simp only [content?, encode, isText, if_true]
      exact laid
  | wide address units =>
    cases isText : slot.isText with
    | false =>
      simp only [content?, encode, isText, Bool.false_eq_true, if_false]
      exact .wideAddress isText
    | true =>
      have laid := @LaidOut.wide _ _ address _ _ _ (slot.hasLimit isText precision)
        (isCut_length_visible _ units)
      rw [← visible_eq_take] at laid
      simp only [content?, encode, isText, if_true, Option.map_some, encodeContent,
        length_encodeUnits]
      exact laid

/-! ## Storing -/

theorem Slot.isValid_of_ne_invalid {slot : Slot} (valid : slot ≠ .invalid) :
    slot.isValid = true := by
  cases slot with
  | invalid => contradiction
  | width | precision | value | text _ => rfl

theorem Extent.measure_of_too_long {slot : Slot} {before : Option Nat} {argument : Argument}
    {content : List UInt8} (stored : argument.content? slot before = some content)
    (tooLong : LittleEndian.capacity lengthSize ≤ content.length) :
    measure slot before argument = .error (.lengthOverflow content.length) := by
  have valid (isText : slot.isText = true) : slot.isValid = true :=
    Slot.isValid_of_ne_invalid fun invalid => by simp [invalid, Slot.isText] at isText
  cases argument with
  | scalar _ | pointer _ => contradiction
  | narrow address units =>
    simp only [Argument.content?, Option.ite_none_right_eq_some, Option.some.injEq] at stored
    obtain ⟨isText, rfl⟩ := stored
    simp only [measure, valid isText, isText, if_true, ← length_visible, ofContent,
      if_neg (Nat.not_lt.mpr tooLong)]
  | wide address units =>
    simp only [Argument.content?, Option.ite_none_right_eq_some, Option.some.injEq] at stored
    obtain ⟨isText, rfl⟩ := stored
    simp only [measure, valid isText, isText, if_true, ← length_visible, ← length_encodeUnits,
      ofContent, if_neg (Nat.not_lt.mpr tooLong)]

namespace Writer

/-- Storing an argument writes its layout and nothing else, and as many bytes as measuring has
found. Only an invalid slot, a content too long for its length and too small a buffer are refused,
and then nothing is written at all. -/
theorem storeArgument_writes_layout (slot : Slot) (precision : Option Nat) (argument : Argument)
    (buffer : Buffer) :
    let measured := Extent.measure slot precision argument
    let run := (storeArgument slot precision argument).run.run buffer
    (slot = .invalid → measured = .error .invalidSlot ∧ run = (.error .invalidSlot, buffer)) ∧
    (slot ≠ .invalid → ∃ content bytes, argument.LaidOut slot precision content bytes ∧
      (∀ length ∈ content, UInt32.size ≤ length →
        measured = .error (.lengthOverflow length) ∧
          run = (.error (.lengthOverflow length), buffer)) ∧
      ((∀ length ∈ content, length < UInt32.size) →
        ∃ extent, measured = .ok extent ∧ extent.content = content ∧
          extent.total = bytes.length ∧
          (buffer.free.length < extent.total →
            run = (.error (.bufferTooSmall extent.total buffer.free.length), buffer)) ∧
          (extent.total ≤ buffer.free.length →
            ∃ after, run = (.ok extent, after) ∧ after.written = buffer.written ++ bytes ∧
              after.contents = buffer.written ++ bytes ++ buffer.free.drop extent.total))) := by
  intro measured run
  have ran := run_storeArgument slot precision argument buffer
  refine ⟨?_, ?_⟩
  · rintro rfl
    exact ⟨rfl, ran⟩
  · intro valid
    refine ⟨_, _, argument.laidOut_encode slot precision, ?_, ?_⟩
    · intro length found tooLong
      obtain ⟨content, stored, rfl⟩ := Option.map_eq_some_iff.mp found
      have failed := Extent.measure_of_too_long stored tooLong
      rw [failed] at ran
      exact ⟨failed, ran⟩
    · intro short
      have fits : ∀ content ∈ argument.content? slot precision,
          content.length < LittleEndian.capacity lengthSize :=
        fun content stored => short _ (Option.mem_map_of_mem List.length stored)
      have found : Extent.measure slot precision argument = .ok _ :=
        Extent.measure_eq_ok_iff.mpr ⟨Slot.isValid_of_ne_invalid valid, fits, rfl⟩
      rw [found] at ran
      refine ⟨_, found, rfl, rfl, ?_, ?_⟩
      · intro tooSmall
        exact ran.trans (if_pos tooSmall)
      · intro room
        exact ⟨_, run_storeArgument_of_room found room, rfl, rfl⟩

-- The slot of a `*` takes any argument here, and a string goes there by address.
example : (storeArgument .precision (some 1) (.narrow 0x1000 [97, 98])).run.run
      (.ofFree (List.replicate 9 0xAA)) =
    (.ok { total := 8, content := none, precision := some 1 },
      { written := [0, 0x10, 0, 0, 0, 0, 0, 0], free := [0xAA] }) :=
  rfl

end Writer
end LogRecord
