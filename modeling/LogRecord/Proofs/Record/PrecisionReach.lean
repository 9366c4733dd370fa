import LogRecord.Proofs.Format.SlotOrder
import LogRecord.Proofs.Record.Walking

/-! How far a dynamic precision reaches.

A walk never clears the precision in force, but in the slots of a format the only slots that look at
it come directly behind the slot that sets it. So a precision cuts its own string and no other
(`Format.precision_reaches_own_text`). -/

set_option autoImplicit false
namespace LogRecord

/-! ## Integers as precisions -/

/-- The value of a number that is not a floating-point pattern. -/
def Scalar.integer? : Scalar → Option Int
  | ⟨.signed _, bits⟩ => some bits.toInt
  | ⟨.unsigned _, bits⟩ => some bits.toNat
  | ⟨.single, _⟩ | ⟨.double, _⟩ => none

theorem Scalar.exists_integer {number : Scalar} (integer : number.type.isInteger = true) :
    ∃ value, number.integer? = some value := by
  rcases number with ⟨type, bits⟩
  cases type with
  | signed _ | unsigned _ => exact ⟨_, rfl⟩
  | single | double => contradiction

theorem Scalar.precision?_of_integer {number : Scalar} {value : Int}
    (integer : number.integer? = some value) :
    number.precision? = if 0 ≤ value then some value.toNat else none := by
  rcases number with ⟨type, bits⟩
  cases type with
  | signed _ =>
    obtain rfl := Option.some.inj integer
    rfl
  | unsigned _ =>
    obtain rfl := Option.some.inj integer
    exact (if_pos (Int.natCast_nonneg _)).symm
  | single | double => contradiction

/-! ## Slots and the precision in force -/

/-- The units of a string before its terminator, and the bytes of one. -/
def Argument.textLength? : Argument → Option (Nat × Nat)
  | scalar _ | pointer _ => none
  | narrow _ units => some ((units.takeWhile (· != 0)).length, 1)
  | wide _ units => some ((units.takeWhile (· != 0)).length, wideUnitSize)

theorem Slot.limit?_of_ne_dynamic {slot : Slot} (other : slot ≠ .text .dynamic)
    (first second : Option Nat) : slot.limit? first = slot.limit? second := by
  cases slot with
  | text limit =>
    cases limit with
    | dynamic => contradiction
    | absent | fixed _ => rfl
  | invalid | width | precision | value => rfl

theorem Argument.encode_congr {slot : Slot} {first second : Option Nat}
    (limit : slot.limit? first = slot.limit? second) (argument : Argument) :
    argument.encode slot first = argument.encode slot second := by
  cases argument with
  | scalar _ | pointer _ => rfl
  | narrow _ _ | wide _ _ => simp only [encode, limit]

theorem Argument.content?_congr {slot : Slot} {first second : Option Nat}
    (limit : slot.limit? first = slot.limit? second) (argument : Argument) :
    argument.content? slot first = argument.content? slot second := by
  cases argument with
  | scalar _ | pointer _ => rfl
  | narrow _ _ | wide _ _ => simp only [content?, limit]

/-- Only a dynamic text looks at the precision in force. -/
theorem Extent.measure_of_ne_dynamic {slot : Slot} {before : Option Nat} {argument : Argument}
    {extent : Extent} (other : slot ≠ .text .dynamic)
    (measured : measure slot before argument = .ok extent) (precision : Option Nat) :
    ∃ alone, measure slot precision argument = .ok alone ∧
      alone.total = extent.total ∧ alone.content = extent.content := by
  obtain ⟨valid, fits, rfl⟩ := measure_eq_ok_iff.mp measured
  have limit := Slot.limit?_of_ne_dynamic other before precision
  rw [argument.content?_congr limit] at fits
  refine ⟨_, measure_eq_ok_iff.mpr ⟨valid, fits, rfl⟩, ?_, ?_⟩
  · rw [argument.encode_congr limit]
  · rw [argument.content?_congr limit]

theorem DynamicBehindPrecision.exists_star {slots : List Slot} {arguments : List Argument}
    {place : Nat} {argument : Argument} (ordered : DynamicBehindPrecision slots)
    (found : (slots.zip arguments)[place]? = some (.text .dynamic, argument)) :
    ∃ star filler, star + 1 = place ∧
      (slots.zip arguments)[star]? = some (.precision, filler) := by
  obtain ⟨slotHere, argumentHere⟩ := List.getElem?_zip_eq_some.mp found
  obtain ⟨star, rfl, precision⟩ := ordered place slotHere
  obtain ⟨inside, -⟩ := List.getElem?_eq_some_iff.mp argumentHere
  have filled : arguments[star]? = some arguments[star] :=
    List.getElem?_eq_getElem (Nat.lt_of_succ_lt inside)
  exact ⟨star, _, rfl, List.getElem?_zip_eq_some.mpr ⟨precision, filled⟩⟩

theorem Argument.exists_setting {argument : Argument}
    (accepted : Slot.precision.accepts argument = true) :
    ∃ setting, argument.setting? .precision = some setting := by
  cases argument with
  | pointer _ | narrow _ _ | wide _ _ => contradiction
  | scalar number =>
    have integer : number.type.isInteger = true := accepted
    exact ⟨_, if_pos ⟨rfl, integer⟩⟩

theorem Extent.measure_dynamic {precision : Option Nat} {argument : Argument} {extent : Extent}
    (accepted : (Slot.text .dynamic).accepts argument = true)
    (measured : measure (.text .dynamic) precision argument = .ok extent) :
    ∃ length unitSize, argument.textLength? = some (length, unitSize) ∧
      extent.content = some ((precision.elim length (min length)) * unitSize) := by
  obtain ⟨-, -, rfl⟩ := measure_eq_ok_iff.mp measured
  cases argument with
  | scalar _ | pointer _ => contradiction
  | narrow address units =>
    refine ⟨_, _, rfl, ?_⟩
    rw [Nat.mul_one, ← length_visible_elim]
    rfl
  | wide address units =>
    refine ⟨_, _, rfl, ?_⟩
    rw [← length_visible_elim, ← length_encodeUnits]
    rfl

namespace Walk

/-- In a walk that succeeds, an integer stands in every precision slot, and its value is what is in
force behind it. -/
theorem Succeeds.inForce_behind_precision {before : Option Nat} {pairs : List (Slot × Argument)}
    {extents : List Extent} {place : Nat} {argument : Argument}
    (succeeds : Succeeds before pairs extents)
    (found : pairs[place]? = some (.precision, argument)) :
    ∃ number value, argument = .scalar number ∧ number.integer? = some value ∧
      inForce before (pairs.take (place + 1)) = if 0 ≤ value then some value.toNat else none := by
  obtain ⟨_, -, accepted, -⟩ := succeeds.at_place found
  cases argument with
  | pointer _ | narrow _ _ | wide _ _ => contradiction
  | scalar number =>
    have integer : number.type.isInteger = true := accepted
    obtain ⟨value, known⟩ := Scalar.exists_integer integer
    refine ⟨number, value, rfl, known, ?_⟩
    rw [inForce_behind_setting found (if_pos ⟨rfl, integer⟩), Scalar.precision?_of_integer known]

variable {slots : List Slot} {arguments others : List Argument}
  {extents otherExtents : List Extent} {place : Nat}

/-- What is in force at a dynamic text is the integer in the precision slot directly before it,
whatever any earlier slot has set. -/
theorem Succeeds.inForce_at_dynamic {argument : Argument}
    (succeeds : Succeeds none (slots.zip arguments) extents)
    (ordered : DynamicBehindPrecision slots) (slotHere : slots[place]? = some (.text .dynamic))
    (argumentHere : arguments[place]? = some argument) :
    ∃ star number value, star + 1 = place ∧ slots[star]? = some .precision ∧
      arguments[star]? = some (.scalar number) ∧ number.integer? = some value ∧
      inForce none ((slots.zip arguments).take place) =
        if 0 ≤ value then some value.toNat else none := by
  have found : (slots.zip arguments)[place]? = some (.text .dynamic, argument) :=
    List.getElem?_zip_eq_some.mpr ⟨slotHere, argumentHere⟩
  obtain ⟨star, filler, rfl, filled⟩ := ordered.exists_star found
  obtain ⟨number, value, rfl, integer, inForce⟩ := succeeds.inForce_behind_precision filled
  obtain ⟨precision, number⟩ := List.getElem?_zip_eq_some.mp filled
  exact ⟨star, _, value, rfl, precision, number, integer, inForce⟩

/-- Two runs over the same slots find the same size where they have the same argument and, at a
dynamic text, the same one directly before. -/
theorem Succeeds.same_size {slot : Slot} {argument : Argument}
    (succeeds : Succeeds none (slots.zip arguments) extents)
    (otherSucceeds : Succeeds none (slots.zip others) otherExtents)
    (ordered : DynamicBehindPrecision slots) (slotHere : slots[place]? = some slot)
    (argumentHere : arguments[place]? = some argument)
    (otherHere : others[place]? = some argument)
    (sameBefore : slot = .text .dynamic → arguments[place - 1]? = others[place - 1]?) :
    ∃ extent other, extents[place]? = some extent ∧ otherExtents[place]? = some other ∧
      extent.total = other.total ∧ extent.content = other.content := by
  obtain ⟨extent, found, -, measured⟩ :=
    succeeds.at_place (List.getElem?_zip_eq_some.mpr ⟨slotHere, argumentHere⟩)
  obtain ⟨other, otherFound, -, otherMeasured⟩ :=
    otherSucceeds.at_place (List.getElem?_zip_eq_some.mpr ⟨slotHere, otherHere⟩)
  refine ⟨extent, other, found, otherFound, ?_⟩
  by_cases dynamic : slot = .text .dynamic
  · subst dynamic
    obtain ⟨star, number, value, rfl, -, filled, integer, inForce⟩ :=
      succeeds.inForce_at_dynamic ordered slotHere argumentHere
    obtain ⟨otherStar, _, otherValue, next, -, otherFilled, otherInteger, otherInForce⟩ :=
      otherSucceeds.inForce_at_dynamic ordered slotHere otherHere
    -- Both runs take their precision from the same place, which holds the same integer.
    obtain rfl := Nat.succ.inj next
    have sameFilled := sameBefore rfl
    rw [Nat.add_sub_cancel, filled, otherFilled] at sameFilled
    obtain rfl := Argument.scalar.inj (Option.some.inj sameFilled)
    obtain rfl := Option.some.inj (integer.symm.trans otherInteger)
    rw [inForce] at measured
    rw [otherInForce, measured] at otherMeasured
    obtain rfl := Except.ok.inj otherMeasured
    exact ⟨rfl, rfl⟩
  · obtain ⟨alone, again, total, content⟩ :=
      Extent.measure_of_ne_dynamic dynamic otherMeasured
        (inForce none ((slots.zip arguments).take place))
    rw [measured] at again
    obtain rfl := Except.ok.inj again
    exact ⟨total, content⟩

end Walk

/-- The sizes of a statement whose record has one. A dynamic text takes its precision from the
integer directly before it, and the size of any other argument is the same whatever precision is in
force. So two statements of a format find the same size where they have the same argument and, at a
dynamic text, the same one directly before. -/
theorem Format.precision_reaches_own_text {text : String} {arguments : List Argument} {size : Nat}
    (sized : recordSize (ofString text).slots arguments = .ok size) :
    let slots := (ofString text).slots
    ∃ (walk : Walk) (extents : List Extent),
      Walk.start slots arguments = .ok walk ∧ walk.items = extents.map .ok ∧
      slots.length = arguments.length ∧ extents.length = slots.length ∧
      (∀ place slot argument extent, slots[place]? = some slot →
        arguments[place]? = some argument → extents[place]? = some extent →
        (slot = .text .dynamic →
          ∃ star number value length unitSize, star + 1 = place ∧
            slots[star]? = some .precision ∧ arguments[star]? = some (.scalar number) ∧
            number.integer? = some value ∧ argument.textLength? = some (length, unitSize) ∧
            extent.content =
              some ((if 0 ≤ value then min length value.toNat else length) * unitSize)) ∧
        (slot ≠ .text .dynamic → ∀ precision, ∃ alone,
          Extent.measure slot precision argument = .ok alone ∧
            alone.total = extent.total ∧ alone.content = extent.content)) ∧
      ∀ others otherSize, recordSize slots others = .ok otherSize →
        ∃ (otherWalk : Walk) (otherExtents : List Extent),
          Walk.start slots others = .ok otherWalk ∧ otherWalk.items = otherExtents.map .ok ∧
          ∀ place slot argument, slots[place]? = some slot → arguments[place]? = some argument →
            others[place]? = some argument →
            (slot = .text .dynamic → arguments[place - 1]? = others[place - 1]?) →
            ∃ extent other, extents[place]? = some extent ∧ otherExtents[place]? = some other ∧
              extent.total = other.total ∧ extent.content = other.content := by
  intro slots
  have ordered : DynamicBehindPrecision slots := dynamicBehindPrecision_slots _
  obtain ⟨same, extents, succeeds, -⟩ := recordSize_eq_ok_iff.mp sized
  refine ⟨_, extents, if_pos same, Walk.items_eq_map_ok_iff.mpr succeeds, same, ?_, ?_, ?_⟩
  · rw [succeeds.length_eq, List.length_zip, ← same, Nat.min_self]
  · intro place slot argument extent slotHere argumentHere extentHere
    obtain ⟨_, found, accepted, measured⟩ :=
      succeeds.at_place (List.getElem?_zip_eq_some.mpr ⟨slotHere, argumentHere⟩)
    obtain rfl := Option.some.inj (found.symm.trans extentHere)
    constructor
    · rintro rfl
      obtain ⟨star, number, value, next, precision, filled, integer, inForce⟩ :=
        succeeds.inForce_at_dynamic ordered slotHere argumentHere
      obtain ⟨length, unitSize, known, content⟩ := Extent.measure_dynamic accepted measured
      refine ⟨star, number, value, length, unitSize, next, precision, filled, integer, known, ?_⟩
      rw [content, inForce]
      split <;> rfl
    · exact fun other => Extent.measure_of_ne_dynamic other measured
  · intro others otherSize otherSized
    obtain ⟨otherSame, otherExtents, otherSucceeds, -⟩ := recordSize_eq_ok_iff.mp otherSized
    refine ⟨_, otherExtents, if_pos otherSame, Walk.items_eq_map_ok_iff.mpr otherSucceeds, ?_⟩
    intro place slot argument slotHere argumentHere otherHere sameBefore
    exact succeeds.same_size otherSucceeds ordered slotHere argumentHere otherHere sameBefore

theorem Format.precision_reaches_last_text :
    let integer (value : Int) : Argument := .scalar (.ofInt (.signed .four) value)
    let text : Argument := .narrow 0x1000 [97, 98, 99, 0, 100]
    let slots := (ofString "%.*d%s%.*s").slots
    let arguments := [integer 1, integer 7, text, integer 2, text]
    let others := [integer 0, integer 300, text, integer 2, text]
    slots = [.precision, .value, .text .absent, .precision, .text .dynamic] ∧
      recordSize slots arguments = .ok 25 ∧ recordSize slots others = .ok 25 ∧
      ∃ walk : Walk, Walk.start slots arguments = .ok walk ∧
        ∃ extents : List Extent, walk.items = extents.map .ok ∧
          ∃ extent, extents[4]? = some extent ∧ extent.content = some 2 := by
  intro integer text slots arguments others
  have known : slots = [.precision, .value, .text .absent, .precision, .text .dynamic] := by
    decide +kernel
  have here : slots[4]? = some (.text .dynamic) := by
    rw [known]
    rfl
  have sized : recordSize slots arguments = .ok 25 := by
    rw [known]
    rfl
  have otherSized : recordSize slots others = .ok 25 := by
    rw [known]
    rfl
  obtain ⟨walk, extents, started, items, -, -, own, runs⟩ := precision_reaches_own_text sized
  obtain ⟨_, _, _, _, same⟩ := runs others 25 otherSized
  obtain ⟨extent, _, found, _⟩ :=
    same 4 (.text .dynamic) text here rfl rfl (fun _ => rfl)
  refine ⟨known, sized, otherSized, walk, started, extents, items, extent, found, ?_⟩
  obtain ⟨star, number, value, length, unitSize, next, -, filled, integer, measured, content⟩ :=
    (own 4 (.text .dynamic) text extent here rfl found).1 rfl
  obtain rfl : star = 3 := Nat.succ.inj next
  obtain rfl := Argument.scalar.inj (Option.some.inj filled)
  obtain rfl := Option.some.inj integer
  obtain ⟨rfl, rfl⟩ := Prod.mk.inj (Option.some.inj measured)
  exact content

end LogRecord
