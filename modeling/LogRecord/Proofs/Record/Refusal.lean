import LogRecord.Proofs.Format.Faults
import LogRecord.Proofs.Record.PrecisionReach

/-! Which failure is told of a statement that makes no record.

A wrong number of arguments comes before everything else, and then the first argument that its slot
does not accept (`recordSize_eq_error_iff`). Every issue of a format leaves an invalid slot, which
accepts nothing, so no statement of such a format makes a record
(`Format.recordSize_fails_closed`). -/

set_option autoImplicit false
namespace LogRecord

/-! ## The first failure of a walk -/

section
variable {E A : Type}

theorem mapM_id_eq_error_iff {results : List (Except E A)} {error : E} :
    results.mapM id = .error error ↔
      ∃ place : Nat, results[place]? = some (.error error) ∧
        ∀ before < place, ∃ value, results[before]? = some (.ok value) := by
  induction results with
  | nil => simp [pure, Except.pure]
  | cons result results ih =>
    rw [List.mapM_cons]
    cases result with
    | error first =>
      constructor
      · intro failed
        obtain rfl : first = error := Except.error.inj failed
        exact ⟨0, rfl, fun before earlier => absurd earlier (Nat.not_lt_zero before)⟩
      · rintro ⟨place, found, earlier⟩
        cases place with
        | zero => exact congrArg Except.error (Except.error.inj (Option.some.inj found))
        | succ place =>
          obtain ⟨value, succeeded⟩ := earlier 0 (Nat.zero_lt_succ place)
          simp at succeeded
    | ok value =>
      have rest : (do let values ← results.mapM id; return value :: values : Except E (List A)) =
          .error error ↔ results.mapM id = .error error := by
        cases results.mapM id <;> simp [bind, Except.bind, pure, Except.pure]
      refine rest.trans (ih.trans ?_)
      constructor
      · rintro ⟨place, found, earlier⟩
        refine ⟨place + 1, found, fun before inside => ?_⟩
        cases before with
        | zero => exact ⟨value, rfl⟩
        | succ before => exact earlier before (Nat.lt_of_succ_lt_succ inside)
      · rintro ⟨place, found, earlier⟩
        cases place with
        | zero => simp at found
        | succ place =>
          exact ⟨place, found, fun before inside => earlier (before + 1) (Nat.succ_lt_succ inside)⟩

end

/-! ## Arguments that are refused -/

/-- The length before a string can tell all of its content. -/
def Argument.IsStorable (argument : Argument) : Prop :=
  ∀ measured ∈ argument.textLength?, measured.1 * measured.2 < UInt32.size

instance (argument : Argument) : Decidable argument.IsStorable :=
  inferInstanceAs (Decidable (∀ measured ∈ argument.textLength?, _))

/-- Why an argument is refused that its slot does not accept. -/
def Slot.refusal (index : Nat) (slot : Slot) (argument : Argument) : EncodingError :=
  if slot = .invalid then .invalidArgument index else .typeMismatch index slot argument.category

/-- This argument is the first that its slot does not accept. -/
structure FirstRefused (slots : List Slot) (arguments : List Argument) (place : Nat) (slot : Slot)
    (argument : Argument) : Prop where
  slotHere : slots[place]? = some slot
  argumentHere : arguments[place]? = some argument
  refused : slot.accepts argument = false
  earlier : ∀ before < place, ∀ slot argument, slots[before]? = some slot →
    arguments[before]? = some argument → slot.accepts argument = true

theorem length_visible_le {α : Type} [BEq α] [OfNat α 0] (limit : Option Nat) (units : List α) :
    (visible limit units).length ≤ (units.takeWhile (· != 0)).length := by
  rw [length_visible_elim]
  cases limit with
  | none => exact Nat.le_refl _
  | some limit => exact Nat.min_le_left _ _

theorem Argument.IsStorable.length_content_lt {argument : Argument} (storable : argument.IsStorable)
    {slot : Slot} {precision : Option Nat} {content : List UInt8}
    (stored : argument.content? slot precision = some content) :
    content.length < LittleEndian.capacity lengthSize := by
  cases argument with
  | scalar _ | pointer _ => contradiction
  | narrow address units =>
    simp only [content?, Option.ite_none_right_eq_some, Option.some.injEq] at stored
    obtain ⟨-, rfl⟩ := stored
    have whole : (units.takeWhile (· != 0)).length * 1 < UInt32.size := storable _ rfl
    rw [Nat.mul_one] at whole
    exact Nat.lt_of_le_of_lt (length_visible_le _ units) whole
  | wide address units =>
    simp only [content?, Option.ite_none_right_eq_some, Option.some.injEq] at stored
    obtain ⟨-, rfl⟩ := stored
    have whole : (units.takeWhile (· != 0)).length * wideUnitSize < UInt32.size :=
      storable _ rfl
    rw [length_encodeUnits]
    exact Nat.lt_of_le_of_lt (Nat.mul_le_mul_right _ (length_visible_le _ units)) whole

namespace Walk

theorem item_of_accepts (index : Nat) (before : Option Nat) {slot : Slot} {argument : Argument}
    (storable : argument.IsStorable) (accepted : slot.accepts argument = true) :
    ∃ extent, item index before slot argument = .ok extent := by
  have valid := Slot.isValid_of_accepts accepted
  have short : ∀ content ∈ argument.content? slot before,
      content.length < LittleEndian.capacity lengthSize :=
    fun content stored => storable.length_content_lt stored
  exact ⟨_, item_eq_ok_iff.mpr ⟨accepted, Extent.measure_eq_ok_iff.mpr ⟨valid, short, rfl⟩⟩⟩

theorem item_of_not_accepts (index : Nat) (before : Option Nat) {slot : Slot}
    {argument : Argument} (refused : slot.accepts argument = false) :
    item index before slot argument = .error (slot.refusal index argument) := by
  cases slot with
  | invalid => rfl
  | width | precision | value | text _ => simp [item, Slot.isValid, Slot.refusal, refused]

end Walk

theorem Extent.exists_length_of_measure_error {slot : Slot} {before : Option Nat}
    {argument : Argument} {error : EncodingError} (valid : slot.isValid = true)
    (failed : measure slot before argument = .error error) :
    ∃ length, error = .lengthOverflow length := by
  have overflow (content : Nat) (overflows : ofContent content before = .error error) :
      ∃ length, error = .lengthOverflow length := by
    unfold ofContent at overflows
    split at overflows
    next => contradiction
    next => exact ⟨content, (Except.error.inj overflows).symm⟩
  cases argument with
  | scalar _ | pointer _ => simp [measure, valid] at failed
  | narrow _ _ | wide _ _ =>
    simp only [measure, valid, if_true] at failed
    split at failed
    next => exact overflow _ failed
    next => contradiction

/-- An item fails because its slot refuses the argument, or because the content is too long. -/
theorem Walk.error_of_item {index : Nat} {before : Option Nat} {slot : Slot} {argument : Argument}
    {error : EncodingError} (failed : item index before slot argument = .error error) :
    error = slot.refusal index argument ∧ slot.accepts argument = false ∨
      ∃ length, error = .lengthOverflow length := by
  cases accepted : slot.accepts argument with
  | false =>
    rw [item_of_not_accepts index before accepted] at failed
    exact .inl ⟨(Except.error.inj failed).symm, rfl⟩
  | true =>
    have valid := Slot.isValid_of_accepts accepted
    simp only [item, valid, accepted, Bool.not_true, Bool.false_eq_true, if_false] at failed
    exact .inr (Extent.exists_length_of_measure_error valid failed)

/-! ## Statements that make no record -/

variable {slots : List Slot} {arguments : List Argument}

theorem recordSize_of_length_ne (differ : slots.length ≠ arguments.length) :
    recordSize slots arguments = .error (.argumentCount slots.length arguments.length) := by
  rw [recordSize, Walk.start, if_neg differ]
  rfl

section
variable {walk : Walk} (started : Walk.start slots arguments = .ok walk)
include started

theorem recordSize_eq_error_iff_items {error : EncodingError} :
    recordSize slots arguments = .error error ↔ walk.items.mapM id = .error error := by
  rw [recordSize, started]
  cases measured : walk.items.mapM id <;>
    simp [bind, Except.bind, measured, pure, Except.pure]

theorem getElem?_items (place : Nat) :
    walk.items[place]? = (slots.zip arguments)[place]?.map fun pair =>
      Walk.item place (inForce none ((slots.zip arguments).take place)) pair.1 pair.2 := by
  unfold Walk.start at started
  split at started
  next same =>
    obtain rfl := Except.ok.inj started
    rw [Walk.items_eq_mapIdx, List.getElem?_mapIdx]
    simp only [Nat.zero_add]
  next => contradiction

theorem error_of_recordSize {error : EncodingError}
    (failed : recordSize slots arguments = .error error) :
    (∃ (place : Nat) (slot : Slot) (argument : Argument),
        slots[place]? = some slot ∧ error = slot.refusal place argument) ∨
      ∃ length, error = .lengthOverflow length := by
  rw [recordSize_eq_error_iff_items started, mapM_id_eq_error_iff] at failed
  obtain ⟨place, found, -⟩ := failed
  rw [getElem?_items started, Option.map_eq_some_iff] at found
  obtain ⟨⟨slot, argument⟩, here, item⟩ := found
  rcases Walk.error_of_item item with ⟨refusal, -⟩ | overflow
  · exact .inl ⟨place, slot, argument, (List.getElem?_zip_eq_some.mp here).1, refusal⟩
  · exact .inr overflow

variable (storable : ∀ argument ∈ arguments, argument.IsStorable)
include storable

theorem getElem?_items_eq_ok_iff {place : Nat} :
    (∃ extent, walk.items[place]? = some (.ok extent)) ↔
      ∃ slot argument, slots[place]? = some slot ∧ arguments[place]? = some argument ∧
        slot.accepts argument = true := by
  simp only [getElem?_items started, Option.map_eq_some_iff, Prod.exists,
    List.getElem?_zip_eq_some]
  constructor
  · rintro ⟨extent, slot, argument, ⟨slotHere, argumentHere⟩, measured⟩
    exact ⟨slot, argument, slotHere, argumentHere, (Walk.item_eq_ok_iff.mp measured).1⟩
  · rintro ⟨slot, argument, slotHere, argumentHere, accepted⟩
    obtain ⟨extent, measured⟩ :=
      Walk.item_of_accepts place (inForce none ((slots.zip arguments).take place))
        (storable argument (List.mem_of_getElem? argumentHere)) accepted
    exact ⟨extent, slot, argument, ⟨slotHere, argumentHere⟩, measured⟩

theorem getElem?_items_eq_error_iff {place : Nat} {error : EncodingError} :
    walk.items[place]? = some (.error error) ↔
      ∃ slot argument, slots[place]? = some slot ∧ arguments[place]? = some argument ∧
        slot.accepts argument = false ∧ slot.refusal place argument = error := by
  simp only [getElem?_items started, Option.map_eq_some_iff, Prod.exists,
    List.getElem?_zip_eq_some]
  constructor
  · rintro ⟨slot, argument, ⟨slotHere, argumentHere⟩, failed⟩
    cases accepted : slot.accepts argument with
    | true =>
      obtain ⟨extent, measured⟩ :=
        Walk.item_of_accepts place (inForce none ((slots.zip arguments).take place))
          (storable argument (List.mem_of_getElem? argumentHere)) accepted
      rw [measured] at failed
      contradiction
    | false =>
      rw [Walk.item_of_not_accepts _ _ accepted] at failed
      exact ⟨slot, argument, slotHere, argumentHere, accepted, Except.error.inj failed⟩
  · rintro ⟨slot, argument, slotHere, argumentHere, refused, rfl⟩
    exact ⟨slot, argument, ⟨slotHere, argumentHere⟩, Walk.item_of_not_accepts _ _ refused⟩

/-- When every string is short enough, a walk fails first at the first argument that its slot does
not accept. -/
theorem items_first_error_iff {place : Nat} {error : EncodingError} :
    (walk.items[place]? = some (.error error) ∧
        ∀ before < place, ∃ extent, walk.items[before]? = some (.ok extent)) ↔
      ∃ slot argument, FirstRefused slots arguments place slot argument ∧
        error = slot.refusal place argument := by
  simp only [getElem?_items_eq_error_iff started storable,
    getElem?_items_eq_ok_iff started storable]
  constructor
  · rintro ⟨⟨slot, argument, slotHere, argumentHere, refused, rfl⟩, earlier⟩
    refine ⟨slot, argument, ⟨slotHere, argumentHere, refused, ?_⟩, rfl⟩
    intro before inside slot argument slotBefore argumentBefore
    obtain ⟨_, _, slotFound, argumentFound, accepted⟩ := earlier before inside
    obtain rfl := Option.some.inj (slotFound.symm.trans slotBefore)
    obtain rfl := Option.some.inj (argumentFound.symm.trans argumentBefore)
    exact accepted
  · rintro ⟨slot, argument, first, rfl⟩
    refine ⟨⟨slot, argument, first.slotHere, first.argumentHere, first.refused, rfl⟩, ?_⟩
    intro before inside
    obtain ⟨slotsReach, -⟩ := List.getElem?_eq_some_iff.mp first.slotHere
    obtain ⟨argumentsReach, -⟩ := List.getElem?_eq_some_iff.mp first.argumentHere
    have slotBefore := List.getElem?_eq_getElem (Nat.lt_trans inside slotsReach)
    have argumentBefore := List.getElem?_eq_getElem (Nat.lt_trans inside argumentsReach)
    exact ⟨_, _, slotBefore, argumentBefore, first.earlier _ inside _ _ slotBefore argumentBefore⟩

end

theorem recordSize_eq_error_iff (storable : ∀ argument ∈ arguments, argument.IsStorable)
    {error : EncodingError} :
    recordSize slots arguments = .error error ↔
      slots.length ≠ arguments.length ∧ error = .argumentCount slots.length arguments.length ∨
      slots.length = arguments.length ∧ ∃ place slot argument,
        FirstRefused slots arguments place slot argument ∧ error = slot.refusal place argument := by
  by_cases same : slots.length = arguments.length
  · have started : Walk.start slots arguments = .ok _ := if_pos same
    rw [recordSize_eq_error_iff_items started, mapM_id_eq_error_iff]
    simp only [items_first_error_iff started storable, same, ne_eq, not_true_eq_false, false_and,
      false_or, true_and]
  · simp [recordSize_of_length_ne same, same, eq_comm]

theorem recordSize_eq_argumentCount_iff {expected actual : Nat} :
    recordSize slots arguments = .error (.argumentCount expected actual) ↔
      slots.length ≠ arguments.length ∧ expected = slots.length ∧ actual = arguments.length := by
  by_cases same : slots.length = arguments.length
  · refine iff_of_false (fun failed => ?_) (fun counts => counts.1 same)
    rcases error_of_recordSize (if_pos same) failed with ⟨_, _, _, -, told⟩ | ⟨_, told⟩
    · unfold Slot.refusal at told
      split at told <;> contradiction
    · contradiction
  · simp [recordSize_of_length_ne same, same, eq_comm]

/-- Only an invalid slot is told of as an invalid argument. -/
theorem recordSize_ne_invalidArgument (valid : Slot.invalid ∉ slots) (index : Nat) :
    recordSize slots arguments ≠ .error (.invalidArgument index) := by
  intro failed
  by_cases same : slots.length = arguments.length
  · rcases error_of_recordSize (if_pos same) failed with ⟨place, slot, _, here, told⟩ | ⟨_, told⟩
    · have apart : slot ≠ .invalid := fun invalid => valid (invalid ▸ List.mem_of_getElem? here)
      rw [Slot.refusal, if_neg apart] at told
      contradiction
    · contradiction
  · rw [recordSize_of_length_ne same] at failed
    have told := Except.error.inj failed
    contradiction

/-! ## Formats with issues -/

/-- Every slot of a statement that makes a record accepts its argument. -/
theorem accepts_of_recordSize {size place : Nat} {slot : Slot} {argument : Argument}
    (sized : recordSize slots arguments = .ok size) (slotHere : slots[place]? = some slot)
    (argumentHere : arguments[place]? = some argument) : slot.accepts argument = true := by
  obtain ⟨-, _, succeeds, -⟩ := recordSize_eq_ok_iff.mp sized
  obtain ⟨_, -, accepted, -⟩ :=
    succeeds.at_place (List.getElem?_zip_eq_some.mpr ⟨slotHere, argumentHere⟩)
  exact accepted

theorem recordSize_of_invalid (invalid : Slot.invalid ∈ slots) (arguments : List Argument) :
    ∃ error, recordSize slots arguments = .error error := by
  cases sized : recordSize slots arguments with
  | error error => exact ⟨error, rfl⟩
  | ok size =>
    obtain ⟨same, -⟩ := recordSize_eq_ok_iff.mp sized
    obtain ⟨place, inside, here⟩ := List.getElem_of_mem invalid
    have slotHere : slots[place]? = some .invalid := List.getElem?_eq_some_iff.mpr ⟨inside, here⟩
    have argumentHere := List.getElem?_eq_getElem (l := arguments) (same ▸ inside)
    have accepted := accepts_of_recordSize sized slotHere argumentHere
    contradiction

/-- The first refusal comes no later than an invalid slot. -/
theorem FirstRefused.le_of_invalid {place invalid : Nat} {slot : Slot} {argument : Argument}
    (first : FirstRefused slots arguments place slot argument)
    (same : slots.length = arguments.length) (slotHere : slots[invalid]? = some .invalid) :
    place ≤ invalid := by
  refine Nat.le_of_not_lt fun later => ?_
  obtain ⟨inside, -⟩ := List.getElem?_eq_some_iff.mp slotHere
  have argumentHere := List.getElem?_eq_getElem (l := arguments) (same ▸ inside)
  have accepted := first.earlier invalid later _ _ slotHere argumentHere
  contradiction

/-- A statement makes a record exactly when it has the right number of arguments, its format has no
issue and every slot accepts its argument. Otherwise a wrong number of arguments is told first, and
then the first argument that its slot does not accept. A format with an issue makes no record of
any arguments, and the failure comes no later than the slot of the first issue. -/
theorem Format.recordSize_fails_closed (text : String) {arguments : List Argument}
    (storable : ∀ argument ∈ arguments, argument.IsStorable) :
    let format := ofString text
    let slots := format.slots
    ((∃ size, recordSize slots arguments = .ok size) ↔
      arguments.length = slots.length ∧ format.issues = [] ∧
        ∀ (place : Nat) (slot : Slot) (argument : Argument), slots[place]? = some slot →
          arguments[place]? = some argument → slot.accepts argument = true) ∧
    (∀ error, recordSize slots arguments = .error error ↔
      slots.length ≠ arguments.length ∧ error = .argumentCount slots.length arguments.length ∨
      slots.length = arguments.length ∧ ∃ place slot argument,
        FirstRefused slots arguments place slot argument ∧ error = slot.refusal place argument) ∧
    recordSize slots arguments ≠ .error .invalidSlot ∧
    ∀ issue later, format.issues = issue :: later →
      (∀ others, ∃ error, recordSize slots others = .error error) ∧
      (slots.length = arguments.length → ∃ place slot argument, place ≤ issue.slot ∧
        FirstRefused slots arguments place slot argument ∧
        recordSize slots arguments = .error (slot.refusal place argument)) := by
  intro format slots
  have failure : ∀ error, recordSize slots arguments = .error error ↔ _ :=
    fun error => recordSize_eq_error_iff storable
  refine ⟨⟨?_, ?_⟩, failure, ?_, ?_⟩
  · rintro ⟨size, sized⟩
    obtain ⟨same, -⟩ := recordSize_eq_ok_iff.mp sized
    refine ⟨same.symm, ?_, fun place slot argument => accepts_of_recordSize sized⟩
    refine issues_eq_nil_iff_slots.mpr fun (invalid : Slot.invalid ∈ slots) => ?_
    obtain ⟨error, failed⟩ := recordSize_of_invalid invalid arguments
    rw [sized] at failed
    contradiction
  · rintro ⟨same, -, accepted⟩
    cases sized : recordSize slots arguments with
    | ok size => exact ⟨size, rfl⟩
    | error error =>
      rcases (failure error).mp sized with ⟨differ, -⟩ | ⟨-, place, slot, argument, first, -⟩
      · exact absurd same.symm differ
      · have refused := first.refused
        rw [accepted place slot argument first.slotHere first.argumentHere] at refused
        contradiction
  · intro failed
    rcases (failure _).mp failed with ⟨-, told⟩ | ⟨-, place, slot, argument, -, told⟩
    · contradiction
    · unfold Slot.refusal at told
      split at told <;> contradiction
  · intro issue later listed
    have named : issue.slot ∈ format.issues.map Issue.slot := by
      rw [listed]
      exact List.mem_cons_self
    have slotHere : slots[issue.slot]? = some .invalid := mem_issue_slots_iff.mp named
    have invalid : Slot.invalid ∈ slots := List.mem_of_getElem? slotHere
    refine ⟨recordSize_of_invalid invalid, fun same => ?_⟩
    obtain ⟨error, failed⟩ := recordSize_of_invalid invalid arguments
    rcases (failure error).mp failed with ⟨differ, -⟩ | ⟨-, place, slot, argument, first, rfl⟩
    · exact absurd same differ
    · exact ⟨place, slot, argument, first.le_of_invalid same slotHere, first, failed⟩

/-- The pointer is told of, although slots behind it are invalid. -/
theorem Format.recordSize_refuses_pointer :
    let text := "%s %.*s %q%*n"
    let string : Argument := .narrow 0x1000 [97, 98, 0, 99]
    let integer : Argument := .scalar (.ofInt (.signed .four) 2)
    let pointer : Argument := .pointer 0x2000
    let slots := (ofString text).slots
    let arguments := [string, integer, pointer, integer, integer, integer]
    let issue : Issue := { offset := 8, slot := 3, fault := .unknown 'q' }
    (∀ argument ∈ arguments, argument.IsStorable) ∧
      (∃ later, (ofString text).issues = issue :: later) ∧ slots.length = arguments.length ∧
      recordSize slots arguments = .error (.typeMismatch 2 (.text .dynamic) .pointer) ∧
      ∃ place slot argument, place ≤ issue.slot ∧
        FirstRefused slots arguments place slot argument := by
  intro text string integer pointer slots arguments issue
  have storable : ∀ argument ∈ arguments, argument.IsStorable := by decide
  have listed : ∃ later, (ofString text).issues = issue :: later :=
    ⟨[{ offset := 10, slot := 5, fault := .unsupported }], by decide +kernel⟩
  have known : slots =
      [.text .absent, .precision, .text .dynamic, .invalid, .width, .invalid] := by
    decide +kernel
  have same : slots.length = arguments.length := by rw [known]; rfl
  have first : FirstRefused slots arguments 2 (.text .dynamic) pointer := by
    rw [known]
    refine ⟨rfl, rfl, rfl, ?_⟩
    intro before earlier slot argument slotHere argumentHere
    obtain rfl | rfl : before = 0 ∨ before = 1 := by omega
    · obtain rfl := Option.some.inj slotHere
      obtain rfl := Option.some.inj argumentHere
      rfl
    · obtain rfl := Option.some.inj slotHere
      obtain rfl := Option.some.inj argumentHere
      rfl
  obtain ⟨-, failure, -, refused⟩ := recordSize_fails_closed text storable
  obtain ⟨later, issues⟩ := listed
  obtain ⟨place, slot, argument, bound, found, -⟩ := (refused issue later issues).2 same
  exact ⟨storable, ⟨later, issues⟩, same,
    (failure _).mpr (.inr ⟨same, 2, _, pointer, first, rfl⟩), place, slot, argument, bound, found⟩

end LogRecord
