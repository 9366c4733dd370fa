import LogRecord.Proofs.Format.Concatenation
import LogRecord.Proofs.Record.Refusal
import LogRecord.Proofs.Record.Writing

/-! Records of texts put together.

The second of two texts starts with the precision that the first has left in force. No slot of a
format looks at a precision before its own format has set one (`Walk.Succeeds.limit?_eq`), so the
record of both texts is the record of the first and then the record of the second
(`Writer.storeRecord_append`). -/

set_option autoImplicit false
namespace LogRecord

namespace Walk.Succeeds

variable {before : Option Nat} {slots : List Slot} {arguments : List Argument}
  {extents : List Extent} (succeeds : Succeeds before (slots.zip arguments) extents)
  (ordered : DynamicBehindPrecision slots) (other : Option Nat)
include succeeds ordered

/-- What is in force in front of the slots of a format changes the limit of none of them. -/
theorem limit?_eq {place : Nat} {slot : Slot} {argument : Argument}
    (found : (slots.zip arguments)[place]? = some (slot, argument)) :
    slot.limit? (inForce before ((slots.zip arguments).take place)) =
      slot.limit? (inForce other ((slots.zip arguments).take place)) := by
  by_cases dynamic : slot = .text .dynamic
  · subst dynamic
    obtain ⟨star, filler, rfl, filled⟩ := ordered.exists_star found
    obtain ⟨_, -, accepted, -⟩ := succeeds.at_place filled
    obtain ⟨setting, set⟩ := Argument.exists_setting accepted
    rw [inForce_behind_setting filled set before, inForce_behind_setting filled set other]
  · exact Slot.limit?_of_ne_dynamic dynamic _ _

theorem encodings_eq :
    encodings before (slots.zip arguments) = encodings other (slots.zip arguments) := by
  apply mapInForce_congr Argument.encode rfl
  intro place here there found again
  obtain rfl := Option.some.inj (found.symm.trans again)
  exact here.2.encode_congr (succeeds.limit?_eq ordered other found)

theorem exists_other : ∃ extents, Succeeds other (slots.zip arguments) extents := by
  apply exists_succeeds
  intro place slot argument found
  obtain ⟨extent, -, accepted, measured⟩ := succeeds.at_place found
  obtain ⟨valid, fits, -⟩ := Extent.measure_eq_ok_iff.mp measured
  rw [argument.content?_congr (succeeds.limit?_eq ordered other found)] at fits
  exact ⟨accepted, _, Extent.measure_eq_ok_iff.mpr ⟨valid, fits, rfl⟩⟩

end Walk.Succeeds

section
variable {slots others : List Slot} {arguments more : List Argument} {size moreSize : Nat}
  (sized : recordSize slots arguments = .ok size) (moreSized : recordSize others more = .ok moreSize)
  (ordered : DynamicBehindPrecision others)
include sized moreSized ordered

theorem encodings_append_eq :
    encodings none ((slots ++ others).zip (arguments ++ more)) =
      encodings none (slots.zip arguments) ++ encodings none (others.zip more) := by
  obtain ⟨same, -⟩ := recordSize_eq_ok_iff.mp sized
  obtain ⟨-, extents, succeeds, -⟩ := recordSize_eq_ok_iff.mp moreSized
  rw [List.zip_append same, encodings_append, succeeds.encodings_eq ordered]

theorem recordSize_append :
    recordSize (slots ++ others) (arguments ++ more) = .ok (size + moreSize) := by
  have encoded := encodings_append_eq sized moreSized ordered
  obtain ⟨same, ⟨extents, succeeds⟩, total⟩ := recordSize_eq_ok_iff_encodings.mp sized
  obtain ⟨moreSame, ⟨_, later⟩, moreTotal⟩ := recordSize_eq_ok_iff_encodings.mp moreSized
  -- The second walk goes on from what the first has left in force.
  obtain ⟨moreExtents, moreSucceeds⟩ := later.exists_other ordered (inForce none (slots.zip arguments))
  apply recordSize_eq_ok_iff_encodings.mpr
  refine ⟨?_, ⟨extents ++ moreExtents, ?_⟩, ?_⟩
  · rw [List.length_append, List.length_append, same, moreSame]
  · rw [List.zip_append same]
    exact succeeds.append moreSucceeds
  · rw [encoded, List.flatten_append, List.length_append, total, moreTotal]

end

/-- A text of which a statement has a size has no issue. -/
theorem Format.issues_eq_nil_of_recordSize {text : String} {arguments : List Argument} {size : Nat}
    (sized : recordSize (ofString text).slots arguments = .ok size) :
    (ofString text).issues = [] := by
  refine issues_eq_nil_iff_slots.mpr fun (invalid : Slot.invalid ∈ (ofString text).slots) => ?_
  obtain ⟨error, failed⟩ := recordSize_of_invalid invalid arguments
  rw [sized] at failed
  contradiction

namespace Writer

/-- When two statements have records, the statement with both texts and the arguments of both has
the record of the first and then that of the second. -/
theorem storeRecord_append {first second : String} {arguments more : List Argument}
    {size moreSize : Nat} (noNull : 0 ∉ Utf8.bytes first)
    (sized : recordSize (Format.ofString first).slots arguments = .ok size)
    (moreSized : recordSize (Format.ofString second).slots more = .ok moreSize) :
    let slots := (Format.ofString first).slots
    let moreSlots := (Format.ofString second).slots
    let both := (Format.ofString (first ++ second)).slots
    recordSize both (arguments ++ more) = .ok (size + moreSize) ∧
      ∀ out left right : List UInt8, size + moreSize ≤ out.length → size ≤ left.length →
        moreSize ≤ right.length → ∃ buffer leftBuffer rightBuffer,
          (storeRecord both (arguments ++ more)).run.run (.ofFree out) =
            (.ok (size + moreSize), buffer) ∧
          (storeRecord slots arguments).run.run (.ofFree left) = (.ok size, leftBuffer) ∧
          (storeRecord moreSlots more).run.run (.ofFree right) = (.ok moreSize, rightBuffer) ∧
          buffer.contents =
            leftBuffer.contents.take size ++ rightBuffer.contents.take moreSize ++
              out.drop (size + moreSize) := by
  intro slots moreSlots both
  have issues := Format.issues_eq_nil_of_recordSize sized
  have closed : ∀ issue ∈ (Format.ofString first).issues, issue.fault ≠ .unterminated := by
    rw [issues]
    exact List.forall_mem_nil _
  have ordered : DynamicBehindPrecision moreSlots := Format.dynamicBehindPrecision_slots _
  have split : both = slots ++ moreSlots := Format.slots_ofString_append noNull closed second
  have bothSized := recordSize_append sized moreSized ordered
  have encoded := encodings_append_eq sized moreSized ordered
  obtain ⟨-, -, total⟩ := recordSize_eq_ok_iff_encodings.mp sized
  obtain ⟨-, -, moreTotal⟩ := recordSize_eq_ok_iff_encodings.mp moreSized
  rw [split]
  refine ⟨bothSized, fun out left right room leftRoom rightRoom => ?_⟩
  obtain ⟨buffer, stored, contents⟩ := exists_stored bothSized room
  obtain ⟨leftBuffer, leftStored, leftContents⟩ := exists_stored sized leftRoom
  obtain ⟨rightBuffer, rightStored, rightContents⟩ := exists_stored moreSized rightRoom
  refine ⟨buffer, leftBuffer, rightBuffer, stored, leftStored, rightStored, ?_⟩
  rw [contents, leftContents, rightContents, List.take_left' total, List.take_left' moreTotal,
    encoded, List.flatten_append]

theorem storeRecord_append_left_over_precision :
    let integer (value : Int) : Argument := .scalar (.ofInt (.signed .two) value)
    let text : Argument := .narrow 0x1000 [97, 98, 99]
    let arguments := [integer 1, integer 7]
    let more := [text, integer 2, text]
    let both := (Format.ofString ("%.*d" ++ "%s%.*s")).slots
    0 ∉ Utf8.bytes "%.*d" ∧
      recordSize (Format.ofString "%.*d").slots arguments = .ok 4 ∧
      recordSize (Format.ofString "%s%.*s").slots more = .ok 15 ∧
      recordSize both (arguments ++ more) = .ok 19 ∧
      ∃ buffer, (storeRecord both (arguments ++ more)).run.run (.ofFree (List.replicate 20 0xAA)) =
          (.ok 19, buffer) ∧
        buffer.contents =
          [1, 0, 7, 0] ++ [3, 0, 0, 0, 97, 98, 99, 2, 0, 2, 0, 0, 0, 97, 98] ++ [0xAA] := by
  intro integer text arguments more both
  have noNull : 0 ∉ Utf8.bytes "%.*d" := by decide +kernel
  have slots : (Format.ofString "%.*d").slots = [.precision, .value] := by decide +kernel
  have moreSlots : (Format.ofString "%s%.*s").slots =
      [.text .absent, .precision, .text .dynamic] := by
    decide +kernel
  have sized : recordSize (Format.ofString "%.*d").slots arguments = .ok 4 := by
    rw [slots]
    rfl
  have moreSized : recordSize (Format.ofString "%s%.*s").slots more = .ok 15 := by
    rw [moreSlots]
    rfl
  obtain ⟨size, stored⟩ := storeRecord_append noNull sized moreSized
  obtain ⟨buffer, left, right, run, leftRun, rightRun, contents⟩ :=
    stored (List.replicate 20 0xAA) (List.replicate 4 0) (List.replicate 15 0) (by decide)
      (by decide) (by decide)
  refine ⟨noNull, sized, moreSized, size, buffer, run, ?_⟩
  rw [slots] at leftRun
  rw [moreSlots] at rightRun
  obtain rfl := congrArg Prod.snd leftRun
  obtain rfl := congrArg Prod.snd rightRun
  exact contents.trans (by decide)

end Writer
end LogRecord
