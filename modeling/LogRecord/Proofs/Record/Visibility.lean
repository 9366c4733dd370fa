import LogRecord.Proofs.Record.Writing

/-! Nothing hidden gets into a record.

Of a string in a text slot a record shows the units before the terminator, up to the limit of the
slot. Two statements that differ only in units that do not show have the same size, the same failure
and the same record, whatever the buffers held before (`Writer.storeRecord_hides`). -/

set_option autoImplicit false
namespace LogRecord

/-- Equal arguments, or strings of a kind in a text slot that show the same units there. -/
inductive Argument.VisiblyEqual (slot : Slot) (precision : Option Nat) :
    Argument → Argument → Prop where
  | same {argument : Argument} : VisiblyEqual slot precision argument argument
  | narrow {address other : UInt64} {units others : List UInt8} :
      slot.isText = true →
      visible (slot.limit? precision) units = visible (slot.limit? precision) others →
      VisiblyEqual slot precision (.narrow address units) (.narrow other others)
  | wide {address other : UInt64} {units others : List UInt32} :
      slot.isText = true →
      visible (slot.limit? precision) units = visible (slot.limit? precision) others →
      VisiblyEqual slot precision (.wide address units) (.wide other others)

namespace Argument.VisiblyEqual

variable {slot : Slot} {precision : Option Nat} {argument other : Argument}
  (equal : argument.VisiblyEqual slot precision other)
include equal

theorem setting?_eq : argument.setting? slot = other.setting? slot := by
  cases equal <;> rfl

theorem category_eq : argument.category = other.category := by
  cases equal <;> rfl

theorem accepts_eq : slot.accepts argument = slot.accepts other := by
  cases equal with
  | same => rfl
  | narrow _ _ | wide _ _ => cases slot <;> rfl

theorem encode_eq : argument.encode slot precision = other.encode slot precision := by
  cases equal with
  | same => rfl
  | narrow isText visible | wide isText visible =>
    simp only [encode, if_pos isText, visible]

theorem measure_eq :
    Extent.measure slot precision argument = Extent.measure slot precision other := by
  cases equal with
  | same => rfl
  | narrow isText visible | wide isText visible =>
    simp only [Extent.measure, if_pos isText, ← length_visible, visible]

theorem item_eq (index : Nat) :
    Walk.item index precision slot argument = Walk.item index precision slot other := by
  rw [Walk.item, Walk.item, equal.accepts_eq, equal.category_eq, equal.measure_eq]

end Argument.VisiblyEqual

/-- The arguments are visibly equal in each slot, under the precision in force there. -/
structure VisiblyEqual (slots : List Slot) (arguments others : List Argument) : Prop where
  length : arguments.length = others.length
  each : ∀ (place : Nat) (slot : Slot) (argument other : Argument), slots[place]? = some slot →
    arguments[place]? = some argument → others[place]? = some other →
    argument.VisiblyEqual slot (inForce none ((slots.zip arguments).take place)) other

namespace VisiblyEqual

variable {slots : List Slot} {arguments others : List Argument}
  (equal : VisiblyEqual slots arguments others)
include equal

theorem length_zip : (slots.zip arguments).length = (slots.zip others).length := by
  rw [List.length_zip, List.length_zip, equal.length]

theorem each_pair {place : Nat} {here there : Slot × Argument}
    (found : (slots.zip arguments)[place]? = some here)
    (foundThere : (slots.zip others)[place]? = some there) :
    here.1 = there.1 ∧
      here.2.VisiblyEqual here.1 (inForce none ((slots.zip arguments).take place)) there.2 := by
  obtain ⟨slotHere, argumentHere⟩ := List.getElem?_zip_eq_some.mp found
  obtain ⟨slotThere, otherThere⟩ := List.getElem?_zip_eq_some.mp foundThere
  exact ⟨Option.some.inj (slotHere.symm.trans slotThere),
    equal.each place _ _ _ slotHere argumentHere otherThere⟩

/-- A string in a text slot sets no precision, so both statements run under the same ones. -/
theorem inForce_take (place : Nat) :
    inForce none ((slots.zip arguments).take place) =
      inForce none ((slots.zip others).take place) := by
  apply inForce_congr
  · rw [List.length_take, List.length_take, equal.length_zip]
  · intro earlier here there found foundThere
    rw [List.getElem?_take, Option.ite_none_right_eq_some] at found foundThere
    obtain ⟨slot, same⟩ := equal.each_pair found.2 foundThere.2
    rw [← slot, same.setting?_eq]

theorem recordSize_eq : recordSize slots arguments = recordSize slots others := by
  have items : Walk.items { pending := slots.zip arguments, index := 0, precision := none } =
      Walk.items { pending := slots.zip others, index := 0, precision := none } := by
    rw [Walk.items_eq_mapIdx, Walk.items_eq_mapIdx]
    apply mapIdx_congr equal.length_zip
    intro place here there found foundThere
    obtain ⟨slot, same⟩ := equal.each_pair found foundThere
    rw [← slot, ← equal.inForce_take, same.item_eq]
  unfold recordSize Walk.start
  rw [equal.length]
  split
  · simp only [bind, Except.bind, items]
  · rfl

theorem encodings_eq :
    encodings none (slots.zip arguments) = encodings none (slots.zip others) := by
  apply mapInForce_congr Argument.encode equal.length_zip
  intro place here there found foundThere
  obtain ⟨slot, same⟩ := equal.each_pair found foundThere
  rw [← slot, ← equal.inForce_take, same.encode_eq]

end VisiblyEqual

namespace Writer

/-- Statements that are visibly equal have the same size or the same failure, and are stored with
the same answer in buffers of one length. The bytes of a record are the same in both buffers, and
behind them each buffer is as it was. -/
theorem storeRecord_hides {slots : List Slot} {arguments others : List Argument}
    {out otherOut : List UInt8} (equal : VisiblyEqual slots arguments others)
    (length : out.length = otherOut.length) :
    let stored := (storeRecord slots arguments).run.run (.ofFree out)
    let otherStored := (storeRecord slots others).run.run (.ofFree otherOut)
    recordSize slots arguments = recordSize slots others ∧ stored.1 = otherStored.1 ∧
      ∀ size, stored.1 = .ok size → ∃ record : List UInt8, record.length = size ∧
        stored.2.contents = record ++ out.drop size ∧
        otherStored.2.contents = record ++ otherOut.drop size := by
  intro stored otherStored
  have sized := equal.recordSize_eq
  have free : (Buffer.ofFree out).free.length = (Buffer.ofFree otherOut).free.length := length
  have answers : stored.1 = otherStored.1 := by
    rw [run_storeRecord_fst, run_storeRecord_fst, sized, free]
  refine ⟨sized, answers, fun size answered => ?_⟩
  have run : stored = (.ok size, stored.2) := Prod.ext answered rfl
  have otherRun : otherStored = (.ok size, otherStored.2) :=
    Prod.ext (answers.symm.trans answered) rfl
  obtain ⟨here, -, -⟩ := run_storeRecord_eq_ok_iff.mp run
  obtain ⟨-, -, total⟩ := recordSize_eq_ok_iff_encodings.mp here
  refine ⟨_, total, contents_of_stored run, ?_⟩
  rw [contents_of_stored otherRun, equal.encodings_eq]

theorem storeRecord_hides_cut_text :
    let slots : List Slot := [.precision, .text .dynamic, .text .absent, .text (.fixed 1)]
    let two : Argument := .scalar (.ofInt (.signed .two) 2)
    let arguments : List Argument :=
      [two, .narrow 0x1000 [97, 98, 99], .narrow 0x2000 [97, 0, 98], .wide 0x3000 [0x1F600, 1]]
    let others : List Argument :=
      [two, .narrow 0x4000 [97, 98, 0, 99, 100], .narrow 0x5000 [97], .wide 0x6000 [0x1F600, 2, 3]]
    let out := List.replicate 21 0xAA
    let otherOut := List.replicate 21 0xBB
    VisiblyEqual slots arguments others ∧ out.length = otherOut.length ∧
      ((storeRecord slots arguments).run.run (.ofFree out)).1 = .ok 21 ∧
      ((storeRecord slots arguments).run.run (.ofFree out)).2.contents =
        ((storeRecord slots others).run.run (.ofFree otherOut)).2.contents := by
  intro slots two arguments others out otherOut
  have equal : VisiblyEqual slots arguments others := by
    refine ⟨rfl, ?_⟩
    intro place slot argument other slotHere argumentHere otherHere
    have inside : place < 4 := (List.getElem?_eq_some_iff.mp slotHere).1
    obtain rfl | rfl | rfl | rfl : place = 0 ∨ place = 1 ∨ place = 2 ∨ place = 3 := by omega
    all_goals
      obtain rfl := Option.some.inj slotHere
      obtain rfl := Option.some.inj argumentHere
      obtain rfl := Option.some.inj otherHere
    · exact .same
    · exact .narrow rfl (by decide)
    · exact .narrow rfl (by decide)
    · exact .wide rfl (by decide)
  have length : out.length = otherOut.length := rfl
  have answered : ((storeRecord slots arguments).run.run (.ofFree out)).1 = .ok 21 := by rfl
  obtain ⟨-, -, same⟩ := storeRecord_hides equal length
  obtain ⟨record, whole, contents, otherContents⟩ := same 21 answered
  refine ⟨equal, length, answered, ?_⟩
  rw [contents, otherContents]
  rfl

end Writer
end LogRecord
