import LogRecord.Proofs.Record.ReadingBack
import Mathlib.Data.List.Forall2

/-! A record can be read in one way only.

The kinds of the arguments fix the shapes of the fields, and a reader by the shapes finds the same
fields in a record and in any longer one that starts with it. So no record is a proper prefix of
another, and a record determines whatever its statement shows
(`Writer.storeRecord_uniquely_decodable`). -/

set_option autoImplicit false
namespace LogRecord

/-- Numbers of one type, two addresses, or two strings with units of one width. -/
inductive Argument.SameKind : Argument → Argument → Prop where
  | scalar {type : NumberType} {bits others : BitVec (8 * type.bytes)} :
      SameKind (.scalar ⟨type, bits⟩) (.scalar ⟨type, others⟩)
  | pointer {address other : UInt64} : SameKind (.pointer address) (.pointer other)
  | narrow {address other : UInt64} {units others : List UInt8} :
      SameKind (.narrow address units) (.narrow other others)
  | wide {address other : UInt64} {units others : List UInt32} :
      SameKind (.wide address units) (.wide other others)

/-- Arguments of which a slot stores the same: a number, an address, or in a text slot the units of
a string up to its cut. In any other slot a string is stored by its address. -/
inductive Argument.StoredAlike (slot : Slot) (precision : Option Nat) :
    Argument → Argument → Prop where
  | scalar {number : Scalar} : StoredAlike slot precision (.scalar number) (.scalar number)
  | pointer {address : UInt64} : StoredAlike slot precision (.pointer address) (.pointer address)
  | narrow {address other : UInt64} {units others : List UInt8} {limit : Option Nat} {count : Nat} :
      slot.HasLimit precision limit → IsCut limit units count → IsCut limit others count →
      units.take count = others.take count →
      StoredAlike slot precision (.narrow address units) (.narrow other others)
  | wide {address other : UInt64} {units others : List UInt32} {limit : Option Nat} {count : Nat} :
      slot.HasLimit precision limit → IsCut limit units count → IsCut limit others count →
      units.take count = others.take count →
      StoredAlike slot precision (.wide address units) (.wide other others)
  | narrowAddress {address : UInt64} {units others : List UInt8} :
      slot.isText = false →
      StoredAlike slot precision (.narrow address units) (.narrow address others)
  | wideAddress {address : UInt64} {units others : List UInt32} :
      slot.isText = false →
      StoredAlike slot precision (.wide address units) (.wide address others)

namespace Argument.SameKind

variable {argument other : Argument} (alike : argument.SameKind other) (slot : Slot)
include alike

theorem shape_eq : argument.shape slot = other.shape slot := by
  cases alike <;> rfl

/-- Arguments of a kind that are found as the same field are stored alike. -/
theorem storedAlike {slot : Slot} {precision : Option Nat} {field otherField : Field}
    (found : argument.FoundAs slot precision field)
    (otherFound : other.FoundAs slot precision otherField) (same : field = otherField) :
    argument.StoredAlike slot precision other := by
  cases alike with
  | scalar =>
    cases found
    cases otherFound
    obtain rfl := BitVec.eq_of_toNat_eq (Field.number.inj same)
    exact .scalar
  | pointer =>
    cases found
    cases otherFound
    obtain rfl := Field.address.inj same
    exact .pointer
  | narrow =>
    cases found with
    | narrowAddress notText =>
      cases otherFound with
      | narrowAddress _ =>
        obtain rfl := Field.address.inj same
        exact .narrowAddress notText
      | narrow _ _ => contradiction
    | narrow limit cut =>
      cases otherFound with
      | narrowAddress _ => contradiction
      | narrow otherLimit otherCut =>
        obtain rfl := limit.unique otherLimit
        have content := Field.narrow.inj same
        obtain rfl := cut.count_eq_of_take_eq otherCut content
        exact .narrow limit cut otherCut content
  | wide =>
    cases found with
    | wideAddress notText =>
      cases otherFound with
      | wideAddress _ =>
        obtain rfl := Field.address.inj same
        exact .wideAddress notText
      | wide _ _ => contradiction
    | wide limit cut =>
      cases otherFound with
      | wideAddress _ => contradiction
      | wide otherLimit otherCut =>
        obtain rfl := limit.unique otherLimit
        have content := Field.wide.inj same
        obtain rfl := cut.count_eq_of_take_eq otherCut content
        exact .wide limit cut otherCut content

end Argument.SameKind

theorem Argument.StoredAlike.setting?_eq {slot : Slot} {precision : Option Nat}
    {argument other : Argument} (alike : argument.StoredAlike slot precision other) :
    argument.setting? slot = other.setting? slot := by
  cases alike <;> rfl

theorem shapes_zip_congr {arguments others : List Argument}
    (alike : List.Forall₂ Argument.SameKind arguments others) (slots : List Slot) :
    shapes (slots.zip arguments) = shapes (slots.zip others) := by
  induction alike generalizing slots with
  | nil => rfl
  | cons here _ ih =>
    cases slots with
    | nil => rfl
    | cons slot slots =>
      simp only [shapes, List.zip_cons_cons, List.map_cons, here.shape_eq slot] at ih ⊢
      rw [ih slots]

-- The precision in front of the pairs is the same in both runs, and stays so behind each field that
-- is the same; only then do the fields of dynamic texts compare what is cut alike.
theorem storedAlike_of_fieldsOf {before : Option Nat} {slots : List Slot}
    {arguments others : List Argument} {fields : List Field}
    (alike : List.Forall₂ Argument.SameKind arguments others)
    (fieldsOf : FieldsOf before (slots.zip arguments) fields)
    (otherFieldsOf : FieldsOf before (slots.zip others) fields)
    {place : Nat} {slot : Slot} {argument other : Argument} (slotHere : slots[place]? = some slot)
    (argumentHere : arguments[place]? = some argument) (otherHere : others[place]? = some other) :
    inForce before ((slots.zip arguments).take place) =
        inForce before ((slots.zip others).take place) ∧
      argument.StoredAlike slot (inForce before ((slots.zip arguments).take place)) other := by
  induction alike generalizing before slots fields place with
  | nil => contradiction
  | cons here _ ih =>
    cases slots with
    | nil => contradiction
    | cons first slots =>
      rw [List.zip_cons_cons] at fieldsOf otherFieldsOf
      cases fieldsOf with
      | step found later =>
        cases otherFieldsOf with
        | step otherFound otherLater =>
          have stored := here.storedAlike found otherFound rfl
          cases place with
          | zero =>
            obtain rfl := Option.some.inj slotHere
            obtain rfl := Option.some.inj argumentHere
            obtain rfl := Option.some.inj otherHere
            exact ⟨rfl, stored⟩
          | succ place =>
            rw [stored.setting?_eq] at later
            simp only [List.zip_cons_cons, List.take_succ_cons, inForce_cons, stored.setting?_eq]
            exact ih later otherLater slotHere argumentHere otherHere

/-- When the record of one walk starts that of another with the same shapes, they are one record
with the same fields. -/
theorem Walk.Succeeds.eq_of_prefix {before : Option Nat} {pairs others : List (Slot × Argument)}
    {extents otherExtents : List Extent} (succeeds : Succeeds before pairs extents)
    (otherSucceeds : Succeeds before others otherExtents) (shaped : shapes pairs = shapes others)
    (starts : (encodings before pairs).flatten <+: (encodings before others).flatten) :
    (encodings before pairs).flatten = (encodings before others).flatten ∧
      ∃ fields, FieldsOf before pairs fields ∧ FieldsOf before others fields := by
  obtain ⟨tail, whole⟩ := starts
  obtain ⟨fields, fieldsOf⟩ := exists_fieldsOf before pairs
  obtain ⟨otherFields, otherFieldsOf⟩ := exists_fieldsOf before others
  have read := succeeds.readRecord fieldsOf tail
  have otherRead := otherSucceeds.readRecord otherFieldsOf []
  rw [List.append_nil, ← whole, ← shaped, read] at otherRead
  obtain ⟨rfl, length⟩ := Prod.mk.inj (Option.some.inj otherRead)
  have nothing : tail = [] := by
    rw [List.length_append] at length
    exact List.eq_nil_of_length_eq_zero (by omega)
  rw [nothing, List.append_nil] at whole
  exact ⟨whole, fields, fieldsOf, otherFieldsOf⟩

namespace Writer

theorem record_of_stored {slots : List Slot} {arguments : List Argument} {out : List UInt8}
    {size : Nat} {buffer : Buffer}
    (stored : (storeRecord slots arguments).run.run (.ofFree out) = (.ok size, buffer)) :
    buffer.contents.take size = (encodings none (slots.zip arguments)).flatten ∧
      (buffer.contents.take size).length = size ∧
      ∃ extents, Walk.Succeeds none (slots.zip arguments) extents := by
  obtain ⟨sized, -, -⟩ := run_storeRecord_eq_ok_iff.mp stored
  obtain ⟨-, succeeds, total⟩ := recordSize_eq_ok_iff_encodings.mp sized
  rw [contents_of_stored stored, List.take_left' total]
  exact ⟨rfl, total, succeeds⟩

/-- Of two statements of a format with arguments of the same kinds, the record of one starts with
that of the other only when the records are equal. Then the numbers and the addresses are the same,
the same precision is in force at each slot, and strings in a text slot are cut at the same count of
units and have the same units in front of it. -/
theorem storeRecord_uniquely_decodable {slots : List Slot} {arguments others : List Argument}
    {out otherOut : List UInt8} {size otherSize : Nat} {buffer otherBuffer : Buffer}
    (stored : (storeRecord slots arguments).run.run (.ofFree out) = (.ok size, buffer))
    (otherStored :
      (storeRecord slots others).run.run (.ofFree otherOut) = (.ok otherSize, otherBuffer))
    (alike : List.Forall₂ Argument.SameKind arguments others)
    (starts : buffer.contents.take size <+: otherBuffer.contents.take otherSize) :
    buffer.contents.take size = otherBuffer.contents.take otherSize ∧ size = otherSize ∧
      ∀ (place : Nat) (slot : Slot) (argument other : Argument), slots[place]? = some slot →
        arguments[place]? = some argument → others[place]? = some other →
        inForce none ((slots.zip arguments).take place) =
            inForce none ((slots.zip others).take place) ∧
          argument.StoredAlike slot (inForce none ((slots.zip arguments).take place)) other := by
  obtain ⟨record, length, extents, succeeds⟩ := record_of_stored stored
  obtain ⟨otherRecord, otherLength, otherExtents, otherSucceeds⟩ := record_of_stored otherStored
  rw [record, otherRecord] at starts
  obtain ⟨equal, fields, fieldsOf, otherFieldsOf⟩ :=
    succeeds.eq_of_prefix otherSucceeds (shapes_zip_congr alike slots) starts
  refine ⟨by rw [record, otherRecord, equal], ?_, ?_⟩
  · rw [← length, ← otherLength, record, otherRecord, equal]
  · intro place slot argument other slotHere argumentHere otherHere
    exact storedAlike_of_fieldsOf alike fieldsOf otherFieldsOf slotHere argumentHere otherHere

/-- One text is cut by the dynamic precision and the other ends at its terminator. -/
theorem storeRecord_uniquely_decodable_cut_text :
    let slots : List Slot := [.precision, .text .dynamic, .value]
    let two : Argument := .scalar (.ofInt (.signed .two) 2)
    let cut : List UInt8 := [97, 98, 99]
    let ended : List UInt8 := [97, 98, 0, 100]
    let arguments := [two, .narrow 0x1000 cut, .wide 0x2000 [97]]
    let others := [two, .narrow 0x3000 ended, .wide 0x2000 []]
    let stored := (storeRecord slots arguments).run.run (.ofFree (List.replicate 17 0xAA))
    let otherStored := (storeRecord slots others).run.run (.ofFree (List.replicate 16 0xBB))
    stored.1 = .ok 16 ∧ otherStored.1 = .ok 16 ∧
      List.Forall₂ Argument.SameKind arguments others ∧
      stored.2.contents.take 16 <+: otherStored.2.contents.take 16 ∧
      inForce none ((slots.zip arguments).take 1) = some 2 ∧
      ∃ count, IsCut (some 2) cut count ∧ IsCut (some 2) ended count ∧
        cut.take count = ended.take count ∧ ended.take count = [97, 98] := by
  intro slots two cut ended arguments others stored otherStored
  have answered : stored.1 = .ok 16 := by rfl
  have otherAnswered : otherStored.1 = .ok 16 := by rfl
  have run : stored = (.ok 16, stored.2) := Prod.ext answered rfl
  have otherRun : otherStored = (.ok 16, otherStored.2) := Prod.ext otherAnswered rfl
  have alike : List.Forall₂ Argument.SameKind arguments others :=
    .cons .scalar (.cons .narrow (.cons .wide .nil))
  have starts : stored.2.contents.take 16 <+: otherStored.2.contents.take 16 := by
    rw [(record_of_stored run).1, (record_of_stored otherRun).1]
    decide
  obtain ⟨-, -, same⟩ := storeRecord_uniquely_decodable run otherRun alike starts
  refine ⟨answered, otherAnswered, alike, starts, rfl, ?_⟩
  cases (same 1 _ _ _ rfl rfl rfl).2 with
  | narrow limit cutHere endedHere content =>
    obtain rfl := limit.unique .dynamic
    exact ⟨_, cutHere, endedHere, content, congrArg (ended.take ·) endedHere⟩

end Writer
end LogRecord
