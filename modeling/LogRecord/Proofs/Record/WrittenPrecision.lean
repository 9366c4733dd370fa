import LogRecord.Proofs.Format.Acceptance
import LogRecord.Proofs.Format.Concatenation
import LogRecord.Proofs.Record.Refusal
import LogRecord.Proofs.Record.Writing

/-! Precisions that are written, and precisions that are passed.

A number in the digits of a format is held at the largest that a slot can have, and one that is
passed for a `*` is not. No string that has a record is long enough to show the difference, so both
cut it at the same unit (`Format.written_precision_eq_passed`). -/

set_option autoImplicit false
namespace LogRecord

/-! ## Written precisions -/

namespace Grammar

/-- Decimal digits as a text, leading zeros and all. -/
def numeral (digits : List (Fin 10)) : String :=
  String.ofList ((digits.map digitByte).map Char.ofUInt8)

theorem bytes_numeral (digits : List (Fin 10)) :
    Utf8.bytes (numeral digits) = digits.map digitByte :=
  Utf8.bytes_ofList_ofUInt8 <| List.forall_mem_map.mpr fun digit _ =>
    Utf8.ascii_of_standsAlone (standsAlone_digitByte digit)

/-- A text with these digits for its precision. -/
def SpecifierText.ofDigits (digits : List (Fin 10)) : SpecifierText where
  lead := { flags := [], width := .numeral [], precision := .numeral digits, lengths := [] }
  terminal := ⟨'s', by decide⟩
  notPercent := fun same => absurd (List.cons.inj same).1 (by decide)

end Grammar

open Grammar

theorem Format.slots_of_digits (digits : List (Fin 10)) :
    (ofString ("%." ++ numeral digits ++ "s")).slots =
      [.text (PrecisionText.numeral digits).limit] := by
  let text := SpecifierText.ofDigits digits
  have spelled : Utf8.bytes ("%." ++ numeral digits ++ "s") = (Piece.specifier text).bytes := by
    have opening : Utf8.bytes "%." = ['%'.toUInt8, '.'.toUInt8] := by decide +kernel
    have ending : Utf8.bytes "s" = ['s'.toUInt8] := by decide +kernel
    have lead : text.lead.bytes = '.'.toUInt8 :: digits.map digitByte := List.append_nil _
    rw [Utf8.bytes_append, Utf8.bytes_append, bytes_numeral, opening, ending, Piece.bytes,
      SpecifierText.bytes, lead]
    rfl
  have alone := text.lead.standsAlone_directive rfl text.terminal
  have read := (read_pieces [.specifier text] 0).1
  rw [List.flatMap_singleton, List.flatMap_singleton] at read
  rw [ofString_eq_read_of_standsAlone spelled alone]
  exact read

/-! ## The same cut -/

/-- No more units can show than there are. -/
theorem visible_held {α : Type} [BEq α] [OfNat α 0] {units : List α} {unitSize : Nat}
    (positive : 0 < unitSize)
    (whole : (units.takeWhile (· != 0)).length * unitSize < UInt32.size) (limit : Nat) :
    visible (some (min limit (UInt32.size - 1))) units = visible (some limit) units := by
  have short : (units.takeWhile (· != 0)).length ≤ UInt32.size - 1 :=
    Nat.le_pred_of_lt (Nat.lt_of_le_of_lt (Nat.le_mul_of_pos_right _ positive) whole)
  rw [visible, visible, List.take_eq_take_iff, Nat.min_assoc, Nat.min_eq_right short]

theorem Slot.limit?_of_digits (digits : List (Fin 10)) (precision : Option Nat) :
    (Slot.text (PrecisionText.numeral digits).limit).limit? precision =
      some (min (decimal digits) (UInt32.size - 1)) := by
  have held : min (decimal digits) (UInt32.size - 1) < UInt32.size :=
    Nat.lt_of_le_of_lt (Nat.min_le_right _ _) (by decide)
  exact congrArg some (UInt32.toNat_ofNat_of_lt' held)

namespace Argument

variable {string : Argument}

/-- A written number and the same number passed at run time show the same content of a string that
has a record. -/
theorem encode_of_digits (storable : string.IsStorable) (digits : List (Fin 10))
    (precision : Option Nat) :
    string.encode (.text (PrecisionText.numeral digits).limit) precision =
      string.encode (.text .dynamic) (some (decimal digits)) := by
  cases string with
  | scalar _ | pointer _ => rfl
  | narrow address units =>
    have whole : (units.takeWhile (· != 0)).length * 1 < UInt32.size := storable _ rfl
    simp only [encode, Slot.limit?_of_digits, visible_held Nat.one_pos whole]
    rfl
  | wide address units =>
    have whole : (units.takeWhile (· != 0)).length * wideUnitSize < UInt32.size :=
      storable _ rfl
    simp only [encode, Slot.limit?_of_digits, visible_held (by decide) whole]
    rfl

theorem encode_unlimited (string : Argument) (precision : Option Nat) :
    string.encode (.text .absent) precision = string.encode (.text .dynamic) none := by
  cases string <;> rfl

theorem accepts_text (isString : string.category = .narrow ∨ string.category = .wide)
    (limit : Precision) : (Slot.text limit).accepts string = true := by
  cases string with
  | scalar number => cases integer : number.type.isInteger <;> simp [category, integer] at isString
  | pointer _ => simp [category] at isString
  | narrow _ _ | wide _ _ => rfl

end Argument

theorem Scalar.isInteger_of_integer? {number : Scalar} {value : Int}
    (integer : number.integer? = some value) : number.type.isInteger = true := by
  rcases number with ⟨type, bits⟩
  cases type with
  | signed _ | unsigned _ => rfl
  | single | double => contradiction

/-! ## Records -/

namespace Writer

/-- The record has this size, and every buffer with room for it gets these bytes and no others. -/
structure Stores (slots : List Slot) (arguments : List Argument) (record : List UInt8) : Prop where
  sized : recordSize slots arguments = .ok record.length
  stored : ∀ out : List UInt8, record.length ≤ out.length →
    ∃ buffer, (storeRecord slots arguments).run.run (.ofFree out) = (.ok record.length, buffer) ∧
      buffer.contents = record ++ out.drop record.length

theorem stores_encodings {slots : List Slot} {arguments : List Argument}
    (same : slots.length = arguments.length)
    (accepted : ∀ pair ∈ slots.zip arguments, pair.1.accepts pair.2 = true)
    (storable : ∀ argument ∈ arguments, argument.IsStorable) :
    Stores slots arguments (encodings none (slots.zip arguments)).flatten := by
  have succeeds : ∃ extents, Walk.Succeeds none (slots.zip arguments) extents := by
    apply Walk.exists_succeeds
    intro place slot argument found
    have inside := List.mem_of_getElem? found
    obtain ⟨extent, item⟩ := Walk.item_of_accepts place
      (inForce none ((slots.zip arguments).take place))
      (storable argument (List.of_mem_zip inside).2) (accepted _ inside)
    obtain ⟨here, measured⟩ := Walk.item_eq_ok_iff.mp item
    exact ⟨here, extent, measured⟩
  have sized := recordSize_eq_ok_iff_encodings.mpr ⟨same, succeeds, rfl⟩
  exact ⟨sized, fun out room => exists_stored sized room⟩

section
variable {string : Argument} (isString : string.category = .narrow ∨ string.category = .wide)
  (storable : string.IsStorable)
include isString storable

theorem stores_text (limit : Precision) :
    Stores [.text limit] [string] (string.encode (.text limit) none) := by
  have stored : Stores [.text limit] [string] _ :=
    stores_encodings rfl (List.forall_mem_singleton.mpr (Argument.accepts_text isString limit))
      (List.forall_mem_singleton.mpr storable)
  rw [List.zip_cons_cons, List.zip_nil_left, encodings_cons, encodings_nil,
    List.flatten_singleton] at stored
  exact stored

theorem stores_star {number : Scalar} {value : Int} (integer : number.integer? = some value) :
    Stores [.precision, .text .dynamic] [.scalar number, string]
      (number.encode ++
        string.encode (.text .dynamic) (if 0 ≤ value then some value.toNat else none)) := by
  have isInteger := Scalar.isInteger_of_integer? integer
  have sets : (Argument.scalar number).setting? .precision = some number.precision? :=
    if_pos ⟨rfl, isInteger⟩
  have stored : Stores [.precision, .text .dynamic] [.scalar number, string] _ :=
    stores_encodings rfl
      (List.forall_mem_cons.mpr ⟨isInteger, List.forall_mem_singleton.mpr
        (Argument.accepts_text isString .dynamic)⟩)
      (List.forall_mem_cons.mpr ⟨nofun, List.forall_mem_singleton.mpr storable⟩)
  rw [List.zip_cons_cons, List.zip_cons_cons, List.zip_nil_left, encodings_cons, encodings_cons,
    encodings_nil, List.flatten_cons, List.flatten_singleton, sets, Option.getD_some,
    Scalar.precision?_of_integer integer] at stored
  exact stored

end
end Writer

/-- A statement of one text, and a statement with a number for the precision of the same one.
Behind the number both records hold the same bytes. -/
def SameTextStored (slots : List Slot) (number : Scalar) (string : Argument) : Prop :=
  ∃ size bytes, recordSize slots [string] = .ok size ∧
    recordSize (Format.ofString "%.*s").slots [.scalar number, string] =
      .ok (number.type.bytes + size) ∧
    Writer.Stores slots [string] bytes ∧
    Writer.Stores (Format.ofString "%.*s").slots [.scalar number, string] (number.encode ++ bytes)

theorem SameTextStored.of_encode {limit : Precision} {slots : List Slot} {number : Scalar}
    {value : Int} {string : Argument}
    (isString : string.category = .narrow ∨ string.category = .wide)
    (storable : string.IsStorable) (integer : number.integer? = some value)
    (written : slots = [.text limit])
    (same : string.encode (.text limit) none =
      string.encode (.text .dynamic) (if 0 ≤ value then some value.toNat else none)) :
    SameTextStored slots number string := by
  have dynamic : (Format.ofString "%.*s").slots = [.precision, .text .dynamic] := by
    decide +kernel
  have alone := Writer.stores_text isString storable limit
  have starred := Writer.stores_star isString storable integer
  rw [← written] at alone
  rw [← dynamic, ← same] at starred
  refine ⟨_, _, alone.sized, ?_, alone, starred⟩
  rw [starred.sized, List.length_append, Scalar.length_encode]

/-- A precision in decimal digits, with any leading zeros, and the same number passed for a `*` give
records of one text that hold the same bytes of it. A number below zero passed for a `*` gives what
no precision gives. Between the bound of a written precision and the largest number that can be
passed only the first is held, and this does not show. -/
theorem Format.written_precision_eq_passed {number : Scalar} {value : Int} {string : Argument}
    (integer : number.integer? = some value)
    (isString : string.category = .narrow ∨ string.category = .wide)
    (storable : string.IsStorable) :
    (∀ digits, (decimal digits : Int) = value →
      SameTextStored (ofString ("%." ++ numeral digits ++ "s")).slots number string) ∧
    (value < 0 → SameTextStored (ofString "%s").slots number string) := by
  constructor
  · rintro digits rfl
    refine .of_encode isString storable integer (slots_of_digits digits) ?_
    rw [Argument.encode_of_digits storable, if_pos (Int.natCast_nonneg _), Int.toNat_natCast]
  · intro negative
    have whole : (ofString "%s").slots = [.text .absent] := by decide +kernel
    refine .of_encode isString storable integer whole ?_
    rw [string.encode_unlimited, if_neg (Int.not_le.mpr negative)]

theorem Format.written_precision_eq_passed_beyond_bound :
    let digits : List (Fin 10) := [0, 0, 4, 2, 9, 4, 9, 6, 7, 2, 9, 6]
    let number : Scalar := .ofInt (.unsigned .eight) 4294967296
    let negative : Scalar := .ofInt (.signed .one) (-1)
    let string : Argument := .wide 0x1000 [97, 98, 0, 99]
    let isString := string.category = .narrow ∨ string.category = .wide
    number.integer? = some 4294967296 ∧ negative.integer? = some (-1) ∧ isString ∧
      string.IsStorable ∧ numeral digits = "004294967296" ∧
      (ofString "%.004294967296s").slots = [.text (.fixed 4294967295)] ∧
      SameTextStored (ofString "%.004294967296s").slots number string ∧
      SameTextStored (ofString "%s").slots negative string := by
  intro digits number negative string isString
  have integer : number.integer? = some 4294967296 := by rfl
  have negativeInteger : negative.integer? = some (-1) := by rfl
  have wide : isString := .inr rfl
  have storable : string.IsStorable := by decide
  have spelled : numeral digits = "004294967296" := by decide +kernel
  have written := (written_precision_eq_passed integer wide storable).1 digits (by decide +kernel)
  rw [spelled] at written
  exact ⟨integer, negativeInteger, wide, storable, spelled, by decide +kernel, written,
    (written_precision_eq_passed negativeInteger wide storable).2 (by decide)⟩

end LogRecord
