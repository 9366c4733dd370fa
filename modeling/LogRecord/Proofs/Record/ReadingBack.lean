import LogRecord.Proofs.Record.Layout
import LogRecord.Record.Reader
import Mathlib.Data.List.Basic

/-! Stored records read back.

Each reader accepts exactly the data that starts with the bytes stored for what it finds. A walk by
the shapes alone therefore stays in step with the writer, whatever stands behind the record
(`Writer.storeRecord_reads_back`). What it must find is told by the arguments and their slots
(`FieldsOf`), without the encoding. -/

set_option autoImplicit false
namespace LogRecord

/-! ## Numbers -/

theorem LittleEndian.toNat_lt_capacity {width : Nat} (bits : BitVec (8 * width)) :
    bits.toNat < capacity width := by
  have powers : ∀ width, capacity width = 2 ^ (8 * width) := by
    intro width
    induction width with
    | zero => rfl
    | succ width ih => rw [capacity, ih, Nat.mul_succ, Nat.pow_add, Nat.mul_comm]
  rw [powers]
  exact bits.isLt

-- An exact account of each reader; the readers of strings and fields rest on the one of numbers.
theorem readNumber_eq_some_iff {count : Nat} {data : List UInt8} {number : Nat} :
    readNumber count data = some number ↔
      number < LittleEndian.capacity count ∧ LittleEndian.encode count number <+: data := by
  unfold readNumber
  constructor
  · intro read
    split at read
    next => contradiction
    next enough =>
      obtain rfl := Option.some.inj read
      have length := List.length_take_of_le (Nat.not_lt.mp enough)
      have bound := LittleEndian.decode_lt (data.take count)
      have back := LittleEndian.encode_decode (data.take count)
      rw [length] at bound back
      rw [back]
      exact ⟨bound, List.take_prefix count data⟩
  · rintro ⟨bound, tail, rfl⟩
    have length := LittleEndian.length_encode count number
    rw [if_neg (by rw [List.length_append]; omega), List.take_left' length,
      LittleEndian.decode_encode_of_lt bound]

/-! ## Stored strings -/

theorem readNarrow_eq_some_iff {data : List UInt8} {stored : Stored UInt8} :
    readNarrow data = some stored ↔
      stored.content.length < LittleEndian.capacity lengthSize ∧
        encodeContent stored.content <+: data ∧
        stored.consumed = (encodeContent stored.content).length := by
  rcases stored with ⟨content, consumed⟩
  rw [length_encodeContent]
  constructor
  · intro read
    unfold readNarrow at read
    split at read
    next => contradiction
    next enough =>
      have number : readNumber lengthSize data = some _ := if_neg enough
      obtain ⟨bound, rest, whole⟩ := readNumber_eq_some_iff.mp number
      generalize LittleEndian.decode (data.take lengthSize) = length at *
      subst whole
      rw [List.drop_left' (LittleEndian.length_encode _ _)] at read
      simp only [Option.ite_none_left_eq_some, Option.some.injEq, Stored.mk.injEq] at read
      obtain ⟨long, rfl, rfl⟩ := read
      have same : (rest.take length).length = length := by
        have := List.length_take_le length rest
        omega
      rw [encodeContent, same, List.prefix_append_right_inj]
      exact ⟨bound, List.take_prefix length rest, rfl⟩
  · rintro ⟨bound, ⟨tail, rfl⟩, consumed⟩
    have length := LittleEndian.length_encode lengthSize content.length
    have long : ¬ (encodeContent content ++ tail).length < lengthSize := by
      rw [List.length_append, length_encodeContent]
      omega
    have front : (content ++ tail).take content.length = content := List.take_left' rfl
    unfold readNarrow
    rw [if_neg long, encodeContent, List.append_assoc, List.take_left' length,
      List.drop_left' length, LittleEndian.decode_encode_of_lt bound]
    simp only [front, Nat.lt_irrefl, if_false]
    exact congrArg (fun size => some (Stored.mk content size)) consumed.symm

theorem decodeUnits_encodeUnits (units : List UInt32) :
    decodeUnits (encodeUnits units) = units := by
  induction units with
  | nil => rfl
  | cons unit units ih =>
    have fits : unit.toNat < LittleEndian.capacity wideUnitSize := unit.toNat_lt
    have here := LittleEndian.decode_encode_of_lt fits
    rw [encodeUnits, List.flatMap_cons, ← encodeUnits]
    change UInt32.ofNat (LittleEndian.decode (LittleEndian.encode wideUnitSize unit.toNat)) ::
      decodeUnits (encodeUnits units) = _
    rw [here, ih, UInt32.ofNat_toNat]

theorem encodeUnits_decodeUnits {data : List UInt8} (whole : data.length % wideUnitSize = 0) :
    encodeUnits (decodeUnits data) = data := by
  -- Fewer than four bytes are no whole unit, so only the empty list ends the recursion.
  induction data using decodeUnits.induct with
  | case1 first second third fourth rest ih =>
    have here := LittleEndian.encode_decode [first, second, third, fourth]
    have bound : LittleEndian.decode [first, second, third, fourth] < UInt32.size :=
      LittleEndian.decode_lt [first, second, third, fourth]
    have later : rest.length % wideUnitSize = 0 := by
      simp only [List.length_cons, wideUnitSize] at whole ⊢
      omega
    rw [decodeUnits, encodeUnits, List.flatMap_cons, ← encodeUnits, ih later,
      UInt32.toNat_ofNat_of_lt' bound]
    exact congrArg (· ++ rest) here
  | case2 data few =>
    rcases data with _ | ⟨first, _ | ⟨second, _ | ⟨third, _ | ⟨fourth, rest⟩⟩⟩⟩
    · rfl
    · contradiction
    · contradiction
    · contradiction
    · exact absurd rfl (few first second third fourth rest)

theorem readWide_eq_some_iff {data : List UInt8} {stored : Stored UInt32} :
    readWide data = some stored ↔
      (encodeUnits stored.content).length < LittleEndian.capacity lengthSize ∧
        encodeContent (encodeUnits stored.content) <+: data ∧
        stored.consumed = (encodeContent (encodeUnits stored.content)).length := by
  rcases stored with ⟨content, consumed⟩
  unfold readWide
  constructor
  · intro read
    obtain ⟨narrow, found, wide⟩ := Option.bind_eq_some_iff.mp read
    split at wide
    next whole =>
      obtain ⟨rfl, rfl⟩ := Stored.mk.inj (Option.some.inj wide)
      rw [encodeUnits_decodeUnits whole]
      exact readNarrow_eq_some_iff.mp found
    next => contradiction
  · intro starts
    have found : readNarrow data = some { content := encodeUnits content, consumed } :=
      readNarrow_eq_some_iff.mpr starts
    rw [found]
    change (if (encodeUnits content).length % wideUnitSize = 0 then some _ else none) = _
    rw [length_encodeUnits, Nat.mul_mod_left, if_pos rfl, decodeUnits_encodeUnits]

/-! ## Fields -/

/-- What a reader finds of an argument: the bits of a number, the units of a string up to its cut in
a text slot, and an address otherwise. -/
inductive Argument.FoundAs (slot : Slot) (precision : Option Nat) : Argument → Field → Prop where
  | scalar {number : Scalar} :
      FoundAs slot precision (.scalar number) (.number number.bits.toNat)
  | pointer {address : UInt64} : FoundAs slot precision (.pointer address) (.address address)
  | narrowAddress {address : UInt64} {units : List UInt8} : slot.isText = false →
      FoundAs slot precision (.narrow address units) (.address address)
  | wideAddress {address : UInt64} {units : List UInt32} : slot.isText = false →
      FoundAs slot precision (.wide address units) (.address address)
  | narrow {address : UInt64} {units : List UInt8} {limit : Option Nat} {count : Nat} :
      slot.HasLimit precision limit → IsCut limit units count →
      FoundAs slot precision (.narrow address units) (.narrow (units.take count))
  | wide {address : UInt64} {units : List UInt32} {limit : Option Nat} {count : Nat} :
      slot.HasLimit precision limit → IsCut limit units count →
      FoundAs slot precision (.wide address units) (.wide (units.take count))

theorem Argument.exists_foundAs (slot : Slot) (precision : Option Nat) (argument : Argument) :
    ∃ field, argument.FoundAs slot precision field := by
  cases argument with
  | scalar number => exact ⟨_, .scalar⟩
  | pointer address => exact ⟨_, .pointer⟩
  | narrow address units =>
    cases isText : slot.isText with
    | false => exact ⟨_, .narrowAddress isText⟩
    | true => exact ⟨_, .narrow (slot.hasLimit isText precision) rfl⟩
  | wide address units =>
    cases isText : slot.isText with
    | false => exact ⟨_, .wideAddress isText⟩
    | true => exact ⟨_, .wide (slot.hasLimit isText precision) rfl⟩

section
variable (tail : List UInt8)

theorem readNumber_scalar (number : Scalar) :
    readNumber number.type.bytes (number.encode ++ tail) = some number.bits.toNat :=
  readNumber_eq_some_iff.mpr
    ⟨LittleEndian.toNat_lt_capacity number.bits, List.prefix_append _ _⟩

theorem readField_address (address : UInt64) :
    readField (encodeAddress address ++ tail) .address =
      some (.address address, (encodeAddress address).length) := by
  have fits : address.toNat < LittleEndian.capacity addressSize := address.toNat_lt
  have read : readNumber addressSize (encodeAddress address ++ tail) = some address.toNat :=
    readNumber_eq_some_iff.mpr ⟨fits, List.prefix_append _ _⟩
  rw [readField, read, Option.map_some, UInt64.ofNat_toNat, length_encodeAddress]

theorem readField_narrow {content : List UInt8}
    (fits : content.length < LittleEndian.capacity lengthSize) :
    readField (encodeContent content ++ tail) .narrow =
      some (.narrow content, (encodeContent content).length) := by
  have read : readNarrow (encodeContent content ++ tail) =
      some { content, consumed := (encodeContent content).length } :=
    readNarrow_eq_some_iff.mpr ⟨fits, List.prefix_append _ _, rfl⟩
  rw [readField, read, Option.map_some]

theorem readField_wide {units : List UInt32}
    (fits : (encodeUnits units).length < LittleEndian.capacity lengthSize) :
    readField (encodeContent (encodeUnits units) ++ tail) .wide =
      some (.wide units, (encodeContent (encodeUnits units)).length) := by
  have read : readWide (encodeContent (encodeUnits units) ++ tail) =
      some { content := units, consumed := (encodeContent (encodeUnits units)).length } :=
    readWide_eq_some_iff.mpr ⟨fits, List.prefix_append _ _, rfl⟩
  rw [readField, read, Option.map_some]

/-- The shape of an argument that measures well is enough to read it. -/
theorem Argument.FoundAs.readField {slot : Slot} {before : Option Nat} {argument : Argument}
    {field : Field} {extent : Extent} (found : argument.FoundAs slot before field)
    (measured : Extent.measure slot before argument = .ok extent) :
    readField (argument.encode slot before ++ tail) (argument.shape slot) =
      some (field, (argument.encode slot before).length) := by
  obtain ⟨-, fits, -⟩ := Extent.measure_eq_ok_iff.mp measured
  cases found with
  | @scalar number =>
    rw [encode, shape, LogRecord.readField, readNumber_scalar, Option.map_some,
      Scalar.length_encode]
  | pointer => exact readField_address tail _
  | narrowAddress notText | wideAddress notText =>
    simp only [encode, shape, notText, Bool.false_eq_true, if_false]
    apply readField_address
  | narrow limit cut =>
    simp only [content?, encode, shape, limit.isText, if_true, limit.limit?_eq,
      cut.visible_eq] at fits ⊢
    apply readField_narrow
    exact fits _ rfl
  | wide limit cut =>
    simp only [content?, encode, shape, limit.isText, if_true, limit.limit?_eq,
      cut.visible_eq] at fits ⊢
    apply readField_wide
    exact fits _ rfl

end

/-! ## Records -/

/-- The shapes by which the pairs are stored. -/
def shapes (pairs : List (Slot × Argument)) : List Shape :=
  pairs.map fun pair => pair.2.shape pair.1

/-- What a reader finds of each argument, in order, where `before` is in force in front of the
first. -/
inductive FieldsOf : Option Nat → List (Slot × Argument) → List Field → Prop where
  | done {before : Option Nat} : FieldsOf before [] []
  | step {before : Option Nat} {slot : Slot} {argument : Argument} {field : Field}
      {pairs : List (Slot × Argument)} {fields : List Field} :
      argument.FoundAs slot before field →
      FieldsOf ((argument.setting? slot).getD before) pairs fields →
      FieldsOf before ((slot, argument) :: pairs) (field :: fields)

theorem exists_fieldsOf (before : Option Nat) (pairs : List (Slot × Argument)) :
    ∃ fields, FieldsOf before pairs fields := by
  induction pairs generalizing before with
  | nil => exact ⟨[], .done⟩
  | cons pair pairs ih =>
    rcases pair with ⟨slot, argument⟩
    obtain ⟨field, found⟩ := argument.exists_foundAs slot before
    obtain ⟨fields, later⟩ := ih ((argument.setting? slot).getD before)
    exact ⟨field :: fields, .step found later⟩

namespace FieldsOf

theorem of_append {before : Option Nat} {first second : List (Slot × Argument)}
    {fields : List Field} (fieldsOf : FieldsOf before (first ++ second) fields) :
    ∃ head tail, fields = head ++ tail ∧ head.length = first.length ∧
      FieldsOf before first head ∧ FieldsOf (inForce before first) second tail := by
  induction first generalizing before fields with
  | nil => exact ⟨[], fields, rfl, rfl, .done, fieldsOf⟩
  | cons pair first ih =>
    cases fieldsOf with
    | @step _ slot argument field _ _ found later =>
      obtain ⟨head, tail, rfl, length, front, back⟩ := ih later
      rw [inForce_cons]
      exact ⟨field :: head, tail, rfl, congrArg Nat.succ length, .step found front, back⟩

theorem append {before : Option Nat} {first second : List (Slot × Argument)}
    {head tail : List Field} (front : FieldsOf before first head)
    (back : FieldsOf (inForce before first) second tail) :
    FieldsOf before (first ++ second) (head ++ tail) := by
  induction front with
  | done => exact back
  | step found _ ih =>
    rw [inForce_cons] at back
    exact .step found (ih back)

end FieldsOf

-- The tail takes in the encodings still to be read, so the induction is over any tail.
theorem Walk.Succeeds.readRecord {before : Option Nat} {pairs : List (Slot × Argument)}
    {extents : List Extent} {fields : List Field} (succeeds : Succeeds before pairs extents)
    (fieldsOf : FieldsOf before pairs fields) (tail : List UInt8) :
    readRecord ((encodings before pairs).flatten ++ tail) (shapes pairs) =
      some (fields, (encodings before pairs).flatten.length) := by
  induction succeeds generalizing fields with
  | done =>
    cases fieldsOf
    rfl
  | @step before slot argument extent pairs extents _ measured _ ih =>
    cases fieldsOf with
    | step found later =>
      have here := found.readField
        ((encodings ((argument.setting? slot).getD before) pairs).flatten ++ tail) measured
      rw [encodings_cons, List.flatten_cons, List.append_assoc, shapes, List.map_cons, ← shapes,
        LogRecord.readRecord, here, List.length_append]
      simp only [Option.bind_eq_bind, Option.bind_some, List.drop_left, ih later]

namespace Writer

/-- A reader by the shapes alone finds every field of a stored record, in its place, whatever
follows the record. Each field is read from the bytes that are laid out for its argument, ends where
the next one starts, and the last ends at `size`. -/
theorem storeRecord_reads_back {slots : List Slot} {arguments : List Argument} {out : List UInt8}
    {size : Nat} {buffer : Buffer}
    (stored : (storeRecord slots arguments).run.run (.ofFree out) = (.ok size, buffer)) :
    slots.length = arguments.length ∧ (buffer.contents.take size).length = size ∧
      (∃ fields, FieldsOf none (slots.zip arguments) fields) ∧
      ∀ fields, FieldsOf none (slots.zip arguments) fields →
        ∀ data, buffer.contents.take size <+: data →
          readRecord data (shapes (slots.zip arguments)) = some (fields, size) ∧
          ∀ earlier slot argument later,
            slots.zip arguments = earlier ++ (slot, argument) :: later →
            ∃ front field back position consumed content,
              fields = front ++ field :: back ∧ FieldsOf none earlier front ∧
              argument.FoundAs slot (inForce none earlier) field ∧
              readRecord data (shapes earlier) = some (front, position) ∧
              argument.LaidOut slot (inForce none earlier) content
                ((data.drop position).take consumed) ∧
              readField (data.drop position) (argument.shape slot) = some (field, consumed) ∧
              readRecord data (shapes (earlier ++ [(slot, argument)])) =
                some (front ++ [field], position + consumed) := by
  obtain ⟨sized, room, rfl⟩ := run_storeRecord_eq_ok_iff.mp stored
  obtain ⟨same, extents, succeeds, total⟩ := recordSize_eq_ok_iff.mp sized
  rw [succeeds.foldr_total] at total
  rw [Buffer.contents_write_ofFree, List.take_left' total]
  refine ⟨same, total, exists_fieldsOf none _, ?_⟩
  rintro fields fieldsOf data ⟨tail, rfl⟩
  constructor
  · rw [succeeds.readRecord fieldsOf, total]
  · intro earlier slot argument later split
    rw [split] at succeeds fieldsOf ⊢
    obtain ⟨front, _, rfl, -, frontOf, rest⟩ := fieldsOf.of_append
    obtain ⟨_, _, -, -, before, -⟩ := succeeds.of_append
    obtain ⟨extent, -, accepted, measured⟩ := succeeds.at_pair
    cases rest with
    | @step _ _ _ field _ back found _ =>
      -- The record up to this pair, and up to and with it, are records of their own.
      have withPair := before.append (.step accepted measured .done)
      have withField := frontOf.append (.step found .done)
      have upTo : (encodings none (earlier ++ [(slot, argument)])).flatten =
          (encodings none earlier).flatten ++ argument.encode slot (inForce none earlier) := by
        rw [encodings_append, encodings_cons, encodings_nil, List.flatten_append,
          List.flatten_singleton]
      have whole : (encodings none (earlier ++ (slot, argument) :: later)).flatten =
          (encodings none (earlier ++ [(slot, argument)])).flatten ++
            (encodings (inForce none (earlier ++ [(slot, argument)])) later).flatten := by
        rw [← List.flatten_append, ← encodings_append, List.append_assoc, List.singleton_append]
      rw [whole, List.append_assoc]
      refine ⟨front, field, back, (encodings none earlier).flatten.length,
        (argument.encode slot (inForce none earlier)).length,
        (argument.content? slot (inForce none earlier)).map List.length, rfl, frontOf, found,
        ?_, ?_, ?_, ?_⟩
      · rw [upTo, List.append_assoc]
        exact before.readRecord frontOf _
      · rw [upTo, List.append_assoc, List.drop_left, List.take_left]
        exact argument.laidOut_encode slot _
      · rw [upTo, List.append_assoc, List.drop_left]
        exact found.readField _ measured
      · rw [withPair.readRecord withField, upTo, List.length_append]

/-- One dynamic precision cuts the text directly behind it and not the text after that. A text with
a precision of its own is cut by it, and one that is shorter ends at its terminator. -/
theorem storeRecord_reads_back_mixed :
    let slots : List Slot :=
      [.precision, .text .dynamic, .text .absent, .value, .value, .text (.fixed 2),
        .text (.fixed 3), .value]
    let arguments : List Argument :=
      [.scalar (.ofInt (.signed .two) 2), .narrow 0x1000 [97, 98, 99], .narrow 0x2000 [97, 98, 99],
        .pointer 0x3000, .wide 0x4000 [97], .narrow 0x5000 [100, 101, 102],
        .wide 0x6000 [0x1F600, 0, 97], .scalar ⟨.single, 0x7FC00001⟩]
    ∃ buffer, (storeRecord slots arguments).run.run (.ofFree (List.replicate 60 0xAA)) =
        (.ok 49, buffer) ∧
      readRecord buffer.contents
          [.number 2, .narrow, .narrow, .address, .address, .narrow, .wide, .number 4] =
        some ([.number 2, .narrow [97, 98], .narrow [97, 98, 99], .address 0x3000,
          .address 0x4000, .narrow [100, 101], .wide [0x1F600], .number 0x7FC00001], 49) := by
  intro slots arguments
  have sized : recordSize slots arguments = .ok 49 := by rfl
  obtain ⟨buffer, stored⟩ : ∃ buffer,
      (storeRecord slots arguments).run.run (.ofFree (List.replicate 60 0xAA)) =
        (.ok 49, buffer) :=
    ⟨_, run_storeRecord_eq_ok_iff.mpr ⟨sized, by decide, rfl⟩⟩
  have dynamicText : (Argument.narrow 0x1000 [97, 98, 99]).FoundAs (.text .dynamic) (some 2)
      (.narrow [97, 98]) := @Argument.FoundAs.narrow _ _ _ _ _ 2 .dynamic rfl
  have plainText : (Argument.narrow 0x2000 [97, 98, 99]).FoundAs (.text .absent) (some 2)
      (.narrow [97, 98, 99]) := @Argument.FoundAs.narrow _ _ _ _ _ 3 .absent rfl
  have cutText : (Argument.narrow 0x5000 [100, 101, 102]).FoundAs (.text (.fixed 2)) (some 2)
      (.narrow [100, 101]) := @Argument.FoundAs.narrow _ _ _ _ _ 2 .fixed rfl
  have endedText : (Argument.wide 0x6000 [0x1F600, 0, 97]).FoundAs (.text (.fixed 3)) (some 2)
      (.wide [0x1F600]) := @Argument.FoundAs.wide _ _ _ _ _ 1 .fixed rfl
  have fieldsOf : FieldsOf none (slots.zip arguments) _ :=
    .step .scalar <| .step dynamicText <| .step plainText <| .step .pointer <|
      .step (.wideAddress rfl) <| .step cutText <| .step endedText <| .step .scalar .done
  obtain ⟨-, -, -, reads⟩ := storeRecord_reads_back stored
  exact ⟨buffer, stored, (reads _ fieldsOf _ (List.take_prefix 49 _)).1⟩

end Writer
end LogRecord
