import LogRecord.Proofs.Execution
import LogRecord.Proofs.Record.Walking
import LogRecord.Record.Writer

/-! Writing a record is all or nothing.

The pass that measures and the pass that writes stay in step: each call of the second finds the
extent that the first has found, in a buffer that has room for it
(`Writer.storeRecord_all_or_nothing`). -/

set_option autoImplicit false
namespace LogRecord

/-! ## Encodings -/

/-- The bytes of each argument, in order, where `before` is in force in front of the first. -/
def encodings : Option Nat → List (Slot × Argument) → List (List UInt8) :=
  mapInForce Argument.encode

@[simp] theorem encodings_nil (before : Option Nat) : encodings before [] = [] :=
  mapInForce_nil Argument.encode before

theorem encodings_cons (before : Option Nat) (slot : Slot) (argument : Argument)
    (pairs : List (Slot × Argument)) :
    encodings before ((slot, argument) :: pairs) =
      argument.encode slot before :: encodings ((argument.setting? slot).getD before) pairs :=
  mapInForce_cons Argument.encode before slot argument pairs

theorem encodings_append (before : Option Nat) (first second : List (Slot × Argument)) :
    encodings before (first ++ second) =
      encodings before first ++ encodings (inForce before first) second :=
  mapInForce_append Argument.encode before first second

namespace Walk.Succeeds

variable {before : Option Nat} {pairs : List (Slot × Argument)} {extents : List Extent}

theorem map_total (succeeds : Succeeds before pairs extents) :
    extents.map (·.total) = (encodings before pairs).map List.length := by
  induction succeeds with
  | done => rfl
  | step _ measured _ ih =>
    obtain ⟨-, -, rfl⟩ := Extent.measure_eq_ok_iff.mp measured
    rw [encodings_cons, List.map_cons, List.map_cons, ih]

-- The sum of the first pass and the bytes of the second are both cut at the same pair.
theorem foldr_total (succeeds : Succeeds before pairs extents) :
    extents.foldr (fun extent size => extent.total + size) 0 =
      (encodings before pairs).flatten.length := by
  induction succeeds with
  | done => rfl
  | step _ measured _ ih =>
    obtain ⟨-, -, rfl⟩ := Extent.measure_eq_ok_iff.mp measured
    rw [encodings_cons, List.foldr_cons, List.flatten_cons, List.length_append, ih]

end Walk.Succeeds

/-- The size of a record told without extents. -/
theorem recordSize_eq_ok_iff_encodings {slots : List Slot} {arguments : List Argument}
    {size : Nat} :
    recordSize slots arguments = .ok size ↔
      slots.length = arguments.length ∧
        (∃ extents, Walk.Succeeds none (slots.zip arguments) extents) ∧
        (encodings none (slots.zip arguments)).flatten.length = size := by
  rw [recordSize_eq_ok_iff]
  constructor
  · rintro ⟨same, extents, succeeds, total⟩
    exact ⟨same, ⟨extents, succeeds⟩, succeeds.foldr_total.symm.trans total⟩
  · rintro ⟨same, ⟨extents, succeeds⟩, total⟩
    exact ⟨same, extents, succeeds, succeeds.foldr_total.trans total⟩

namespace Buffer

theorem write_nil (buffer : Buffer) : buffer.write [] = buffer := by
  simp only [write, List.append_nil, List.length_nil, List.drop_zero]

theorem write_write (first second : List UInt8) (buffer : Buffer) :
    (buffer.write first).write second = buffer.write (first ++ second) := by
  simp only [write, List.append_assoc, List.drop_drop, List.length_append]

theorem contents_write_ofFree (bytes out : List UInt8) :
    ((ofFree out).write bytes).contents = bytes ++ out.drop bytes.length := rfl

end Buffer

namespace Writer

theorem run_require (needed : Nat) (buffer : Buffer) :
    (require needed).run.run buffer =
      if buffer.free.length < needed then
        (.error (.bufferTooSmall needed buffer.free.length), buffer)
      else (.ok (), buffer) := by
  unfold require
  rw [run_bind]
  change (if buffer.free.length < needed then _ else _ : Writer Unit).run.run buffer = _
  split <;> rfl

theorem run_storeArgument (slot : Slot) (precision : Option Nat) (argument : Argument)
    (buffer : Buffer) :
    (storeArgument slot precision argument).run.run buffer =
      match Extent.measure slot precision argument with
      | .error error => (.error error, buffer)
      | .ok extent =>
        if buffer.free.length < extent.total then
          (.error (.bufferTooSmall extent.total buffer.free.length), buffer)
        else (.ok extent, buffer.write (argument.encode slot precision)) := by
  unfold storeArgument
  rw [run_bind, run_ofExcept]
  cases Extent.measure slot precision argument with
  | error error => rfl
  | ok extent =>
    by_cases short : buffer.free.length < extent.total
    · simp only [run_bind, run_require, if_pos short]
    · simp only [run_bind, run_require, if_neg short]
      rfl

theorem run_storeArgument_of_room {slot : Slot} {precision : Option Nat} {argument : Argument}
    {extent : Extent} {buffer : Buffer}
    (measured : Extent.measure slot precision argument = .ok extent)
    (room : (argument.encode slot precision).length ≤ buffer.free.length) :
    (storeArgument slot precision argument).run.run buffer =
      (.ok extent, buffer.write (argument.encode slot precision)) := by
  have stored := run_storeArgument slot precision argument buffer
  rw [measured] at stored
  obtain ⟨-, -, rfl⟩ := Extent.measure_eq_ok_iff.mp measured
  rw [stored]
  exact if_neg (Nat.not_lt.mpr room)

/-- A pass over pairs that measure well never fails in a buffer with room for all of them. -/
theorem run_storeAll {before : Option Nat} {pairs : List (Slot × Argument)}
    {extents : List Extent} (succeeds : Walk.Succeeds before pairs extents) (buffer : Buffer)
    (room : (encodings before pairs).flatten.length ≤ buffer.free.length) :
    (storeAll before pairs).run.run buffer =
      (.ok (encodings before pairs).flatten.length,
        buffer.write (encodings before pairs).flatten) := by
  -- The invariant is the room for what is left; `measured` gives each call its part of it.
  induction succeeds generalizing buffer with
  | done => rw [encodings_nil, List.flatten_nil, Buffer.write_nil]; rfl
  | @step before slot argument extent pairs extents accepted measured succeeds ih =>
    rw [encodings_cons, List.flatten_cons, List.length_append] at room ⊢
    have here := run_storeArgument_of_room measured (Nat.le_of_add_right_le room)
    obtain ⟨-, -, rfl⟩ := Extent.measure_eq_ok_iff.mp measured
    have left : (encodings ((argument.setting? slot).getD before) pairs).flatten.length ≤
        (buffer.write (argument.encode slot before)).free.length := by
      rw [Buffer.write, List.length_drop]
      omega
    simp only [storeAll, run_bind, here, Argument.precisionAfter_of_accepts accepted, ih _ left,
      Buffer.write_write]
    rfl

theorem run_storeRecord (slots : List Slot) (arguments : List Argument) (buffer : Buffer) :
    (storeRecord slots arguments).run.run buffer =
      match recordSize slots arguments with
      | .error error => (.error error, buffer)
      | .ok size =>
        if buffer.free.length < size then
          (.error (.bufferTooSmall size buffer.free.length), buffer)
        else (storeAll none (slots.zip arguments)).run.run buffer := by
  unfold storeRecord
  rw [run_bind, run_ofExcept]
  cases recordSize slots arguments with
  | error error => rfl
  | ok size =>
    by_cases short : buffer.free.length < size
    · simp only [run_bind, run_require, if_pos short]
    · simp only [run_bind, run_require, if_neg short]

theorem run_storeRecord_eq_ok_iff {slots : List Slot} {arguments : List Argument} {size : Nat}
    {before after : Buffer} :
    (storeRecord slots arguments).run.run before = (.ok size, after) ↔
      recordSize slots arguments = .ok size ∧ size ≤ before.free.length ∧
        before.write (encodings none (slots.zip arguments)).flatten = after := by
  constructor
  · intro stored
    rw [run_storeRecord] at stored
    cases sized : recordSize slots arguments with
    | error error =>
      rw [sized] at stored
      obtain ⟨failed, -⟩ := Prod.mk.inj stored
      contradiction
    | ok needed =>
      obtain ⟨-, extents, succeeds, total⟩ := recordSize_eq_ok_iff.mp sized
      rw [succeeds.foldr_total] at total
      rw [sized] at stored
      dsimp only at stored
      split at stored
      next =>
        obtain ⟨failed, -⟩ := Prod.mk.inj stored
        contradiction
      next enough =>
        have room := Nat.not_lt.mp enough
        rw [← total] at room
        rw [run_storeAll succeeds before room, total] at stored
        obtain ⟨same, written⟩ := Prod.mk.inj stored
        obtain rfl := Except.ok.inj same
        exact ⟨rfl, Nat.not_lt.mp enough, written⟩
  · rintro ⟨sized, room, rfl⟩
    obtain ⟨-, extents, succeeds, total⟩ := recordSize_eq_ok_iff.mp sized
    rw [succeeds.foldr_total] at total
    rw [run_storeRecord, sized]
    rw [← total] at room ⊢
    exact (if_neg (Nat.not_lt.mpr room)).trans (run_storeAll succeeds before room)

/-- What storing a record answers. -/
theorem run_storeRecord_fst (slots : List Slot) (arguments : List Argument) (buffer : Buffer) :
    ((storeRecord slots arguments).run.run buffer).1 =
      (recordSize slots arguments).bind fun size =>
        if buffer.free.length < size then
          .error (.bufferTooSmall size buffer.free.length)
        else .ok size := by
  cases sized : recordSize slots arguments with
  | error error => rw [run_storeRecord, sized]; rfl
  | ok size =>
    by_cases short : buffer.free.length < size
    · simp only [run_storeRecord, sized, Except.bind, if_pos short]
    · have stored := run_storeRecord_eq_ok_iff.mpr ⟨sized, Nat.not_lt.mp short, rfl⟩
      simp only [stored, Except.bind, if_neg short]

section
variable {slots : List Slot} {arguments : List Argument} {size : Nat} {out : List UInt8}

/-- A stored record stands in front of what the buffer held behind its place. -/
theorem contents_of_stored {after : Buffer}
    (stored : (storeRecord slots arguments).run.run (.ofFree out) = (.ok size, after)) :
    after.contents = (encodings none (slots.zip arguments)).flatten ++ out.drop size := by
  obtain ⟨sized, -, rfl⟩ := run_storeRecord_eq_ok_iff.mp stored
  obtain ⟨-, -, total⟩ := recordSize_eq_ok_iff_encodings.mp sized
  rw [Buffer.contents_write_ofFree, total]

theorem exists_stored (sized : recordSize slots arguments = .ok size) (room : size ≤ out.length) :
    ∃ buffer, (storeRecord slots arguments).run.run (.ofFree out) = (.ok size, buffer) ∧
      buffer.contents = (encodings none (slots.zip arguments)).flatten ++ out.drop size := by
  have stored : (storeRecord slots arguments).run.run (.ofFree out) = (.ok size, _) :=
    run_storeRecord_eq_ok_iff.mpr ⟨sized, room, rfl⟩
  exact ⟨_, stored, contents_of_stored stored⟩

end

/-- A record is stored whole or not at all, and it fails as it is measured or for want of room. No
call of the pass that stores it fails: each finds in its place what the walk has found. -/
theorem storeRecord_all_or_nothing (slots : List Slot) (arguments : List Argument)
    (out : List UInt8) :
    (∀ error, recordSize slots arguments = .error error →
      (storeRecord slots arguments).run.run (.ofFree out) = (.error error, .ofFree out)) ∧
    (∀ size, recordSize slots arguments = .ok size → out.length < size →
      (storeRecord slots arguments).run.run (.ofFree out) =
        (.error (.bufferTooSmall size out.length), .ofFree out)) ∧
    (∀ size, recordSize slots arguments = .ok size → size ≤ out.length →
      ∃ (buffer : Buffer) (walk : Walk) (extents : List Extent),
        (storeRecord slots arguments).run.run (.ofFree out) = (.ok size, buffer) ∧
        buffer.contents = (encodings none (slots.zip arguments)).flatten ++ out.drop size ∧
        (encodings none (slots.zip arguments)).flatten.length = size ∧
        Walk.start slots arguments = .ok walk ∧ walk.items = extents.map .ok ∧
        (encodings none (slots.zip arguments)).map List.length = extents.map (·.total) ∧
        ∀ earlier slot argument later, slots.zip arguments = earlier ++ (slot, argument) :: later →
          ∃ extent, extents[earlier.length]? = some extent ∧
            extent.precision = inForce none (earlier ++ [(slot, argument)]) ∧
            (storeArgument slot (inForce none earlier) argument).run.run
                ((Buffer.ofFree out).write (encodings none earlier).flatten) =
              (.ok extent, (Buffer.ofFree out).write
                (encodings none (earlier ++ [(slot, argument)])).flatten)) := by
  refine ⟨?_, ?_, ?_⟩
  · intro error failed
    rw [run_storeRecord, failed]
  · intro size sized short
    rw [run_storeRecord, sized]
    exact if_pos short
  · intro size sized room
    obtain ⟨same, extents, succeeds, total⟩ := recordSize_eq_ok_iff.mp sized
    rw [succeeds.foldr_total] at total
    refine ⟨_, _, extents, run_storeRecord_eq_ok_iff.mpr ⟨sized, room, rfl⟩, ?_, total,
      if_pos same, Walk.items_eq_map_ok_iff.mpr succeeds, succeeds.map_total.symm, ?_⟩
    · rw [Buffer.contents_write_ofFree, total]
    · intro earlier slot argument later split
      rw [split] at succeeds total
      obtain ⟨extent, found, accepted, measured⟩ := succeeds.at_pair
      refine ⟨extent, found, ?_, ?_⟩
      · obtain ⟨-, -, rfl⟩ := Extent.measure_eq_ok_iff.mp measured
        rw [inForce_append, inForce_cons, inForce_nil]
        exact argument.precisionAfter_of_accepts accepted _
      rw [run_storeArgument_of_room measured, Buffer.write_write, encodings_append, encodings_cons,
        encodings_nil, List.flatten_append, List.flatten_singleton]
      rw [encodings_append, encodings_cons, List.flatten_append, List.flatten_cons,
        List.length_append, List.length_append] at total
      rw [Buffer.write, List.length_drop]
      change _ ≤ out.length - _
      omega

theorem storeRecord_cut_string :
    let slots : List Slot := [.precision, .text .dynamic, .value]
    let two : Argument := .scalar (.ofInt (.signed .two) 2)
    let text : Argument := .narrow 0x1000 [97, 98, 99]
    let arguments := [two, text, .wide 0x2000 [97]]
    recordSize slots arguments = .ok 16 ∧
      (storeRecord slots arguments).run.run (.ofFree (List.replicate 15 0xAA)) =
        (.error (.bufferTooSmall 16 15), .ofFree (List.replicate 15 0xAA)) ∧
      (∃ buffer, (storeRecord slots arguments).run.run (.ofFree (List.replicate 18 0xAA)) =
          (.ok 16, buffer) ∧
        buffer.contents = [2, 0, 2, 0, 0, 0, 97, 98, 0, 0x20, 0, 0, 0, 0, 0, 0, 0xAA, 0xAA]) ∧
      recordSize slots [text, text, text] = .error (.typeMismatch 0 .precision .narrow) ∧
      (storeRecord slots [text, text, text]).run.run (.ofFree [0xAA]) =
        (.error (.typeMismatch 0 .precision .narrow), .ofFree [0xAA]) := by
  intro slots two text arguments
  have sized : recordSize slots arguments = .ok 16 := by rfl
  have failed : recordSize slots [text, text, text] =
      .error (.typeMismatch 0 .precision .narrow) := by rfl
  obtain ⟨buffer, -, -, stored, contents, -⟩ :=
    (storeRecord_all_or_nothing slots arguments (List.replicate 18 0xAA)).2.2 16 sized (by decide)
  refine ⟨sized, (storeRecord_all_or_nothing slots arguments _).2.1 16 sized (by decide),
    ⟨buffer, stored, contents.trans ?_⟩, failed,
    (storeRecord_all_or_nothing slots _ [0xAA]).1 _ failed⟩
  decide

end Writer
end LogRecord
