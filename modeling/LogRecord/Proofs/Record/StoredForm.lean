import LogRecord.Proofs.Record.ReadingBack
import Mathlib.Data.List.TakeWhile
import Mathlib.Data.Nat.Digits.Defs

/-! Stored strings as their readers see them.

A reader accepts the data that begins with a whole stored string. It looks at no byte behind that
string and needs every byte of it, and storing what it has found writes the same bytes again
(`readers_accept_stored_form`). -/

set_option autoImplicit false
namespace LogRecord

/-! ## What a reader accepts -/

theorem LittleEndian.decode_eq_ofDigits (bytes : List UInt8) :
    decode bytes = Nat.ofDigits 256 (bytes.map UInt8.toNat) := by
  induction bytes with
  | nil => rfl
  | cons byte bytes ih =>
    rw [decode, List.map_cons, Nat.ofDigits_cons, ih]

/-- The number of content bytes that the first bytes announce. -/
def announcedLength (data : List UInt8) : Nat :=
  Nat.ofDigits 256 ((data.take 4).map UInt8.toNat)

theorem readNarrow_eq_ite (data : List UInt8) :
    readNarrow data =
      if 4 ≤ data.length ∧ 4 + announcedLength data ≤ data.length then
        some {
          content := (data.drop 4).take (announcedLength data)
          consumed := 4 + announcedLength data }
      else none := by
  have announced : LittleEndian.decode (data.take lengthSize) = announcedLength data :=
    LittleEndian.decode_eq_ofDigits _
  have length : ((data.drop 4).take (announcedLength data)).length =
      min (announcedLength data) (data.length - 4) := by
    rw [List.length_take, List.length_drop]
  rw [readNarrow, announced]
  change (if data.length < 4 then none
    else if ((data.drop 4).take (announcedLength data)).length < announcedLength data then none
    else some _) = _
  rw [length]
  by_cases enough : 4 ≤ data.length ∧ 4 + announcedLength data ≤ data.length
  · rw [if_pos enough, if_neg (by omega), if_neg (by omega)]
    rfl
  · rw [if_neg enough]
    by_cases short : data.length < 4
    · rw [if_pos short]
    · rw [if_neg short, if_pos (by omega)]

theorem announced_of_readNarrow {data : List UInt8} {stored : Stored UInt8}
    (found : readNarrow data = some stored) :
    stored.content = (data.drop 4).take (announcedLength data) ∧
      stored.content.length = announcedLength data ∧
      stored.consumed = 4 + stored.content.length := by
  rw [readNarrow_eq_ite] at found
  split at found
  next enough =>
    obtain rfl := Option.some.inj found
    have length : ((data.drop 4).take (announcedLength data)).length = announcedLength data := by
      rw [List.length_take, List.length_drop]
      omega
    exact ⟨rfl, length, congrArg (4 + ·) length.symm⟩
  next => contradiction

theorem readWide_eq_some_iff_readNarrow {data : List UInt8} {stored : Stored UInt32} :
    readWide data = some stored ↔
      readNarrow data =
        some { content := encodeUnits stored.content, consumed := stored.consumed } := by
  rw [readWide_eq_some_iff, readNarrow_eq_some_iff]

/-- A wide string is a narrow one that has no part of a unit. -/
theorem exists_readWide_iff {data : List UInt8} {consumed : Nat} :
    (∃ stored, readWide data = some stored ∧ stored.consumed = consumed) ↔
      ∃ stored, readNarrow data = some stored ∧ 4 ∣ stored.content.length ∧
        stored.consumed = consumed := by
  constructor
  · rintro ⟨stored, found, rfl⟩
    refine ⟨_, readWide_eq_some_iff_readNarrow.mp found, ?_, rfl⟩
    rw [length_encodeUnits]
    exact Nat.dvd_mul_left 4 _
  · rintro ⟨stored, found, whole, rfl⟩
    have units := encodeUnits_decodeUnits (Nat.mod_eq_zero_of_dvd whole)
    refine ⟨{ content := decodeUnits stored.content, consumed := stored.consumed }, ?_, rfl⟩
    apply readWide_eq_some_iff_readNarrow.mpr
    rw [units]
    exact found

/-! ## What a reader looks at -/

/-- The reader finds this in the bytes it goes over, and needs all of them: it finds the same
whatever stands behind them, and nothing in fewer of them. -/
structure ReadsExactly {α : Type} (read : List UInt8 → Option (Stored α)) (data : List UInt8)
    (stored : Stored α) : Prop where
  inside : stored.consumed ≤ data.length
  found : ∀ tail, read (data.take stored.consumed ++ tail) = some stored
  whole : ∀ count, count < stored.consumed → read (data.take count) = none

-- What both readers have in common: each accepts exactly the data that begins with a form of what
-- it finds, and goes over that form.
theorem readsExactly_of_form {α : Type} {read : List UInt8 → Option (Stored α)}
    {fits : Stored α → Prop} {form : Stored α → List UInt8}
    (accepts : ∀ {data stored}, read data = some stored ↔
      fits stored ∧ form stored <+: data ∧ stored.consumed = (form stored).length)
    {data : List UInt8} {stored : Stored α} (found : read data = some stored) :
    data.take stored.consumed = form stored ∧ ReadsExactly read data stored := by
  obtain ⟨fit, starts, consumed⟩ := accepts.mp found
  have passed : data.take stored.consumed = form stored := by
    rw [consumed]
    exact (List.prefix_iff_eq_take.mp starts).symm
  refine ⟨passed, ?_, ?_, ?_⟩
  · rw [consumed]
    exact starts.length_le
  · intro tail
    rw [passed]
    exact accepts.mpr ⟨fit, List.prefix_append _ _, consumed⟩
  · intro count fewer
    apply Option.eq_none_iff_forall_ne_some.mpr
    intro other otherFound
    -- Data that begins with fewer bytes begins with their form, and so with no other form.
    obtain ⟨otherFit, otherStarts, otherConsumed⟩ := accepts.mp otherFound
    have longer := otherStarts.trans (List.take_prefix count data)
    have same : read data = some other := accepts.mpr ⟨otherFit, longer, otherConsumed⟩
    obtain rfl := Option.some.inj (found.symm.trans same)
    have short := otherStarts.length_le
    have := List.length_take_le count data
    omega

/-! ## Storing what was read -/

theorem visible_of_notMem {α : Type} [BEq α] [LawfulBEq α] [OfNat α 0] {units : List α}
    (noTerminator : 0 ∉ units) : visible none units = units := by
  apply List.takeWhile_eq_self_iff.mpr
  intro unit member
  rw [bne_iff_ne]
  rintro rfl
  exact noTerminator member

namespace Argument

variable {slot : Slot} {precision : Option Nat} {argument : Argument}

theorem encode_of_content? {content : List UInt8}
    (stored : argument.content? slot precision = some content) :
    argument.encode slot precision = encodeContent content := by
  cases argument with
  | scalar _ | pointer _ => contradiction
  | narrow _ _ | wide _ _ =>
    simp only [content?, Option.ite_none_right_eq_some, Option.some.injEq] at stored
    simp only [encode, if_pos stored.1, stored.2]

theorem precisionAfter_of_ne_precision (other : slot ≠ .precision) :
    argument.precisionAfter slot precision = precision := by
  cases argument with
  | scalar _ => exact if_neg other
  | pointer _ | narrow _ _ | wide _ _ => rfl

end Argument

namespace Writer

/-- In a slot without precision the argument is stored as these bytes and nothing else, whatever is
in force, and wherever there is room. -/
def StoresWhole (argument : Argument) (bytes : List UInt8) : Prop :=
  ∀ (precision : Option Nat) (buffer : Buffer), bytes.length ≤ buffer.free.length →
    ∃ extent after,
      (storeArgument (.text .absent) precision argument).run.run buffer = (.ok extent, after) ∧
        extent.total = bytes.length ∧ extent.precision = precision ∧
        after.written = buffer.written ++ bytes ∧ after.free = buffer.free.drop bytes.length

theorem storesWhole_of_content {argument : Argument} {content : List UInt8}
    (stored : ∀ precision, argument.content? (.text .absent) precision = some content)
    (fits : content.length < LittleEndian.capacity lengthSize) :
    StoresWhole argument (encodeContent content) := by
  intro precision buffer room
  have encoded := Argument.encode_of_content? (stored precision)
  have short : ∀ bytes ∈ argument.content? (.text .absent) precision,
      bytes.length < LittleEndian.capacity lengthSize := by
    rw [stored precision]
    rintro _ ⟨⟩
    exact fits
  have measured := Extent.measure_eq_ok_iff.mpr ⟨rfl, short, rfl⟩
  have ran := run_storeArgument_of_room measured (by rwa [encoded])
  rw [encoded] at ran
  exact ⟨_, _, ran, rfl, Argument.precisionAfter_of_ne_precision (by decide), rfl, rfl⟩

end Writer

open Writer (StoresWhole)

/-! ## Both readers -/

/-- A stored string is its length in four bytes and then as many bytes, and the readers accept
exactly the data that begins with one. They find its content and go over it and no further. What
they find is stored as the same bytes, if no unit of it is a terminator. -/
theorem readers_accept_stored_form (data : List UInt8) :
    ((∃ stored, readNarrow data = some stored) ↔
      4 ≤ data.length ∧ 4 + announcedLength data ≤ data.length) ∧
    (∀ stored, readNarrow data = some stored →
      stored.content = (data.drop 4).take (announcedLength data) ∧
      stored.content.length = announcedLength data ∧
      stored.consumed = 4 + stored.content.length ∧
      ReadsExactly readNarrow data stored ∧
      (0 ∉ stored.content → ∀ address,
        StoresWhole (.narrow address stored.content) (data.take stored.consumed))) ∧
    (∀ consumed, (∃ stored, readWide data = some stored ∧ stored.consumed = consumed) ↔
      ∃ stored, readNarrow data = some stored ∧ 4 ∣ stored.content.length ∧
        stored.consumed = consumed) ∧
    (∀ stored, readWide data = some stored →
      stored.content.flatMap (fun unit => LittleEndian.encode 4 unit.toNat) =
        (data.drop 4).take (announcedLength data) ∧
      ReadsExactly readWide data stored ∧
      (0 ∉ stored.content → ∀ address,
        StoresWhole (.wide address stored.content) (data.take stored.consumed))) := by
  refine ⟨?_, ?_, fun consumed => exists_readWide_iff, ?_⟩
  · rw [readNarrow_eq_ite]
    simp
  · intro stored found
    obtain ⟨passed, exactly⟩ := readsExactly_of_form readNarrow_eq_some_iff found
    obtain ⟨fits, -, -⟩ := readNarrow_eq_some_iff.mp found
    obtain ⟨content, length, consumed⟩ := announced_of_readNarrow found
    refine ⟨content, length, consumed, exactly, ?_⟩
    intro noTerminator address
    rw [passed]
    apply Writer.storesWhole_of_content _ fits
    exact fun precision => congrArg some (visible_of_notMem noTerminator)
  · intro stored found
    obtain ⟨passed, exactly⟩ := readsExactly_of_form readWide_eq_some_iff found
    obtain ⟨fits, -, -⟩ := readWide_eq_some_iff.mp found
    obtain ⟨content, -, -⟩ := announced_of_readNarrow (readWide_eq_some_iff_readNarrow.mp found)
    refine ⟨content, exactly, ?_⟩
    intro noTerminator address
    rw [passed]
    apply Writer.storesWhole_of_content _ fits
    exact fun precision => congrArg (some ∘ encodeUnits) (visible_of_notMem noTerminator)

/-- Data that both readers accept, with a byte behind the string. -/
theorem readers_accept_stored_form_of_one_unit :
    let data : List UInt8 := [4, 0, 0, 0, 0x41, 0xF6, 0x01, 0x01, 0xAA]
    readNarrow data = some { content := [0x41, 0xF6, 0x01, 0x01], consumed := 8 } ∧
      readWide data = some { content := [0x0101F641], consumed := 8 } ∧
      (4 ≤ data.length ∧ 4 + announcedLength data ≤ data.length) ∧
      0 ∉ ([0x41, 0xF6, 0x01, 0x01] : List UInt8) ∧ 0 ∉ ([0x0101F641] : List UInt32) ∧
      readNarrow ([4, 0, 0, 0, 0x41, 0xF6, 0x01, 0x01] ++ [0xBB, 0xCC]) =
        some { content := [0x41, 0xF6, 0x01, 0x01], consumed := 8 } ∧
      readWide [4, 0, 0, 0, 0x41, 0xF6, 0x01] = none ∧
      StoresWhole (.narrow 0x1000 [0x41, 0xF6, 0x01, 0x01])
        [4, 0, 0, 0, 0x41, 0xF6, 0x01, 0x01] ∧
      StoresWhole (.wide 0x1000 [0x0101F641]) [4, 0, 0, 0, 0x41, 0xF6, 0x01, 0x01] := by
  intro data
  have narrow : readNarrow data = some { content := [0x41, 0xF6, 0x01, 0x01], consumed := 8 } := by
    rfl
  have wide : readWide data = some { content := [0x0101F641], consumed := 8 } := by
    decide +kernel
  obtain ⟨accepted, ofNarrow, -, ofWide⟩ := readers_accept_stored_form data
  obtain ⟨-, -, -, exactly, stores⟩ := ofNarrow _ narrow
  obtain ⟨-, wideExactly, wideStores⟩ := ofWide _ wide
  exact ⟨narrow, wide, accepted.mp ⟨_, narrow⟩, by decide, by decide, exactly.found [0xBB, 0xCC],
    wideExactly.whole 7 (by decide), stores (by decide) 0x1000, wideStores (by decide) 0x1000⟩

end LogRecord
