import LogRecord.Text.Utf8

/-! Where characters begin.

A byte below 0x80 is a character of its own, wherever in a text it stands. So a character begins
behind it as well (`Utf8.IsText.behind_ascii`), even where a character in front has been cut
(`Utf8.EndsText.behind_ascii`). -/

set_option autoImplicit false
namespace LogRecord.Utf8

/-- These are the bytes of whole characters. -/
def IsText (bytes : List UInt8) : Prop :=
  ∃ characters : List Char, characters.flatMap String.utf8EncodeChar = bytes

theorem bytes_eq_flatMap (text : String) :
    bytes text = text.toList.flatMap String.utf8EncodeChar := by
  rw [← bytes_ofList, String.ofList_toList]

theorem isText_bytes (text : String) : IsText (bytes text) :=
  ⟨text.toList, (bytes_eq_flatMap text).symm⟩

theorem text?_toByteArray (text : String) : text? text.toByteArray = some text :=
  dif_pos text.isValidUTF8

theorem text?_eq_none {input : ByteArray} (broken : ¬ IsText input.data.toList) :
    text? input = none := by
  cases read : text? input with
  | none => rfl
  | some text =>
    rw [← bytes_of_text? read] at broken
    exact absurd (isText_bytes text) broken

/-- A character is one byte below 0x80, or it has no such byte. -/
theorem eq_singleton_of_ascii {character : Char} {byte : UInt8}
    (member : byte ∈ String.utf8EncodeChar character) (ascii : byte < 0x80) :
    String.utf8EncodeChar character = [byte] := by
  have small : byte.toNat < 128 := UInt8.lt_iff_toNat_lt.mp ascii
  unfold String.utf8EncodeChar at member ⊢
  dsimp only at member ⊢
  split at member
  next single => rw [if_pos single, List.mem_singleton.mp member]
  next =>
    -- Every byte of a longer encoding has its highest bit set.
    exfalso
    split at member
    · simp only [List.mem_cons, List.not_mem_nil, or_false] at member
      rcases member with rfl | rfl <;> rw [UInt8.toNat_ofNat'] at small <;> omega
    · split at member
      · simp only [List.mem_cons, List.not_mem_nil, or_false] at member
        rcases member with rfl | rfl | rfl <;> rw [UInt8.toNat_ofNat'] at small <;> omega
      · simp only [List.mem_cons, List.not_mem_nil, or_false] at member
        rcases member with rfl | rfl | rfl | rfl <;> rw [UInt8.toNat_ofNat'] at small <;> omega

/-- A byte that is a character by itself, and not the null character. -/
def standsAlone (byte : UInt8) : Bool :=
  byte != 0 && decide (byte < 0x80)

theorem ascii_of_standsAlone {byte : UInt8} (alone : standsAlone byte = true) : byte < 0x80 := by
  simp only [standsAlone, Bool.and_eq_true, decide_eq_true_eq] at alone
  exact alone.2

theorem utf8EncodeChar_ofUInt8 {byte : UInt8} (ascii : byte < 0x80) :
    String.utf8EncodeChar (Char.ofUInt8 byte) = [byte] := by
  have small : byte.toNat < 128 := UInt8.lt_iff_toNat_lt.mp ascii
  have number : (Char.ofUInt8 byte).val.toNat = byte.toNat := UInt8.toNat_toUInt32 byte
  simp only [String.utf8EncodeChar, number]
  rw [if_pos (Nat.le_of_lt_succ small), UInt8.ofNat_toNat]

theorem bytes_ofList_ofUInt8 {written : List UInt8} (ascii : ∀ byte ∈ written, byte < 0x80) :
    bytes (String.ofList (written.map Char.ofUInt8)) = written := by
  rw [bytes_ofList]
  induction written with
  | nil => rfl
  | cons byte written ih =>
    obtain ⟨here, later⟩ := List.forall_mem_cons.mp ascii
    rw [List.map_cons, List.flatMap_cons, ih later, utf8EncodeChar_ofUInt8 here,
      List.singleton_append]

theorem zero_notMem_of_standsAlone {written : List UInt8}
    (alone : ∀ byte ∈ written, standsAlone byte = true) : 0 ∉ written := by
  intro member
  have outside : standsAlone 0 = false := rfl
  rw [alone 0 member] at outside
  contradiction

/-- A byte below 0x80 parts the characters in front of it from those behind it. -/
theorem exists_split_at_ascii {characters : List Char} {front rest : List UInt8} {byte : UInt8}
    (spelled : characters.flatMap String.utf8EncodeChar = front ++ byte :: rest)
    (ascii : byte < 0x80) :
    ∃ earlier character later, characters = earlier ++ character :: later ∧
      earlier.flatMap String.utf8EncodeChar = front ∧
      String.utf8EncodeChar character = [byte] ∧
      later.flatMap String.utf8EncodeChar = rest := by
  induction characters generalizing front with
  | nil => simp at spelled
  | cons character characters ih =>
    rw [List.flatMap_cons] at spelled
    rcases List.append_eq_append_iff.mp spelled with ⟨later, rfl, whole⟩ | ⟨inside, split, whole⟩
    · obtain ⟨earlier, single, behind, rfl, rfl, alone, spelledBehind⟩ := ih whole
      exact ⟨character :: earlier, single, behind, rfl, List.flatMap_cons, alone, spelledBehind⟩
    · cases inside with
      | nil =>
        obtain ⟨earlier, single, behind, rfl, none, alone, spelledBehind⟩ := @ih [] whole.symm
        refine ⟨character :: earlier, single, behind, rfl, ?_, alone, spelledBehind⟩
        rw [List.flatMap_cons, none, List.append_nil, split, List.append_nil]
      | cons first inside =>
        -- The byte is one of this character, which has no other.
        obtain ⟨rfl, behind⟩ := List.cons.inj whole
        have member : byte ∈ String.utf8EncodeChar character := by
          rw [split]
          exact List.mem_append_right front List.mem_cons_self
        have alone := eq_singleton_of_ascii member ascii
        rcases List.append_eq_singleton_iff.mp (split.symm.trans alone) with
          ⟨rfl, single⟩ | ⟨-, none⟩
        · obtain rfl : inside = [] := (List.cons.inj single).2
          exact ⟨[], character, characters, rfl, rfl, alone, behind.symm⟩
        · contradiction

/-- Bytes below 0x80 in front are characters of their own. -/
theorem exists_split_behind_ascii {characters : List Char} {run rest : List UInt8}
    (ascii : ∀ byte ∈ run, byte < 0x80)
    (spelled : characters.flatMap String.utf8EncodeChar = run ++ rest) :
    ∃ earlier later, characters = earlier ++ later ∧
      earlier.flatMap String.utf8EncodeChar = run ∧
      later.flatMap String.utf8EncodeChar = rest := by
  induction run generalizing characters with
  | nil => exact ⟨[], characters, rfl, rfl, spelled⟩
  | cons byte run ih =>
    obtain ⟨here, later⟩ := List.forall_mem_cons.mp ascii
    obtain ⟨earlier, character, behind, rfl, none, alone, spelledBehind⟩ :=
      @exists_split_at_ascii _ [] _ _ spelled here
    obtain ⟨run, rest, rfl, rfl, rfl⟩ := ih later spelledBehind
    refine ⟨earlier ++ character :: run, rest, by rw [List.append_assoc, List.cons_append], ?_, rfl⟩
    rw [List.flatMap_append, none, List.flatMap_cons, alone]
    rfl

namespace IsText

/-- A character begins behind every byte below 0x80. -/
theorem behind_ascii {front rest : List UInt8} {byte : UInt8}
    (text : IsText (front ++ byte :: rest)) (ascii : byte < 0x80) : IsText rest := by
  obtain ⟨characters, spelled⟩ := text
  obtain ⟨-, -, later, -, -, -, behind⟩ := exists_split_at_ascii spelled ascii
  exact ⟨later, behind⟩

theorem behind_ascii_run {run rest : List UInt8} (ascii : ∀ byte ∈ run, byte < 0x80)
    (text : IsText (run ++ rest)) : IsText rest := by
  obtain ⟨characters, spelled⟩ := text
  obtain ⟨-, later, -, -, behind⟩ := exists_split_behind_ascii ascii spelled
  exact ⟨later, behind⟩

/-- The character at the front is found whatever follows. -/
theorem first?_append {byte : UInt8} {rest : List UInt8} (text : IsText (byte :: rest))
    (more : List UInt8) : first? (byte :: rest ++ more) = first? (byte :: rest) := by
  obtain ⟨characters, spelled⟩ := text
  cases characters with
  | nil => contradiction
  | cons character characters =>
    have front : String.utf8EncodeChar character <+: byte :: rest := ⟨_, spelled⟩
    rw [first?_eq_some_iff.mpr front]
    exact first?_eq_some_iff.mpr (front.trans (List.prefix_append _ more))

end IsText

/-- These bytes end whole characters, of which the first may have lost bytes in front. -/
def EndsText (bytes : List UInt8) : Prop :=
  ∃ front, IsText (front ++ bytes)

namespace EndsText

theorem of_isText {bytes : List UInt8} (text : IsText bytes) : EndsText bytes :=
  ⟨[], text⟩

theorem of_suffix {bytes rest : List UInt8} (ends : EndsText bytes) (suffix : rest <:+ bytes) :
    EndsText rest := by
  obtain ⟨front, text⟩ := ends
  obtain ⟨passed, rfl⟩ := suffix
  exact ⟨front ++ passed, by rwa [List.append_assoc]⟩

theorem behind_ascii {byte : UInt8} {rest : List UInt8} (ends : EndsText (byte :: rest))
    (ascii : byte < 0x80) : IsText rest := by
  obtain ⟨front, text⟩ := ends
  exact text.behind_ascii ascii

end EndsText
end LogRecord.Utf8
