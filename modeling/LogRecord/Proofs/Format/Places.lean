import LogRecord.Proofs.Format.Faults
import LogRecord.Proofs.Format.LongestLead

/-! Where the specifiers of a text stand.

`Grammar.SpecifierAt` tells the specifiers of a text by its bytes alone. Every directive with a
fault is one of them (`Grammar.exists_specifierAt`), and what stands behind its longest lead tells
the fault (`Grammar.SpecifierAt.fault_iff`). -/

set_option autoImplicit false
namespace LogRecord

namespace Grammar

/-- A specifier with this lead stands at the place, unless the place is inside a directive. -/
structure SpelledAt (text : List UInt8) (place : Nat) (lead : Lead) : Prop where
  opens : text[place]? = some '%'.toUInt8
  notPercent : text[place + 1]? ≠ some '%'.toUInt8
  lead : lead.IsLongest (text.drop (place + 1))

/-- The place is inside no directive: it begins the text, or stands directly behind a literal byte,
a `%%` or the conversion of a specifier. -/
inductive Seam (text : List UInt8) : Nat → Prop where
  | front : Seam text 0
  | literal {place : Nat} {byte : UInt8} :
      Seam text place → text[place]? = some byte → byte ≠ '%'.toUInt8 → Seam text (place + 1)
  | percent {place : Nat} :
      Seam text place → text[place]? = some '%'.toUInt8 → text[place + 1]? = some '%'.toUInt8 →
        Seam text (place + 2)
  | specifier {place : Nat} {lead : Lead} {conversion : UInt8} :
      Seam text place → SpelledAt text place lead →
        text[place + 1 + lead.bytes.length]? = some conversion →
          Seam text (place + 1 + lead.bytes.length + 1)

/-- A specifier with this lead stands at the place. Its conversion is the byte at
`place + 1 + lead.bytes.length`, if the text has one there. -/
structure SpecifierAt (text : List UInt8) (place : Nat) (lead : Lead) : Prop where
  seam : Seam text place
  spelled : SpelledAt text place lead

def terminals : List Char := valueTerminals ++ ['s', 'n']

end Grammar

open Grammar

/-! ## The fault of a conversion -/

namespace Conversion

theorem read_snd (bytes : List UInt8) : (read bytes).2 = bytes.tail := by
  cases bytes <;> rfl

theorem mem_terminals_iff {byte : UInt8} :
    byte ∈ terminals.map Char.toUInt8 ↔
      isValueConversion byte = true ∨ byte = 's'.toUInt8 ∨ byte = 'n'.toUInt8 := by
  have value : isValueConversion byte = true ↔ byte ∈ valueTerminals.map Char.toUInt8 := by
    simp only [isValueConversion, isOneOf, List.any_eq_true, beq_iff_eq, List.mem_map]
    rfl
  rw [terminals, List.map_append, List.mem_append, ← value]
  simp

/-- The byte of the conversion alone tells the fault, but for the character that is reported. -/
theorem fault?_read_cons (byte : UInt8) (rest : List UInt8) :
    (read (byte :: rest)).1.fault? =
      if byte = 'n'.toUInt8 then some .unsupported
      else if byte ∈ terminals.map Char.toUInt8 then none
      else some (.unknown ((Utf8.first? (byte :: rest)).getD '\uFFFD')) := by
  by_cases isCount : byte = 'n'.toUInt8
  · subst isCount
    rfl
  · by_cases isText : byte = 's'.toUInt8
    · subst isText
      rfl
    · by_cases isValue : isValueConversion byte = true <;>
        simp [read, ofByte?, mem_terminals_iff, isCount, isText, isValue, fault?]

theorem fault?_read_iff (bytes : List UInt8) :
    ((read bytes).1.fault? = some .unsupported ↔ bytes.head? = some 'n'.toUInt8) ∧
      ((∃ character, (read bytes).1.fault? = some (.unknown character)) ↔
        ∃ byte, bytes.head? = some byte ∧ byte ∉ terminals.map Char.toUInt8) ∧
      ((read bytes).1.fault? = some .unterminated ↔ bytes.head? = none) := by
  cases bytes with
  | nil => simp [read, fault?]
  | cons byte rest =>
    rw [fault?_read_cons, List.head?_cons]
    by_cases isCount : byte = 'n'.toUInt8
    · have known : 'n'.toUInt8 ∈ terminals.map Char.toUInt8 := by decide
      simp [isCount, known, -List.mem_map]
    · by_cases known : byte ∈ terminals.map Char.toUInt8 <;>
        simp [isCount, known, -List.mem_map]

end Conversion

/-! ## Reading at a seam -/

variable {text : List UInt8} {place : Nat} {lead : Lead}

theorem drop_eq_cons_iff {byte : UInt8} {rest : List UInt8} :
    text.drop place = byte :: rest ↔ text[place]? = some byte ∧ text.drop (place + 1) = rest := by
  rw [← List.head?_drop, ← List.tail_drop]
  cases text.drop place <;> simp

theorem drop_eq_cons {byte : UInt8} (here : text[place]? = some byte) :
    text.drop place = byte :: text.drop (place + 1) :=
  drop_eq_cons_iff.mpr ⟨here, rfl⟩

/-- Reading counts a place by the bytes that are left. -/
theorem place_eq_next {next : Nat} (later : place < next) (inside : next ≤ text.length) :
    place + ((text.drop (place + 1)).length + 1 - (text.drop next).length) = next := by
  simp only [List.length_drop]
  omega

theorem Located.read_at_literal {byte : UInt8} (here : text[place]? = some byte)
    (plain : byte ≠ '%'.toUInt8) :
    Located.read place (text.drop place) = Located.read (place + 1) (text.drop (place + 1)) := by
  rw [drop_eq_cons here, Located.read, if_neg plain]

theorem Located.read_at_percent {next : Nat} (opens : text[place]? = some '%'.toUInt8)
    (later : place < next) (inside : next ≤ text.length)
    (left : (Directive.read (text.drop (place + 1))).2 = text.drop next) :
    Located.read place (text.drop place) =
      { offset := place, directive := (Directive.read (text.drop (place + 1))).1 } ::
        Located.read next (text.drop next) := by
  rw [drop_eq_cons opens, Located.read, if_pos rfl, left, place_eq_next later inside]

namespace Grammar.SpelledAt

theorem behindLead_eq (spelled : SpelledAt text place lead) :
    Specifier.behindLead (text.drop (place + 1)) = text.drop (place + 1 + lead.bytes.length) := by
  rw [spelled.lead.behindLead_eq, List.drop_drop]

theorem read_eq (spelled : SpelledAt text place lead) :
    (Directive.read (text.drop (place + 1))).1.fault? =
        (Conversion.read (text.drop (place + 1 + lead.bytes.length))).1.fault? ∧
      (Directive.read (text.drop (place + 1))).2 =
        text.drop (place + 1 + lead.bytes.length + 1) := by
  have noPercent : (text.drop (place + 1)).head? ≠ some '%'.toUInt8 := by
    rw [List.head?_drop]
    exact spelled.notPercent
  rw [Directive.read, if_neg noPercent, ← List.tail_drop (i := place + 1 + lead.bytes.length),
    ← spelled.behindLead_eq]
  exact ⟨rfl, Conversion.read_snd _⟩

end Grammar.SpelledAt

theorem Grammar.exists_spelledAt (opens : text[place]? = some '%'.toUInt8)
    (notPercent : text[place + 1]? ≠ some '%'.toUInt8) :
    ∃ lead : Lead, SpelledAt text place lead := by
  obtain ⟨lead, longest⟩ := Lead.exists_isLongest (text.drop (place + 1))
  exact ⟨lead, opens, notPercent, longest⟩

theorem Directive.read_drop_percent (second : text[place + 1]? = some '%'.toUInt8) :
    read (text.drop (place + 1)) = (.percent, text.drop (place + 2)) := by
  rw [drop_eq_cons second]
  rfl

/-- A seam is a place at which reading the whole text comes by. -/
theorem Grammar.Seam.read_eq (seam : Seam text place) :
    ∃ earlier, Located.read 0 text = earlier ++ Located.read place (text.drop place) := by
  induction seam with
  | front => exact ⟨[], rfl⟩
  | literal _ here plain ih =>
    obtain ⟨earlier, split⟩ := ih
    exact ⟨earlier, by rw [split, Located.read_at_literal here plain]⟩
  | @percent place _ opens second ih =>
    obtain ⟨earlier, split⟩ := ih
    obtain ⟨inside, -⟩ := List.getElem?_eq_some_iff.mp second
    have left := congrArg Prod.snd (Directive.read_drop_percent second)
    have step := Located.read_at_percent opens (by omega) (by omega) left
    exact ⟨earlier ++ [_], by rw [split, step, List.append_assoc]; rfl⟩
  | @specifier place lead conversion _ spelled here ih =>
    obtain ⟨earlier, split⟩ := ih
    obtain ⟨inside, -⟩ := List.getElem?_eq_some_iff.mp here
    have step := Located.read_at_percent spelled.opens (by omega) (by omega) spelled.read_eq.2
    exact ⟨earlier ++ [_], by rw [split, step, List.append_assoc]; rfl⟩

-- Along the recursion of reading. A specifier without conversion leaves nothing to be read, and any
-- other directive leaves what stands behind a seam.
theorem Grammar.Seam.of_mem_read {bytes : List UInt8} {located : Located}
    (rest : text.drop place = bytes) (seam : Seam text place)
    (member : located ∈ Located.read place bytes) :
    Seam text located.offset ∧ text[located.offset]? = some '%'.toUInt8 ∧
      located.directive = (Directive.read (text.drop (located.offset + 1))).1 := by
  fun_induction Located.read place bytes with
  | case1 => contradiction
  | case2 place bytes ih =>
    obtain ⟨opens, rfl⟩ := drop_eq_cons_iff.mp rest
    rcases List.mem_cons.mp member with rfl | later
    · exact ⟨seam, opens, rfl⟩
    · by_cases second : text[place + 1]? = some '%'.toUInt8
      · obtain ⟨inside, -⟩ := List.getElem?_eq_some_iff.mp second
        have left := congrArg Prod.snd (Directive.read_drop_percent second)
        rw [left, place_eq_next (by omega) (by omega)] at ih later
        exact ih rfl (.percent seam opens second) later
      · obtain ⟨lead, spelled⟩ := exists_spelledAt opens second
        rw [spelled.read_eq.2] at ih later
        cases conversion : text[place + 1 + lead.bytes.length]? with
        | none =>
          have ended := List.getElem?_eq_none_iff.mp conversion
          rw [List.drop_eq_nil_of_le (Nat.le_succ_of_le ended), Located.read] at later
          contradiction
        | some byte =>
          obtain ⟨inside, -⟩ := List.getElem?_eq_some_iff.mp conversion
          rw [place_eq_next (by omega) (by omega)] at ih later
          exact ih rfl (.specifier seam spelled conversion) later
  | case3 place byte bytes plain ih =>
    obtain ⟨here, rfl⟩ := drop_eq_cons_iff.mp rest
    exact ih rfl (.literal seam here plain) member

/-! ## The specifiers of a text and their faults -/

theorem Grammar.SpecifierAt.fault_iff {fault : Fault} (specifier : SpecifierAt text place lead) :
    (∃ located ∈ Located.read 0 text, located.offset = place ∧
        located.directive.fault? = some fault) ↔
      (Conversion.read (text.drop (place + 1 + lead.bytes.length))).1.fault? = some fault := by
  rw [← specifier.spelled.read_eq.1]
  constructor
  · rintro ⟨located, member, rfl, faulty⟩
    obtain ⟨-, -, same⟩ := Seam.of_mem_read (List.drop_zero) .front member
    rwa [← same]
  · intro faulty
    obtain ⟨earlier, split⟩ := specifier.seam.read_eq
    rw [split, drop_eq_cons specifier.spelled.opens, Located.read, if_pos rfl]
    exact ⟨_, List.mem_append_right _ List.mem_cons_self, rfl, faulty⟩

/-- Only a specifier has a fault. -/
theorem Grammar.exists_specifierAt {located : Located} {fault : Fault}
    (member : located ∈ Located.read 0 text) (faulty : located.directive.fault? = some fault) :
    ∃ lead : Lead, SpecifierAt text located.offset lead := by
  obtain ⟨seam, opens, same⟩ := Seam.of_mem_read (List.drop_zero) .front member
  have notPercent : text[located.offset + 1]? ≠ some '%'.toUInt8 := by
    intro second
    rw [same, Directive.read_drop_percent second] at faulty
    contradiction
  obtain ⟨lead, spelled⟩ := exists_spelledAt opens notPercent
  exact ⟨lead, seam, spelled⟩

end LogRecord
