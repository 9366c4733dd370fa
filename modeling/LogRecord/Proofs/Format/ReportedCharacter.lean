import LogRecord.Proofs.Format.Concatenation
import LogRecord.Proofs.Format.Issues

/-! The character that an issue reports.

An unknown conversion is reported by the character whose encoding starts behind the longest lead of
its specifier, wherever reading has come from and whatever stands around it. In a text of whole
characters that place begins a character (`Format.reported_character_of_text`). -/

set_option autoImplicit false
namespace LogRecord

open Grammar

/-! ## The character of a conversion -/

namespace Utf8

theorem first?_eq_none_iff {bytes : List UInt8} :
    first? bytes = none ↔ ∀ character, ¬ String.utf8EncodeChar character <+: bytes := by
  simp only [← first?_eq_some_iff, Option.eq_none_iff_forall_ne_some, ne_eq]

end Utf8

theorem Conversion.character_of_fault {bytes : List UInt8} {character : Char}
    (unknown : (read bytes).1.fault? = some (.unknown character)) :
    bytes ≠ [] ∧ (Utf8.first? bytes).getD '\uFFFD' = character := by
  cases bytes with
  | nil => cases unknown
  | cons byte rest =>
    rw [fault?_read_cons] at unknown
    split at unknown
    next => cases unknown
    next =>
      split at unknown
      next => cases unknown
      next => exact ⟨List.cons_ne_nil _ _, Fault.unknown.inj (Option.some.inj unknown)⟩

/-- The character is the one that starts here, and a stray byte is told as U+FFFD. -/
theorem Conversion.character_spelled {bytes : List UInt8} {character : Char}
    (unknown : (read bytes).1.fault? = some (.unknown character)) :
    (∀ other, String.utf8EncodeChar other <+: bytes → character = other) ∧
      ((∀ other, ¬ String.utf8EncodeChar other <+: bytes) → character = '\uFFFD') := by
  obtain ⟨-, rfl⟩ := character_of_fault unknown
  constructor
  · intro other starts
    rw [Utf8.first?_eq_some_iff.mpr starts, Option.getD_some]
  · intro stray
    rw [Utf8.first?_eq_none_iff.mpr stray, Option.getD_none]

/-! ## Whole characters -/

/-- The text of a string ends between two of its characters. -/
theorem Format.exists_characters_of_text (string : String) :
    ∃ inside behind : List Char, string.toList = inside ++ behind ∧
      inside.flatMap String.utf8EncodeChar = textOf (Utf8.bytes string) := by
  have split := List.takeWhile_append_dropWhile (p := (· != (0 : UInt8))) (l := Utf8.bytes string)
  cases left : (Utf8.bytes string).dropWhile (· != 0) with
  | nil =>
    rw [left, List.append_nil] at split
    refine ⟨string.toList, [], (List.append_nil _).symm, ?_⟩
    rw [← Utf8.bytes_eq_flatMap]
    exact split.symm
  | cons byte rest =>
    have stop := List.head?_dropWhile_not (· != (0 : UInt8)) (Utf8.bytes string)
    rw [left] at stop
    obtain rfl : byte = 0 := by simpa using stop
    rw [left, Utf8.bytes_eq_flatMap] at split
    obtain ⟨inside, null, behind, whole, spelled, -, -⟩ :=
      Utf8.exists_split_at_ascii split.symm (by decide)
    exact ⟨inside, null :: behind, whole, by rw [spelled, Utf8.bytes_eq_flatMap]; rfl⟩

/-- A conversion begins behind whole characters: the `%` and its lead have only characters of one
byte. -/
theorem Grammar.SpelledAt.exists_characters {text : List UInt8} {place : Nat} {lead : Lead}
    {characters : List Char} (spelled : SpelledAt text place lead)
    (whole : characters.flatMap String.utf8EncodeChar = text) :
    ∃ earlier later, characters = earlier ++ later ∧
      (earlier.flatMap String.utf8EncodeChar).length = place + 1 + lead.bytes.length ∧
      later.flatMap String.utf8EncodeChar = text.drop (place + 1 + lead.bytes.length) := by
  have parted : text = text.take place ++ '%'.toUInt8 :: text.drop (place + 1) := by
    rw [← drop_eq_cons spelled.opens, List.take_append_drop]
  have opened : text.drop (place + 1) =
      lead.bytes ++ text.drop (place + 1 + lead.bytes.length) := by
    rw [← spelled.behindLead_eq]
    exact (Lead.isLongest_iff.mp spelled.lead).symm
  obtain ⟨inside, -⟩ := List.getElem?_eq_some_iff.mp spelled.opens
  obtain ⟨front, percent, rest, rfl, spelledFront, spelledPercent, spelledRest⟩ :=
    Utf8.exists_split_at_ascii (whole.trans parted) (by decide)
  obtain ⟨passed, later, rfl, spelledPassed, spelledLater⟩ :=
    Utf8.exists_split_behind_ascii
      (fun byte member => Utf8.ascii_of_standsAlone (lead.standsAlone byte member))
      (spelledRest.trans opened)
  refine ⟨front ++ percent :: passed, later, by rw [List.append_assoc, List.cons_append], ?_,
    spelledLater⟩
  rw [List.flatMap_append, List.flatMap_cons, spelledFront, spelledPercent, spelledPassed]
  simp only [List.length_append, List.length_take, List.length_singleton]
  omega

/-! ## Reported characters -/

/-- An unknown conversion is reported by the character that starts where the longest lead of its
specifier ends, and by U+FFFD if the text has no whole character there, as where it ends too early.
In a string that place is one between two characters, and the character behind it is the one
reported. -/
theorem Format.reported_character_of_text {bytes : List UInt8} {issue : Issue} {character : Char}
    (listed : issue ∈ (ofBytes bytes).issues) (unknown : issue.fault = .unknown character) :
    let text := textOf bytes
    (∃ lead : Lead, SpecifierAt text issue.offset lead) ∧
      ∀ lead : Lead, lead.IsLongest (text.drop (issue.offset + 1)) →
        let place := issue.offset + 1 + lead.bytes.length
        place < text.length ∧
          (∀ other, String.utf8EncodeChar other <+: text.drop place → character = other) ∧
          ((∀ other, ¬ String.utf8EncodeChar other <+: text.drop place) → character = '\uFFFD') ∧
          ∀ string, Utf8.bytes string = bytes →
            ∃ front rest, string.toList = front ++ character :: rest ∧
              (Utf8.bytes (String.ofList front)).length = place := by
  intro text
  have reported : (ofBytes bytes).Reports issue.offset (.unknown character) :=
    ⟨issue, listed, rfl, unknown⟩
  obtain ⟨found, specifier⟩ := exists_specifierAt_of_reports reported
  refine ⟨⟨found, specifier⟩, ?_⟩
  intro lead longest place
  have here : SpecifierAt text issue.offset lead :=
    ⟨specifier.seam, { specifier.spelled with lead := longest }⟩
  have fault := (reports_iff_of_specifierAt here).mp reported
  obtain ⟨left, -⟩ := Conversion.character_of_fault fault
  obtain ⟨starting, stray⟩ := Conversion.character_spelled fault
  refine ⟨?_, starting, stray, ?_⟩
  · exact Nat.lt_of_not_le fun ended => left (List.drop_eq_nil_of_le ended)
  · rintro string rfl
    obtain ⟨inside, behind, whole, spelled⟩ := exists_characters_of_text string
    obtain ⟨front, later, rfl, length, spelledLater⟩ := here.spelled.exists_characters spelled
    cases later with
    | nil => exact absurd spelledLater.symm left
    | cons first rest =>
      obtain rfl : character = first := by
        apply starting
        rw [← spelledLater]
        exact List.prefix_append _ _
      refine ⟨front, rest ++ behind, ?_, ?_⟩
      · rw [whole, List.append_assoc, List.cons_append]
      · rw [Utf8.bytes_ofList, length]

/-- Reading comes to the second specifier from inside the character of the first. In the other text
a null byte cuts a character off. -/
theorem Format.reported_character_behind_cut_character :
    let string := "%\u20ac%-08.3hl\u00fc\u0000%d"
    let issue : Issue := ⟨4, 1, .unknown '\u00fc'⟩
    let lead : Lead :=
      { flags := [⟨'-', by decide⟩, ⟨'0', by decide⟩], width := .numeral [8]
        precision := .numeral [3], lengths := [⟨'h', by decide⟩, ⟨'l', by decide⟩] }
    let cut : List UInt8 := ['%'.toUInt8, 0xE2, 0x82, 0, 0xAC]
    issue ∈ (ofBytes (Utf8.bytes string)).issues ∧
      lead.IsLongest ((textOf (Utf8.bytes string)).drop 5) ∧
      12 < (textOf (Utf8.bytes string)).length ∧
      (∃ front rest, string.toList = front ++ '\u00fc' :: rest ∧
        (Utf8.bytes (String.ofList front)).length = 12) ∧
      (⟨0, 0, .unknown '\uFFFD'⟩ : Issue) ∈ (ofBytes cut).issues ∧
      (∀ other, ¬ String.utf8EncodeChar other <+: [0xE2, 0x82]) ∧
      ∀ character, (⟨0, 0, .unknown character⟩ : Issue) ∈ (ofBytes cut).issues →
        character = '\uFFFD' := by
  intro string issue lead cut
  have listed : issue ∈ (ofBytes (Utf8.bytes string)).issues := by decide +kernel
  have longest : lead.IsLongest ((textOf (Utf8.bytes string)).drop 5) :=
    Lead.isLongest_iff.mpr (by decide +kernel)
  obtain ⟨inside, -, -, whole⟩ := (reported_character_of_text listed rfl).2 lead longest
  have known : textOf cut = ['%'.toUInt8, 0xE2, 0x82] := by decide +kernel
  have stray : ∀ other, ¬ String.utf8EncodeChar other <+: [0xE2, 0x82] :=
    Utf8.first?_eq_none_iff.mp (by decide +kernel)
  refine ⟨listed, longest, inside, whole string rfl, by decide +kernel, stray, ?_⟩
  intro character reported
  have empty : (Lead.mk [] (.numeral []) .absent []).IsLongest ((textOf cut).drop 1) :=
    Lead.isLongest_iff.mpr (by decide +kernel)
  apply ((reported_character_of_text reported rfl).2 _ empty).2.2.1
  rw [known]
  exact stray

end LogRecord
