import LogRecord.Proofs.Inspection.Input
import LogRecord.Proofs.Text.Quoting

/-! The report cannot be forged or broken by the texts that it is on.

Whatever a text is made of, its block of the report has one line for the text, one for each slot and
one for each issue, and the lead `"  error: "` tells the lines of the third kind from the others
(`Inspection.run_framed`). -/

set_option autoImplicit false
namespace LogRecord

open Lines

/-! ## Each part stays on its line -/

theorem Slot.isLine_name (slot : Slot) : IsLine slot.name := by
  unfold name
  split
  case h_7 limit =>
    rw [isLine_append, isLine_append]
    exact ⟨⟨by decide, isLine_toString limit.toNat⟩, by decide⟩
  all_goals decide

theorem Issue.isLine_message (issue : Issue) : IsLine issue.message := by
  have number := isLine_toString issue.offset
  unfold message
  split
  next conversion _ =>
    rw [isLine_append, isLine_append, isLine_append]
    exact ⟨⟨⟨by decide, Quoted.isLine_ofChar conversion⟩, by decide⟩, number⟩
  all_goals
    rw [isLine_append, isLine_append]
    exact ⟨⟨by decide, number⟩, by decide⟩

namespace Inspection

theorem isLine_header (text : String) (slotCount : Nat) : IsLine (header text slotCount) := by
  rw [header, isLine_append, isLine_append, isLine_append]
  exact ⟨⟨⟨Quoted.isLine_ofString text, by decide⟩, isLine_toString slotCount⟩, by decide⟩

theorem isLine_slotLine (index : Nat) (slot : Slot) : IsLine (slotLine index slot) := by
  rw [slotLine, isLine_append, isLine_append, isLine_append]
  exact ⟨⟨⟨by decide, isLine_toString index⟩, by decide⟩, slot.isLine_name⟩

theorem isLine_issueLine (issue : Issue) : IsLine (issueLine issue) := by
  rw [issueLine, isLine_append]
  exact ⟨by decide, issue.isLine_message⟩

theorem isLine_of_mem_report {text line : String} (member : line ∈ report text) : IsLine line := by
  rw [report, List.mem_cons, List.mem_append, List.mem_mapIdx, List.mem_map] at member
  rcases member with rfl | ⟨index, _, rfl⟩ | ⟨issue, -, rfl⟩
  · exact isLine_header text _
  · exact isLine_slotLine index _
  · exact isLine_issueLine issue

/-! ## Lines that tell of an issue -/

/-- The line starts as those that tell of an issue do. -/
def IsError (line : String) : Prop :=
  "  error: ".toList <+: line.toList

instance (line : String) : Decidable (IsError line) :=
  inferInstanceAs (Decidable ("  error: ".toList <+: line.toList))

theorem isError_iff {line : String} :
    IsError line ↔ [' ', ' ', 'e', 'r', 'r', 'o', 'r', ':', ' '] <+: line.toList :=
  Iff.rfl

/-- A quote comes first where the lead has a space. -/
theorem not_isError_header (text : String) (slotCount : Nat) :
    ¬ IsError (header text slotCount) := by
  obtain ⟨inside, quoted⟩ := Quoted.exists_ofString_eq text
  rw [isError_iff, header, quoted]
  simp only [String.toList_append, String.reduceToList, List.cons_append, List.nil_append,
    List.cons_prefix_cons]
  rintro ⟨same, -⟩
  contradiction

/-- A digit comes third where the lead has a letter. -/
theorem not_isError_slotLine (index : Nat) (slot : Slot) : ¬ IsError (slotLine index slot) := by
  obtain ⟨digit, digits, written⟩ :=
    List.exists_cons_of_ne_nil (Nat.toDigits_ne_nil (n := index) (b := 10))
  have isDigit : digit.isDigit :=
    Nat.isDigit_of_mem_toDigits (by decide) (by decide) (written ▸ List.mem_cons_self)
  rw [isError_iff, slotLine, String.toList_append, String.toList_append, String.toList_append,
    Nat.toString_eq_repr, Nat.toList_repr, written]
  simp only [String.reduceToList, List.cons_append, List.nil_append, List.cons_prefix_cons]
  rintro ⟨-, -, rfl, -⟩
  contradiction

theorem isError_issueLine (issue : Issue) : IsError (issueLine issue) := by
  rw [IsError, issueLine, String.toList_append]
  exact List.prefix_append _ _

/-! ## Blocks -/

/-- The lines of a block are told by their place and by what they start with. -/
structure Framed (format : Format) (lines : List String) : Prop where
  length_eq : lines.length = 1 + format.slots.length + format.issues.length
  header : ∃ inside : String, lines[0]? =
    some ("\"" ++ inside ++ "\"" ++ ": " ++ toString format.slots.length ++ " argument(s)")
  slot : ∀ (place : Nat) (slot : Slot), format.slots[place]? = some slot →
    lines[1 + place]? = some ("  " ++ toString place ++ ": " ++ slot.name)
  issue : ∀ (place : Nat) (issue : Issue), format.issues[place]? = some issue →
    lines[1 + format.slots.length + place]? = some ("  error: " ++ issue.message)
  isError_iff : ∀ (place : Nat) (line : String), lines[place]? = some line →
    (IsError line ↔ 1 + format.slots.length ≤ place)

theorem getElem?_report (text : String) (place : Nat) :
    (report text)[1 + place]? =
      if place < (Format.ofString text).slots.length then
        (Format.ofString text).slots[place]?.map (slotLine place)
      else
        (Format.ofString text).issues[place - (Format.ofString text).slots.length]?.map
          issueLine := by
  rw [report, Nat.add_comm, List.getElem?_cons_succ, List.getElem?_append, List.length_mapIdx,
    List.getElem?_mapIdx, List.getElem?_map]

theorem framed_report (text : String) : Framed (Format.ofString text) (report text) := by
  constructor
  case length_eq =>
    rw [report, List.length_cons, List.length_append, List.length_mapIdx, List.length_map]
    omega
  case header =>
    obtain ⟨inside, quoted⟩ := Quoted.exists_ofString_eq text
    refine ⟨inside, congrArg some ?_⟩
    rw [Inspection.header, quoted]
  case slot =>
    intro place slot found
    have inside := (List.getElem?_eq_some_iff.mp found).1
    rw [getElem?_report, if_pos inside, found]
    rfl
  case issue =>
    intro place issue found
    rw [Nat.add_assoc, getElem?_report, if_neg (by omega), Nat.add_sub_cancel_left, found]
    rfl
  case isError_iff =>
    intro place line found
    cases place with
    | zero =>
      obtain rfl := Option.some.inj found
      exact iff_of_false (not_isError_header text _) (by omega)
    | succ place =>
      rw [Nat.add_comm, getElem?_report] at found
      split at found
      next early =>
        obtain ⟨slot, -, rfl⟩ := Option.map_eq_some_iff.mp found
        exact iff_of_false (not_isError_slotLine place slot) (by omega)
      next late =>
        obtain ⟨issue, -, rfl⟩ := Option.map_eq_some_iff.mp found
        exact iff_of_true (isError_issueLine issue) (by omega)

/-- The part of the report that is on one text. -/
def block (text : String) : String :=
  String.join ((report text).map (· ++ "\n"))

theorem output_ofTexts (texts : List String) :
    (ofTexts texts).output = String.join (texts.map block) := by
  change String.join ((texts.flatMap report).map (· ++ "\n")) = _
  induction texts with
  | nil => rfl
  | cons text texts ih =>
    rw [List.flatMap_cons, List.map_append, String.join_append, ih, List.map_cons, String.join_cons,
      block]

/-! ## Whole reports -/

theorem countP_isError_report (text : String) :
    (report text).countP (IsError ·) = (Format.ofString text).issues.length := by
  have slots : ((Format.ofString text).slots.mapIdx slotLine).countP (IsError ·) = 0 := by
    rw [List.countP_eq_zero]
    intro line member
    obtain ⟨index, _, rfl⟩ := List.mem_mapIdx.mp member
    rw [decide_eq_true_eq]
    exact not_isError_slotLine index _
  have issues : ((Format.ofString text).issues.map issueLine).countP (IsError ·) =
      (Format.ofString text).issues.length := by
    rw [List.countP_map, List.countP_eq_length]
    intro issue _
    exact decide_eq_true (isError_issueLine issue)
  have header := not_isError_header text (Format.ofString text).slots.length
  rw [report, List.countP_cons_of_neg (by rw [decide_eq_true_eq]; exact header),
    List.countP_append, slots, issues, Nat.zero_add]

theorem length_flatMap_report (texts : List String) :
    (texts.flatMap report).length = texts.foldr (fun text total =>
      1 + (Format.ofString text).slots.length + (Format.ofString text).issues.length + total)
      0 := by
  induction texts with
  | nil => rfl
  | cons text texts ih =>
    rw [List.flatMap_cons, List.length_append, (framed_report text).length_eq, ih, List.foldr_cons]

theorem countP_flatMap_report (texts : List String) :
    (texts.flatMap report).countP (IsError ·) =
      texts.foldr (fun text total => (Format.ofString text).issues.length + total) 0 := by
  induction texts with
  | nil => rfl
  | cons text texts ih =>
    rw [List.flatMap_cons, List.countP_append, countP_isError_report, ih, List.foldr_cons]

theorem exists_isError_iff {text : String} :
    (∃ line ∈ report text, IsError line) ↔ ¬ (Format.ofString text).isValid := by
  have counted : 0 < (report text).countP (IsError ·) ↔ ∃ line ∈ report text, IsError line := by
    simp only [List.countP_pos_iff, decide_eq_true_eq]
  rw [← counted, countP_isError_report, Format.isValid, List.isEmpty_iff, List.length_pos_iff]

theorem exitCode_ofTexts {texts : List String} :
    (ofTexts texts).exitCode = 1 ↔ ∃ text ∈ texts, ¬ (Format.ofString text).isValid := by
  rw [← List.all_eq_false]
  unfold ofTexts
  split
  next valid => simp [valid]
  next invalid => simpa using invalid

theorem exitCode_ofTexts_iff_isError {texts : List String} :
    (ofTexts texts).exitCode = 1 ↔ ∃ line ∈ texts.flatMap report, IsError line := by
  simp only [exitCode_ofTexts, ← exists_isError_iff, List.mem_flatMap]
  constructor
  · rintro ⟨text, member, line, inside, error⟩
    exact ⟨line, ⟨text, member, inside⟩, error⟩
  · rintro ⟨line, ⟨text, member, inside⟩, error⟩
    exact ⟨text, member, line, inside, error⟩

/-! ## Runs -/

/-- The texts that a run is about: its arguments, or without any the lines of its input. -/
inductive Inspects : List String → ByteArray → List String → Prop where
  | arguments {texts : List String} {unread : ByteArray} : texts ≠ [] → Inspects texts unread texts
  | lines {text : String} : Inspects [] text.toByteArray (Lines.ofString text)

theorem Inspects.run_eq {arguments texts : List String} {input : ByteArray}
    (inspected : Inspects arguments input texts) : run arguments input = ofTexts texts := by
  cases inspected with
  | arguments given => exact run_arguments given input
  | lines => exact run_text _

/-- The output is one block after the other, and a reader who cuts it at its newlines finds the
lines of the blocks: for each text one in front, one for each slot in order, one for each issue.
Only those for issues start with the lead of an error, and a run fails exactly when there is one. -/
theorem run_framed {arguments texts : List String} {input : ByteArray}
    (inspected : Inspects arguments input texts) :
    let inspection := run arguments input
    let lines := texts.flatMap report
    inspection.output = String.join (texts.map block) ∧
    (∀ text : String,
      Terminated (report text) (block text) ∧ Framed (Format.ofString text) (report text)) ∧
    Terminated lines inspection.output ∧
    lines.length = texts.foldr (fun text total =>
      1 + (Format.ofString text).slots.length + (Format.ofString text).issues.length + total) 0 ∧
    lines.countP (IsError ·) =
      texts.foldr (fun text total => (Format.ofString text).issues.length + total) 0 ∧
    (inspection.exitCode = 1 ↔ ∃ line ∈ lines, IsError line) := by
  intro inspection lines
  have reported : inspection = ofTexts texts := inspected.run_eq
  rw [reported]
  refine ⟨output_ofTexts texts, ?_, ?_, ?_, ?_, ?_⟩
  · intro text
    exact ⟨terminated_join fun line => isLine_of_mem_report, framed_report text⟩
  · apply terminated_join
    intro line member
    obtain ⟨text, -, inside⟩ := List.mem_flatMap.mp member
    exact isLine_of_mem_report inside
  · exact length_flatMap_report texts
  · exact countP_flatMap_report texts
  · exact exitCode_ofTexts_iff_isError

/-- Texts that look like lines of a report, and a conversion that is a newline. -/
theorem run_framed_feigned_lines :
    let texts := ["a\n  error: %q\"\n", "%\n%n%*d"]
    let inspection := run texts ByteArray.empty
    let lines := texts.flatMap report
    Inspects texts ByteArray.empty texts ∧
      inspection.output =
        "\"a\\n  error: %q\\\"\\n\": 1 argument(s)\n" ++
        "  0: Invalid\n" ++
        "  error: unrecognized conversion 'q' in specifier at byte 11\n" ++
        "\"%\\n%n%*d\": 4 argument(s)\n" ++
        "  0: Invalid\n" ++
        "  1: Invalid\n" ++
        "  2: DynamicWidth\n" ++
        "  3: NonString\n" ++
        "  error: unrecognized conversion '\\n' in specifier at byte 0\n" ++
        "  error: %n specifier at byte 2 is not supported\n" ∧
      Terminated lines inspection.output ∧ lines.length = 10 ∧
      lines.countP (IsError ·) = 3 ∧ inspection.exitCode = 1 := by
  intro texts inspection lines
  have inspected : Inspects texts ByteArray.empty texts := .arguments (by decide)
  obtain ⟨-, -, terminated, length, errors, -⟩ := run_framed inspected
  exact ⟨inspected, by decide +kernel, terminated, length.trans (by decide +kernel),
    errors.trans (by decide +kernel), by decide +kernel⟩

end Inspection
end LogRecord
