import LogRecord.Proofs.Text.Lines
import LogRecord.Text.Quoted

/-! Quoted text stays on its line, whatever its characters are. -/

set_option autoImplicit false
namespace LogRecord.Quoted

open Lines

theorem newline_notMem_toDigits (number : Nat) : '\n' ∉ Nat.toDigits 16 number := by
  induction number using Nat.strongRecOn with
  | ind number ih =>
    have digit (value : Nat) : '\n' ∉ [value.digitChar] :=
      fun newline => Nat.digitChar_ne '\n' (by decide) (List.mem_singleton.mp newline).symm
    rw [Nat.toDigits_eq_if (by decide)]
    split
    next => exact digit number
    next large =>
      rw [List.mem_append, not_or]
      exact ⟨ih (number / 16) (by omega), digit (number % 16)⟩

theorem newline_notMem_escapeCodePoint (character : Char) :
    '\n' ∉ escapeCodePoint character := by
  rw [escapeCodePoint, List.mem_append, List.mem_append, not_or, not_or]
  exact ⟨⟨by decide, newline_notMem_toDigits character.toNat⟩, by decide⟩

/-- Of the characters that stand for themselves none is a newline, which has its own escape. -/
theorem newline_notMem_escape {quote : Char} (apart : quote ≠ '\n') (character : Char) :
    '\n' ∉ escape quote character := by
  unfold escape
  split
  case h_6 _ _ plain _ _ =>
    split
    next => simpa using apart.symm
    next =>
      split
      next => exact fun newline => plain (List.mem_singleton.mp newline).symm
      next => exact newline_notMem_escapeCodePoint character
  all_goals decide

theorem isLine_enclose {quote : Char} (apart : quote ≠ '\n') (characters : List Char) :
    IsLine (enclose quote characters) := by
  rw [IsLine, enclose, String.toList_ofList, List.mem_append, List.mem_cons, List.mem_flatMap]
  rintro ((ends | ⟨character, -, inside⟩) | ends)
  · exact apart ends.symm
  · exact newline_notMem_escape apart character inside
  · exact apart (List.mem_singleton.mp ends).symm

theorem isLine_ofChar (character : Char) : IsLine (ofChar character) :=
  isLine_enclose (by decide) [character]

theorem isLine_ofString (text : String) : IsLine (ofString text) :=
  isLine_enclose (by decide) text.toList

theorem exists_ofString_eq (text : String) :
    ∃ inside : String, ofString text = "\"" ++ inside ++ "\"" := by
  refine ⟨String.ofList (text.toList.flatMap (escape '\x22')), ?_⟩
  rw [← String.toList_inj, ofString, enclose]
  simp only [String.toList_ofList, String.toList_append, String.reduceToList, List.cons_append,
    List.nil_append]

end LogRecord.Quoted
