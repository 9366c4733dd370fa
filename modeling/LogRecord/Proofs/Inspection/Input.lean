import LogRecord.Inspector
import LogRecord.Proofs.Text.Characters
import LogRecord.Proofs.Text.Lines

/-! The inspector takes lines as it takes arguments.

Texts may be given one by one or as the lines of the input, with any ends that tell them apart. An
input that is not text all through is refused before anything is reported
(`Inspection.run_lines_eq_run_arguments`). -/

set_option autoImplicit false
namespace LogRecord

theorem Utf8.not_isText_append {good : String} {bad : List UInt8} (broken : ¬ IsText bad) :
    ¬ IsText (bytes (good ++ "\n") ++ bad) := by
  intro text
  have split : bytes (good ++ "\n") ++ bad = bytes good ++ '\n'.toUInt8 :: bad := by
    rw [bytes_append, List.append_assoc]
    rfl
  rw [split] at text
  exact broken (text.behind_ascii (by decide))

namespace Inspection

theorem run_arguments {texts : List String} (given : texts ≠ []) (unread : ByteArray) :
    run texts unread = ofTexts texts := by
  cases texts with
  | nil => contradiction
  | cons text texts => rfl

theorem run_text (text : String) : run [] text.toByteArray = ofTexts (Lines.ofString text) := by
  rw [run, Utf8.text?_toByteArray]

theorem run_broken {input : ByteArray} (broken : ¬ Utf8.IsText input.data.toList) :
    run [] input = { output := "", exitCode := 1 } := by
  rw [run, Utf8.text?_eq_none broken]

/-- Texts written as lines are reported as when they are given as arguments. An input that is no
text prints nothing and fails, however many good lines stand in front of what is broken. -/
theorem run_lines_eq_run_arguments :
    (∀ (texts : List String) (text : String) (unread : ByteArray), texts ≠ [] →
      Lines.Written texts text → run [] text.toByteArray = run texts unread) ∧
    (∀ input : ByteArray, ¬ Utf8.IsText input.data.toList →
      run [] input = { output := "", exitCode := 1 }) ∧
    ∀ (good : String) (bad : ByteArray), ¬ Utf8.IsText bad.data.toList →
      run [] ((good ++ "\n").toByteArray ++ bad) = { output := "", exitCode := 1 } := by
  refine ⟨?_, fun input => run_broken, ?_⟩
  · intro texts text unread given written
    rw [run_text, run_arguments given, written.ofString_eq]
  · intro good bad broken
    apply run_broken
    rw [ByteArray.data_append, Array.toList_append]
    exact Utf8.not_isText_append broken

theorem run_lines_eq_run_arguments_mixed_ends :
    let texts := ["%d\r", "", "%n"]
    let text := "%d\r" ++ "\r\n" ++ ("" ++ "\n" ++ "%n")
    let bad := [0xFF].toByteArray
    texts ≠ [] ∧ Lines.Written texts text ∧
      run [] text.toByteArray = run texts ByteArray.empty ∧
      (run [] text.toByteArray).exitCode = 1 ∧
      ¬ Utf8.IsText bad.data.toList ∧
      run [] (("%d" ++ "\n").toByteArray ++ bad) = { output := "", exitCode := 1 } := by
  intro texts text bad
  have written : Lines.Written texts text :=
    .carriageReturn (by decide) <| .newline (by decide) (by decide) <|
      .unended (by decide) (by decide)
  have broken : ¬ Utf8.IsText bad.data.toList := by
    rintro ⟨_ | ⟨character, characters⟩, spelled⟩
    · contradiction
    · have found := Utf8.first?_eq_some_iff.mpr ⟨_, spelled⟩
      have none : Utf8.first? bad.data.toList = none := by decide +kernel
      rw [none] at found
      contradiction
  obtain ⟨same, -, behind⟩ := run_lines_eq_run_arguments
  have equal := same texts text ByteArray.empty (by decide) written
  refine ⟨by decide, written, equal, ?_, broken, behind "%d" bad broken⟩
  rw [equal]
  decide +kernel

end Inspection
end LogRecord
