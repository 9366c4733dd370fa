import LogRecord.Proofs.Format.Faults
import LogRecord.Proofs.Format.Reading
import Mathlib.Tactic.TFAE

/-! The checks that build no format agree with the format.

They walk the uncut text byte by byte inside a bound, where the format is read from the cut text in
jumps. Both come by the same directives (`Precheck.slotCountIn_eq`, `Precheck.isUsableIn_eq`). -/

set_option autoImplicit false
namespace LogRecord

/-! ## Windows against bytes -/

theorem Window.contents_before (terminator : UInt8) (bytes : List UInt8) :
    (before terminator bytes).contents = bytes.takeWhile (· != terminator) := by
  rw [List.takeWhile_eq_take_findIdx_not, contents, before]
  simp only [bne, Bool.not_not]

theorem Window.contents_eq_cons {window : Window} {byte : UInt8}
    (front : window.front? = some byte) : window.contents = byte :: (window.drop 1).contents := by
  rw [front?_eq] at front
  obtain ⟨rest, split⟩ := List.head?_eq_some_iff.mp front
  rw [contents_drop, split, List.drop_one, List.tail_cons]

namespace Located

theorem read_contents_percent (offset : Nat) {window : Window}
    (front : window.front? = some '%'.toUInt8) :
    ∃ next, read offset window.contents =
      { offset, directive := (Directive.scan (window.drop 1)).1 } ::
        read next (Directive.scan (window.drop 1)).2.contents := by
  have scanned := Directive.scan_eq_read (window.drop 1)
  rw [Window.contents_eq_cons front, read_percent_cons offset scanned.symm]
  exact ⟨_, rfl⟩

theorem read_contents_plain (offset : Nat) {window : Window} (nonempty : window.size ≠ 0)
    (front : window.front? ≠ some '%'.toUInt8) :
    read offset window.contents = read (offset + 1) (window.drop 1).contents := by
  obtain ⟨byte, here⟩ := Option.ne_none_iff_exists'.mp (mt Window.front?_eq_none_iff.mp nonempty)
  have plain : byte ≠ '%'.toUInt8 := fun same => front (by rw [here, same])
  rw [Window.contents_eq_cons here, read, if_neg plain]

end Located

/-! ## Both checks -/

theorem Directive.length_slots (directive : Directive) :
    directive.slots.length = directive.slotCount := by
  cases directive with
  | percent => rfl
  | specifier read =>
    rcases read with ⟨dynamicWidth, precision, conversion⟩
    cases dynamicWidth <;> cases precision <;> rfl

namespace Precheck

theorem slotCountIn_eq (offset : Nat) (window : Window) :
    slotCountIn window =
      ((Located.read offset window.contents).flatMap (·.directive.slots)).length := by
  fun_induction slotCountIn window generalizing offset with
  | case1 window empty =>
    rw [List.length_eq_zero_iff.mp (window.length_contents.trans empty), Located.read]
    rfl
  | case2 window nonempty front read ih =>
    obtain ⟨next, split⟩ := Located.read_contents_percent offset front
    rw [split, List.flatMap_cons, List.length_append, Directive.length_slots, ih next]
  | case3 window nonempty front ih =>
    rw [Located.read_contents_plain offset nonempty front, ih (offset + 1)]

theorem isUsableIn_eq (offset : Nat) (window : Window) :
    isUsableIn window = (Located.read offset window.contents).all (·.directive.isUsable) := by
  fun_induction isUsableIn window generalizing offset with
  | case1 window empty =>
    rw [List.length_eq_zero_iff.mp (window.length_contents.trans empty), Located.read]
    rfl
  | case2 window nonempty front read ih =>
    obtain ⟨next, split⟩ := Located.read_contents_percent offset front
    rw [split, List.all_cons, ih next]
  | case3 window nonempty front ih =>
    rw [Located.read_contents_plain offset nonempty front, ih (offset + 1)]

theorem slotCount_eq (text : String) :
    slotCount text = (Format.ofString text).slots.length := by
  rw [slotCount, slotCountIn_eq 0, Window.contents_before, Format.ofString,
    Format.ofBytes_eq_read]
  rfl

theorem isUsable_iff (text : String) :
    isUsable text = true ↔ (Format.ofString text).issues = [] := by
  rw [isUsable, isUsableIn_eq 0, Window.contents_before, List.all_eq_true, Format.ofString,
    Format.ofBytes_eq_read]
  exact Format.issuesFrom_eq_nil_iff.symm

end Precheck

/-! ## Checking a format -/

namespace Format

theorem check_eq_ok_iff {format : Format} : format.check = .ok () ↔ format.issues = [] := by
  unfold check
  cases format.issues <;> simp

theorem parse_eq_ok_iff {text : String} {parsed : Format} :
    parse text = .ok parsed ↔ (ofString text).issues = [] ∧ ofString text = parsed := by
  cases listed : (ofString text).issues <;>
    simp [parse, check, listed, bind, Except.bind, pure, Except.pure]

theorem parse_eq_error_iff {text : String} {issue : Issue} :
    parse text = .error issue ↔ (ofString text).issues.head? = some issue := by
  cases listed : (ofString text).issues <;>
    simp [parse, check, listed, bind, Except.bind, pure, Except.pure]

end Format

/-- The number of slots is counted without building them, and a text passes the check that builds
no format exactly when its format passes every other. -/
theorem Precheck.agrees_with_format (text : String) :
    slotCount text = (Format.ofString text).slots.length ∧
      [isUsable text = true, (Format.ofString text).isValid = true,
        (Format.ofString text).check = .ok (), ∃ parsed, Format.parse text = .ok parsed,
        Format.parse text = .ok (Format.ofString text),
        Slot.invalid ∉ (Format.ofString text).slots].TFAE ∧
      ∀ issue, Format.parse text = .error issue ↔
        (Format.ofString text).issues.head? = some issue := by
  refine ⟨slotCount_eq text, ?_, fun issue => Format.parse_eq_error_iff⟩
  tfae_have 1 ↔ 2 := by rw [isUsable_iff, Format.isValid, List.isEmpty_iff]
  tfae_have 2 ↔ 3 := by rw [Format.check_eq_ok_iff, Format.isValid, List.isEmpty_iff]
  tfae_have 3 ↔ 6 := Format.check_eq_ok_iff.trans Format.issues_eq_nil_iff_slots
  tfae_have 5 → 4 := fun parsed => ⟨Format.ofString text, parsed⟩
  tfae_have 4 → 3
  | ⟨_, parsed⟩ => Format.check_eq_ok_iff.mpr (Format.parse_eq_ok_iff.mp parsed).1
  tfae_have 3 → 5 := fun checked =>
    Format.parse_eq_ok_iff.mpr ⟨Format.check_eq_ok_iff.mp checked, rfl⟩
  tfae_finish

end LogRecord
