import LogRecord.Format.Basic
import LogRecord.Format.Precheck
import Mathlib.Data.List.TakeWhile

/-! Directives read from byte lists.

`read` is `scan` on the contents of a window. A scan finds what `read` finds and leaves what `read`
leaves, so nothing behind the bound of a window can matter (`scan_eq_read`), and the directives of a
text are those of its bytes (`Format.ofBytes_eq_read`). -/

set_option autoImplicit false
namespace LogRecord

/-! ## Reading one directive -/

theorem Utf8.first?_take (bytes : List UInt8) : first? (bytes.take 4) = first? bytes := by
  simp [first?, List.take_take]

namespace Precision

def read (bytes : List UInt8) : Precision × List UInt8 :=
  if bytes.head? = some '.'.toUInt8 then
    if bytes.tail.head? = some '*'.toUInt8 then (.dynamic, bytes.tail.tail)
    else (ofDigits (bytes.tail.takeWhile isDigit), bytes.tail.dropWhile isDigit)
  else (.absent, bytes)

theorem scan_eq_read (window : Window) :
    ((scan window).1, (scan window).2.contents) = read window.contents := by
  simp only [scan, read, Window.front?_eq, Window.contents_drop, List.drop_one, Window.take_run]
  split
  · split
    · simp only [Window.contents_drop, List.drop_one]
    · simp only [Window.contents_skip, Window.contents_drop, List.drop_one]
  · rfl

end Precision

namespace Conversion

def read : List UInt8 → Conversion × List UInt8
  | [] => (.missing, [])
  | byte :: rest =>
    ((ofByte? byte).getD (.unknown ((Utf8.first? (byte :: rest)).getD '\uFFFD')), rest)

theorem character_eq (window : Window) :
    character window = (Utf8.first? window.contents).getD '\uFFFD' := by
  rw [character, Window.take_eq, Utf8.first?_take]

theorem scan_eq_read (window : Window) :
    ((scan window).1, (scan window).2.contents) = read window.contents := by
  unfold scan
  rw [Window.front?_eq]
  cases split : window.contents with
  | nil => simp [read, split]
  | cons byte rest => simp [read, split, character_eq]

end Conversion

namespace Specifier

-- The digits of a width are passed over unseen; only a star matters.
def readWidth (bytes : List UInt8) : Bool × List UInt8 :=
  if bytes.head? = some '*'.toUInt8 then (true, bytes.tail) else (false, bytes.dropWhile isDigit)

theorem scanWidth_eq_readWidth (window : Window) :
    ((scanWidth window).1, (scanWidth window).2.contents) = readWidth window.contents := by
  unfold scanWidth readWidth
  rw [Window.front?_eq]
  split
  · simp
  · simp [Window.contents_skip]

/-- What stands behind the flags, the width, the precision and the lengths. -/
def behindLead (bytes : List UInt8) : List UInt8 :=
  (Precision.read (readWidth (bytes.dropWhile isFlag)).2).2.dropWhile isLengthModifier

def read (bytes : List UInt8) : Specifier × List UInt8 :=
  let width := readWidth (bytes.dropWhile isFlag)
  let precision := Precision.read width.2
  let conversion := Conversion.read (precision.2.dropWhile isLengthModifier)
  ({ dynamicWidth := width.1, precision := precision.1, conversion := conversion.1 }, conversion.2)

theorem scan_eq_read (window : Window) :
    ((scan window).1, (scan window).2.contents) = read window.contents := by
  simp only [scan, read, ← Window.contents_skip, ← scanWidth_eq_readWidth,
    ← Precision.scan_eq_read, ← Conversion.scan_eq_read]

end Specifier

namespace Directive

/-- Reads the directive whose `%` stands directly before `bytes`, with what follows it. -/
def read (bytes : List UInt8) : Directive × List UInt8 :=
  if bytes.head? = some '%'.toUInt8 then (.percent, bytes.tail)
  else (.specifier (Specifier.read bytes).1, (Specifier.read bytes).2)

theorem scan_eq_read (window : Window) :
    ((scan window).1, (scan window).2.contents) = read window.contents := by
  unfold scan read
  rw [Window.front?_eq]
  split
  · simp
  · simp only [← Specifier.scan_eq_read]

theorem length_read_le (bytes : List UInt8) : (read bytes).2.length ≤ bytes.length := by
  have shorter := size_scan_le (Window.whole bytes)
  have same := scan_eq_read (Window.whole bytes)
  rw [Window.contents_whole] at same
  rw [← same, Window.length_contents]
  exact shorter

end Directive

/-! ## Reading a text -/

theorem Window.exists_contents_skip_ne {mark : UInt8} {window : Window}
    (nonempty : ¬ (window.skip (· != mark)).size = 0) :
    ∃ rest, (window.skip (· != mark)).contents = mark :: rest := by
  have stop := List.head?_dropWhile_not (· != mark) window.contents
  rw [← contents_skip] at stop
  cases split : (window.skip (· != mark)).contents with
  | nil =>
    rw [← length_contents, split] at nonempty
    exact absurd rfl nonempty
  | cons byte rest =>
    rw [split] at stop
    have same : byte = mark := by simpa using stop
    exact ⟨rest, by rw [same]⟩

/-- The directives of bytes of which the first is number `offset`. -/
def Located.read (offset : Nat) : List UInt8 → List Located
  | [] => []
  | byte :: rest =>
    if byte = '%'.toUInt8 then
      { offset, directive := (Directive.read rest).1 } ::
        read (offset + (rest.length + 1 - (Directive.read rest).2.length)) (Directive.read rest).2
    else read (offset + 1) rest
termination_by bytes => bytes.length
decreasing_by
  all_goals
    have := Directive.length_read_le rest
    simp only [List.length_cons]
    omega

namespace Located

theorem read_literal_append (offset : Nat) {literal : List UInt8} (rest : List UInt8)
    (plain : ∀ byte ∈ literal, byte ≠ '%'.toUInt8) :
    read offset (literal ++ rest) = read (offset + literal.length) rest := by
  induction literal generalizing offset with
  | nil => rfl
  | cons byte literal ih =>
    have here := plain byte List.mem_cons_self
    rw [List.cons_append, read, if_neg here, ih (offset + 1)]
    · rw [List.length_cons]
      congr 1
      omega
    · exact fun other member => plain other (List.mem_cons_of_mem byte member)

theorem read_percent_cons (offset : Nat) {bytes rest : List UInt8} {directive : Directive}
    (found : Directive.read bytes = (directive, rest)) :
    read offset ('%'.toUInt8 :: bytes) =
      { offset, directive } :: read (offset + (bytes.length + 1 - rest.length)) rest := by
  rw [read, if_pos rfl, found]

-- Along the recursion of the scan. It jumps to the next `%`, where `read` goes byte by byte, and
-- counts offsets by the sizes of windows.
theorem ofWindow_eq_read (offset : Nat) (window : Window) :
    ofWindow offset window = read offset window.contents := by
  fun_induction ofWindow offset window with
  | case1 offset window found empty =>
    have ended : window.contents.dropWhile (· != '%'.toUInt8) = [] := by
      rw [← Window.contents_skip, ← List.length_eq_zero_iff, Window.length_contents]
      exact empty
    have plain : ∀ byte ∈ window.contents, byte ≠ '%'.toUInt8 := by
      simpa [List.dropWhile_eq_nil_iff] using ended
    have whole := read_literal_append offset [] plain
    rw [List.append_nil, read] at whole
    exact whole.symm
  | case2 offset window found nonempty directive ih =>
    obtain ⟨rest, opened⟩ := Window.exists_contents_skip_ne nonempty
    have inside : (found.drop 1).contents = rest := by
      rw [Window.contents_drop, opened, List.drop_one, List.tail_cons]
    have scanned : (directive.1, directive.2.contents) = Directive.read rest := by
      rw [← inside]
      exact Directive.scan_eq_read _
    have plain : ∀ byte ∈ window.contents.takeWhile (· != '%'.toUInt8), byte ≠ '%'.toUInt8 :=
      fun byte member => by simpa using List.mem_takeWhile_imp member
    have cut : window.contents.takeWhile (· != '%'.toUInt8) ++ '%'.toUInt8 :: rest =
        window.contents := by
      rw [← opened, Window.contents_skip, List.takeWhile_append_dropWhile]
    have foundSize : found.size = rest.length + 1 := by
      rw [← Window.length_contents, opened, List.length_cons]
    have windowSize : window.size =
        (window.contents.takeWhile (· != '%'.toUInt8)).length + (rest.length + 1) := by
      rw [← List.length_cons, ← List.length_append, cut, Window.length_contents]
    have left : directive.2.size ≤ rest.length := by
      have shorter := Directive.length_read_le rest
      rwa [← scanned, Window.length_contents] at shorter
    rw [ih, ← cut, read_literal_append _ _ plain, read, if_pos rfl, ← scanned]
    simp only [Window.length_contents]
    congr 2 <;> omega

end Located

/-! ## Usable formats -/

theorem Directive.issue?_eq_none_iff {offset slot : Nat} {directive : Directive} :
    directive.issue? offset slot = none ↔ directive.isUsable = true := by
  cases directive with
  | percent => simp [issue?, isUsable]
  | specifier read =>
    rcases read with ⟨dynamicWidth, precision, conversion⟩
    cases conversion <;> simp [issue?, isUsable, Conversion.fault?, Conversion.isUsable]

namespace Format

theorem ofBytes_eq_read (bytes : List UInt8) :
    ofBytes bytes = ofDirectives (Located.read 0 (textOf bytes)) := by
  rw [ofBytes, Located.ofWindow_eq_read, Window.contents_whole]

theorem issuesFrom_eq_nil_iff {slot : Nat} {directives : List Located} :
    issuesFrom slot directives = [] ↔
      ∀ located ∈ directives, located.directive.isUsable = true := by
  induction directives generalizing slot with
  | nil => simp [issuesFrom]
  | cons located rest ih =>
    rw [issuesFrom, List.append_eq_nil_iff, Option.toList_eq_nil_iff,
      Directive.issue?_eq_none_iff, ih, List.forall_mem_cons]

end Format
end LogRecord
