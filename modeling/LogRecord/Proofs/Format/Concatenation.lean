import LogRecord.Proofs.Format.Places
import LogRecord.Proofs.Text.Characters

/-! Formats of texts that are put together.

A text that ends in no open specifier leaves nothing behind for the text that follows it, so its
format is followed by the format of that text, with the offsets and slots of the issues moved on
(`Format.ofString_append`). Bad specifiers do not matter, even where reading goes on inside of a
character. -/

set_option autoImplicit false
namespace LogRecord

/-! ## Reading in front of more bytes

Each part of a directive that leaves something stops inside the bytes, and reads them alike whatever
follows. -/

section
variable {isMember : UInt8 → Bool} {bytes : List UInt8}

theorem dropWhile_append_of_left (left : bytes.dropWhile isMember ≠ []) (more : List UInt8) :
    (bytes ++ more).dropWhile isMember = bytes.dropWhile isMember ++ more := by
  rw [List.dropWhile_append, if_neg (by simpa using left)]

theorem takeWhile_append_of_left (left : bytes.dropWhile isMember ≠ []) (more : List UInt8) :
    (bytes ++ more).takeWhile isMember = bytes.takeWhile isMember := by
  rw [List.takeWhile_append, if_neg]
  intro whole
  have split := congrArg List.length
    (List.takeWhile_append_dropWhile (p := isMember) (l := bytes))
  rw [List.length_append] at split
  exact left (List.length_eq_zero_iff.mp (by omega))

end

theorem Specifier.readWidth_append {bytes : List UInt8} (left : (readWidth bytes).2 ≠ [])
    (more : List UInt8) :
    readWidth (bytes ++ more) = ((readWidth bytes).1, (readWidth bytes).2 ++ more) := by
  cases bytes with
  | nil => exact absurd rfl left
  | cons byte rest =>
    unfold readWidth at left ⊢
    rw [List.cons_append, List.head?_cons, List.head?_cons] at *
    split
    · rfl
    next noStar =>
      rw [if_neg noStar] at left
      rw [← List.cons_append, dropWhile_append_of_left left]

theorem Precision.read_append {bytes : List UInt8} (left : (read bytes).2 ≠ [])
    (more : List UInt8) :
    read (bytes ++ more) = ((read bytes).1, (read bytes).2 ++ more) := by
  cases bytes with
  | nil => exact absurd rfl left
  | cons byte rest =>
    by_cases point : byte = '.'.toUInt8
    · subst point
      rw [List.cons_append]
      rw [read_point] at left
      rw [read_point, read_point]
      cases rest with
      | nil => exact absurd rfl left
      | cons second rest =>
        rw [List.cons_append, List.head?_cons, List.head?_cons] at *
        split
        · rfl
        next noStar =>
          rw [if_neg noStar] at left
          rw [← List.cons_append, dropWhile_append_of_left left, takeWhile_append_of_left left]
    · have noPoint : (byte :: rest).head? ≠ some '.'.toUInt8 := by simpa using point
      have noPointMore : (byte :: rest ++ more).head? ≠ some '.'.toUInt8 := by simpa using point
      rw [read, read, if_neg noPoint, if_neg noPointMore]

theorem Specifier.behindLead_append {bytes : List UInt8} (left : behindLead bytes ≠ [])
    (more : List UInt8) :
    (readWidth ((bytes ++ more).dropWhile isFlag)).1 = (readWidth (bytes.dropWhile isFlag)).1 ∧
      (Precision.read (readWidth ((bytes ++ more).dropWhile isFlag)).2).1 =
        (Precision.read (readWidth (bytes.dropWhile isFlag)).2).1 ∧
      behindLead (bytes ++ more) = behindLead bytes ++ more := by
  have afterPrecision : (Precision.read (readWidth (bytes.dropWhile isFlag)).2).2 ≠ [] := by
    intro none
    rw [behindLead, none] at left
    exact left rfl
  have afterWidth : (readWidth (bytes.dropWhile isFlag)).2 ≠ [] := by
    intro none
    rw [none] at afterPrecision
    exact afterPrecision rfl
  have afterFlags : bytes.dropWhile isFlag ≠ [] := by
    intro none
    rw [none] at afterWidth
    exact afterWidth rfl
  rw [behindLead, behindLead, dropWhile_append_of_left afterFlags, readWidth_append afterWidth,
    Precision.read_append afterPrecision, dropWhile_append_of_left left]
  exact ⟨rfl, rfl, rfl⟩

/-! ## Directives of whole characters -/

namespace Grammar

theorem Letter.standsAlone_byte {alphabet : List Char}
    (alone : (alphabet.map Char.toUInt8).any (fun byte => !Utf8.standsAlone byte) = false)
    (letter : Letter alphabet) : Utf8.standsAlone letter.byte = true := by
  simpa using letter.outside alone

theorem standsAlone_digitByte (digit : Fin 10) : Utf8.standsAlone (digitByte digit) = true := by
  revert digit
  decide

theorem Lead.standsAlone (lead : Lead) : ∀ byte ∈ lead.bytes, Utf8.standsAlone byte = true := by
  rcases lead with ⟨flags, width, precision, lengths⟩
  have digits (digits : List (Fin 10)) :
      ∀ byte ∈ digits.map digitByte, Utf8.standsAlone byte = true :=
    List.forall_mem_map.mpr fun digit _ => standsAlone_digitByte digit
  simp only [Lead.bytes, List.forall_mem_append]
  refine ⟨List.forall_mem_map.mpr fun flag _ => flag.standsAlone_byte rfl, ?_, ?_,
    List.forall_mem_map.mpr fun length _ => length.standsAlone_byte rfl⟩
  · cases width with
    | star => exact List.forall_mem_singleton.mpr rfl
    | numeral spelled => exact digits spelled
  · cases precision with
    | absent => exact List.forall_mem_nil _
    | star => exact List.forall_mem_cons.mpr ⟨rfl, List.forall_mem_singleton.mpr rfl⟩
    | numeral spelled => exact List.forall_mem_cons.mpr ⟨rfl, digits spelled⟩

theorem Lead.standsAlone_directive {alphabet : List Char}
    (alone : (alphabet.map Char.toUInt8).any (fun byte => !Utf8.standsAlone byte) = false)
    (lead : Lead) (ending : Letter alphabet) :
    ∀ byte ∈ '%'.toUInt8 :: (lead.bytes ++ [ending.byte]), Utf8.standsAlone byte = true := by
  refine List.forall_mem_cons.mpr ⟨rfl, List.forall_mem_append.mpr ⟨lead.standsAlone, ?_⟩⟩
  exact List.forall_mem_singleton.mpr (ending.standsAlone_byte alone)

end Grammar

open Utf8 (IsText)

/-- A conversion begins where a character begins. -/
theorem Specifier.isText_behindLead {bytes : List UInt8} (text : IsText bytes) :
    IsText (behindLead bytes) := by
  obtain ⟨lead, spelled, -⟩ := exists_lead bytes
  rw [spelled] at text
  exact text.behind_ascii_run fun byte member =>
    Utf8.ascii_of_standsAlone (lead.standsAlone byte member)

theorem Conversion.read_append {byte : UInt8} {rest : List UInt8} (text : IsText (byte :: rest))
    (more : List UInt8) :
    read (byte :: rest ++ more) =
      ((read (byte :: rest)).1, (read (byte :: rest)).2 ++ more) := by
  have same := text.first?_append more
  rw [List.cons_append] at same
  simp only [List.cons_append, read, same]

theorem Specifier.read_append {bytes : List UInt8} (text : IsText bytes)
    (left : behindLead bytes ≠ []) (more : List UInt8) :
    read (bytes ++ more) = ((read bytes).1, (read bytes).2 ++ more) := by
  obtain ⟨width, precision, behind⟩ := behindLead_append left more
  have begins := isText_behindLead text
  have conversion : Conversion.read (behindLead (bytes ++ more)) =
      ((Conversion.read (behindLead bytes)).1, (Conversion.read (behindLead bytes)).2 ++ more) := by
    rw [behind]
    cases split : behindLead bytes with
    | nil => exact absurd split left
    | cons byte rest => exact Conversion.read_append (split ▸ begins) more
  unfold behindLead at conversion
  simp only [read, width, precision, conversion]

theorem Directive.read_append {bytes : List UInt8} (text : IsText bytes)
    (closed : (read bytes).1.fault? ≠ some .unterminated) (more : List UInt8) :
    read (bytes ++ more) = ((read bytes).1, (read bytes).2 ++ more) := by
  cases bytes with
  | nil => exact absurd rfl closed
  | cons byte rest =>
    unfold read at closed ⊢
    rw [List.cons_append, List.head?_cons, List.head?_cons] at *
    split
    · rfl
    next noPercent =>
      rw [if_neg noPercent] at closed
      have left : Specifier.behindLead (byte :: rest) ≠ [] := by
        intro none
        apply closed
        exact (Conversion.fault?_read_iff _).2.2.mpr (List.head?_eq_none_iff.mpr none)
      rw [← List.cons_append, Specifier.read_append text left]

theorem Directive.read_suffix (bytes : List UInt8) : (read bytes).2 <:+ bytes := by
  unfold read
  split
  · exact List.tail_suffix bytes
  · obtain ⟨lead, spelled, -⟩ := Specifier.exists_lead bytes
    have behind : (Conversion.read (Specifier.behindLead bytes)).2 <:+ bytes := by
      rw [Conversion.read_snd]
      exact (List.tail_suffix _).trans ⟨lead.bytes, spelled.symm⟩
    exact behind

/-! ## Texts -/

open Utf8 (EndsText)

-- Along the recursion of reading the first text. Reading may go on inside a character, but only
-- behind a `%`, where characters begin, does it look for one.
theorem Located.read_append {offset : Nat} {first : List UInt8} (ends : EndsText first)
    (closed : ∀ located ∈ read offset first, located.directive.fault? ≠ some .unterminated)
    (second : List UInt8) :
    read offset (first ++ second) = read offset first ++ read (offset + first.length) second := by
  fun_induction read offset first with
  | case1 => rfl
  | case2 offset rest ih =>
    obtain ⟨here, later⟩ := List.forall_mem_cons.mp closed
    have text := ends.behind_ascii (by decide)
    have shorter := Directive.length_read_le rest
    have left : EndsText (Directive.read rest).2 :=
      ends.of_suffix ((Directive.read_suffix rest).trans (List.suffix_cons _ rest))
    rw [List.cons_append, read_percent_cons offset (Directive.read_append text here second),
      List.cons_append]
    have next : offset + ((rest ++ second).length + 1 -
          ((Directive.read rest).2 ++ second).length) =
        offset + (rest.length + 1 - (Directive.read rest).2.length) := by
      simp only [List.length_append]
      omega
    rw [next, ih left later, List.length_cons]
    congr 3
    omega
  | case3 offset byte rest plain ih =>
    have left : EndsText rest := ends.of_suffix (List.suffix_cons byte rest)
    rw [List.cons_append, read, if_neg plain, ih left closed, List.length_cons]
    congr 2
    omega

def Located.shift (count : Nat) (located : Located) : Located :=
  { located with offset := located.offset + count }

theorem Located.read_shift (count offset : Nat) (bytes : List UInt8) :
    read (offset + count) bytes = (read offset bytes).map (shift count) := by
  fun_induction read offset bytes with
  | case1 => rw [read]; rfl
  | case2 offset rest ih =>
    rw [read, if_pos rfl, List.map_cons, ← ih, Nat.add_right_comm]
    rfl
  | case3 offset byte rest plain ih =>
    rw [read, if_neg plain, ← ih, Nat.add_right_comm]

/-- The issue of the same specifier when this many bytes and slots stand in front. -/
def Issue.shift (bytes slots : Nat) (issue : Issue) : Issue :=
  { issue with offset := issue.offset + bytes, slot := issue.slot + slots }

theorem Directive.issue?_shift (bytes slots offset slot : Nat) (directive : Directive) :
    directive.issue? (offset + bytes) (slot + slots) =
      (directive.issue? offset slot).map (Issue.shift bytes slots) := by
  cases directive with
  | percent => rfl
  | specifier read =>
    simp only [issue?, Option.map_map, Function.comp_def, Issue.shift, Nat.add_right_comm]

namespace Format

theorem issuesFrom_append (slot : Nat) (first second : List Located) :
    issuesFrom slot (first ++ second) =
      issuesFrom slot first ++
        issuesFrom (slot + (first.flatMap (·.directive.slots)).length) second := by
  induction first generalizing slot with
  | nil => rfl
  | cons located first ih =>
    rw [List.cons_append, issuesFrom, issuesFrom, ih, List.append_assoc, List.flatMap_cons,
      List.length_append, Nat.add_assoc]

theorem issuesFrom_shift (bytes slots slot : Nat) (directives : List Located) :
    issuesFrom (slot + slots) (directives.map (Located.shift bytes)) =
      (issuesFrom slot directives).map (Issue.shift bytes slots) := by
  induction directives generalizing slot with
  | nil => rfl
  | cons located directives ih =>
    rw [List.map_cons, issuesFrom, issuesFrom, List.map_append, ← Option.toList_map,
      ← Directive.issue?_shift, ← ih, Nat.add_right_comm]
    rfl

theorem textOf_append {first : List UInt8} (noNull : 0 ∉ first) (second : List UInt8) :
    textOf (first ++ second) = first ++ textOf second := by
  apply List.takeWhile_append_of_pos
  intro byte member
  rw [bne_iff_ne]
  rintro rfl
  exact noNull member

theorem ofString_eq_read {text : String} (noNull : 0 ∉ Utf8.bytes text) :
    ofString text = ofDirectives (Located.read 0 (Utf8.bytes text)) := by
  have whole : textOf (Utf8.bytes text) = Utf8.bytes text := by
    simpa [textOf] using textOf_append noNull []
  rw [ofString, ofBytes_eq_read, whole]

theorem ofString_eq_read_of_standsAlone {text : String} {written : List UInt8}
    (spelled : Utf8.bytes text = written) (alone : ∀ byte ∈ written, Utf8.standsAlone byte = true) :
    ofString text = ofDirectives (Located.read 0 written) := by
  rw [← spelled] at alone ⊢
  exact ofString_eq_read (Utf8.zero_notMem_of_standsAlone alone)

/-- The directives of a text that ends in no open specifier, and behind them those of the text that
follows. -/
theorem ofString_append_eq_read {first : String} (noNull : 0 ∉ Utf8.bytes first)
    (closed : ∀ issue ∈ (ofString first).issues, issue.fault ≠ .unterminated) (second : String) :
    ofString (first ++ second) =
      ofDirectives (Located.read 0 (Utf8.bytes first) ++
        (Located.read 0 (textOf (Utf8.bytes second))).map
          (Located.shift (Utf8.bytes first).length)) := by
  have ended : ∀ located ∈ Located.read 0 (Utf8.bytes first),
      located.directive.fault? ≠ some .unterminated := by
    intro located member unterminated
    have reported := reports_iff.mpr ⟨located, member, rfl, unterminated⟩
    rw [← ofString_eq_read noNull] at reported
    obtain ⟨issue, listed, -, fault⟩ := reported
    exact closed issue listed fault
  rw [ofString, Utf8.bytes_append, ofBytes_eq_read, textOf_append noNull,
    Located.read_append (.of_isText (Utf8.isText_bytes first)) ended, Located.read_shift]

theorem slots_ofString_append {first : String} (noNull : 0 ∉ Utf8.bytes first)
    (closed : ∀ issue ∈ (ofString first).issues, issue.fault ≠ .unterminated) (second : String) :
    (ofString (first ++ second)).slots = (ofString first).slots ++ (ofString second).slots := by
  rw [ofString_append_eq_read noNull closed, ofString_eq_read noNull, ofString, ofBytes_eq_read]
  simp only [ofDirectives, List.flatMap_append, List.flatMap_map, Located.shift]

/-- A text without null byte that ends in no open specifier keeps its slots and issues when another
text follows, and the slots and issues of that one come behind them, moved on. -/
theorem ofString_append {first : String} (noNull : 0 ∉ Utf8.bytes first)
    (closed : ∀ issue ∈ (ofString first).issues, issue.fault ≠ .unterminated) (second : String) :
    let left := ofString first
    let right := ofString second
    (ofString (first ++ second)).slots = left.slots ++ right.slots ∧
      (ofString (first ++ second)).issues =
        left.issues ++
          right.issues.map (Issue.shift (Utf8.bytes first).length left.slots.length) := by
  intro left right
  have leftRead : left = _ := ofString_eq_read noNull
  have rightRead : right = _ := ofBytes_eq_read (Utf8.bytes second)
  rw [ofString_append_eq_read noNull closed, leftRead, rightRead]
  constructor
  · simp only [ofDirectives, List.flatMap_append, List.flatMap_map, Located.shift]
  · simp only [ofDirectives, issuesFrom_append, issuesFrom_shift]

/-- Reading goes on inside the character of the first issue, and at the seam behind a `%n`. -/
theorem ofString_append_inside_character :
    let first := "%\u00e9%*q%n"
    let second := "%s%\u00fc"
    0 ∉ Utf8.bytes first ∧
      (∀ issue ∈ (ofString first).issues, issue.fault ≠ .unterminated) ∧
      (ofString (first ++ second)).slots =
        [.invalid, .width, .invalid, .invalid, .text .absent, .invalid] ∧
      (ofString (first ++ second)).issues =
        [⟨0, 0, .unknown '\u00e9'⟩, ⟨3, 2, .unknown 'q'⟩, ⟨6, 3, .unsupported⟩,
          ⟨10, 5, .unknown '\u00fc'⟩] := by
  intro first second
  have noNull : 0 ∉ Utf8.bytes first := by decide +kernel
  have left : ofString first =
      { slots := [.invalid, .width, .invalid, .invalid]
        issues := [⟨0, 0, .unknown '\u00e9'⟩, ⟨3, 2, .unknown 'q'⟩, ⟨6, 3, .unsupported⟩] } := by
    decide +kernel
  have right : ofString second =
      { slots := [.text .absent, .invalid], issues := [⟨2, 1, .unknown '\u00fc'⟩] } := by
    decide +kernel
  have closed : ∀ issue ∈ (ofString first).issues, issue.fault ≠ .unterminated := by
    rw [left]
    decide
  have length : (Utf8.bytes first).length = 8 := by decide +kernel
  obtain ⟨slots, issues⟩ := ofString_append noNull closed second
  rw [left, right] at slots issues
  rw [length] at issues
  exact ⟨noNull, closed, slots, issues⟩

end Format
end LogRecord
