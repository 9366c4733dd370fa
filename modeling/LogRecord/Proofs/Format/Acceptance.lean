import LogRecord.Proofs.Format.Grammar

/-! The texts whose every specifier can be used, and the slots they ask for.

A text is such exactly when it is a sequence of pieces, and its slots are those of its pieces
however it is cut into them (`Format.accepts_exactly_pieces`). -/

set_option autoImplicit false
namespace LogRecord

namespace Grammar

/-- A specifier after its `%`. A `%` alone makes no specifier: `%%` is a piece of its own. -/
structure SpecifierText where
  lead : Lead
  terminal : Terminal
  notPercent : lead.bytes ++ [terminal.byte] ≠ ['%'.toUInt8]
deriving DecidableEq, Repr

namespace SpecifierText

def bytes (text : SpecifierText) : List UInt8 :=
  text.lead.bytes ++ [text.terminal.byte]

def target (text : SpecifierText) : Slot :=
  if text.terminal.character = 's' then .text text.lead.precision.limit else .value

def slots (text : SpecifierText) : List Slot :=
  text.lead.width.slots ++ (text.lead.precision.slots ++ [text.target])

end SpecifierText

inductive Piece where
  | literal (byte : UInt8) (plain : byte ≠ '%'.toUInt8)
  | percent
  | specifier (text : SpecifierText)
deriving DecidableEq, Repr

namespace Piece

def bytes : Piece → List UInt8
  | literal byte _ => [byte]
  | percent => ['%'.toUInt8, '%'.toUInt8]
  | specifier text => '%'.toUInt8 :: text.bytes

def slots : Piece → List Slot
  | literal _ _ | percent => []
  | specifier text => text.slots

end Piece

/-! ## Reading pieces -/

theorem Terminal.inert (terminal : Terminal) (rest : List UInt8) :
    Inert (terminal.byte :: rest) :=
  Letter.inert rfl terminal rest

def Terminal.conversion (terminal : Terminal) : Conversion :=
  if terminal.character = 's' then .text else .value

theorem Terminal.ofByte?_byte (terminal : Terminal) :
    Conversion.ofByte? terminal.byte = some terminal.conversion := by
  have known : (valueTerminals ++ ['s']).map (fun character =>
        Conversion.ofByte? character.toUInt8) =
      (valueTerminals ++ ['s']).map fun character =>
        some (if character = 's' then .text else .value) := by
    rfl
  exact List.map_inj_left.mp known terminal.character terminal.known

theorem Terminal.exists_of_ofByte? {byte : UInt8} {conversion : Conversion}
    (found : Conversion.ofByte? byte = some conversion) (usable : conversion.isUsable = true) :
    ∃ terminal : Terminal, terminal.byte = byte := by
  unfold Conversion.ofByte? at found
  split at found
  next isText => exact ⟨⟨'s', by decide⟩, isText.symm⟩
  next =>
    split at found
    next =>
      cases found
      exact absurd usable (by decide)
    next =>
      split at found
      next isValue =>
        obtain ⟨letter, same⟩ : ∃ letter : Letter valueTerminals, letter.byte = byte :=
          isOneOf_iff.mp isValue
        exact ⟨⟨letter.character, List.mem_append_left _ letter.known⟩, same⟩
      next => contradiction

theorem Lead.clear_bytes_append {rest : List UInt8} (clear : ClearOf (· == '%'.toUInt8) rest)
    (lead : Lead) : ClearOf (· == '%'.toUInt8) (lead.bytes ++ rest) := by
  have lengths := clear.map_append (Letter.outside rfl) lead.lengths
  have precision := lead.precision.clear_bytes_append (by decide) lengths
  have width := lead.width.clear_bytes_append (by decide) (by decide) precision
  simp only [Lead.bytes, List.append_assoc]
  exact width.map_append (Letter.outside rfl) lead.flags

theorem Lead.clear_bytes (lead : Lead) : ClearOf (· == '%'.toUInt8) lead.bytes := by
  have clear := lead.clear_bytes_append ClearOf.nil
  rwa [List.append_nil] at clear

namespace SpecifierText

def reading (text : SpecifierText) : Specifier where
  dynamicWidth := text.lead.width.isStar
  precision := text.lead.precision.limit
  conversion := text.terminal.conversion

theorem slots_reading (text : SpecifierText) : text.reading.slots = text.slots := by
  rcases text with ⟨⟨flags, width, precision, lengths⟩, terminal, notPercent⟩
  cases width <;> cases precision <;> by_cases isText : terminal.character = 's' <;>
    simp [reading, Specifier.slots, Specifier.modifiers, Specifier.target, slots, target,
      Terminal.conversion, isText, WidthText.isStar, WidthText.slots, PrecisionText.limit,
      PrecisionText.slots]

theorem isUsable_reading (text : SpecifierText) : text.reading.conversion.isUsable = true := by
  by_cases isText : text.terminal.character = 's' <;>
    simp [reading, Terminal.conversion, isText, Conversion.isUsable]

theorem read_append (text : SpecifierText) (rest : List UInt8) :
    Directive.read (text.bytes ++ rest) = (.specifier text.reading, rest) := by
  rcases text with ⟨lead, terminal, notPercent⟩
  have noPercent : (lead.bytes ++ terminal.byte :: rest).head? ≠ some '%'.toUInt8 := by
    -- With a lead its first byte decides, and without one `notPercent` speaks of the terminal.
    cases split : lead.bytes with
    | nil => simpa [split] using notPercent
    | cons first more =>
      have clear : ClearOf (· == '%'.toUInt8) (first :: (more ++ terminal.byte :: rest)) := by
        apply ClearOf.cons
        exact lead.clear_bytes first (by rw [split]; rfl)
      exact clear.head?_ne
  have read := Specifier.read_lead (Terminal.inert terminal rest) lead
  simp only [Conversion.read, Terminal.ofByte?_byte, Option.getD_some] at read
  rw [bytes, List.append_assoc, List.singleton_append, Directive.read, if_neg noPercent, read]
  rfl

/-- Whatever reads as a usable specifier is one of the grammar. -/
theorem exists_of_isUsable {bytes : List UInt8}
    (noPercent : bytes.head? ≠ some '%'.toUInt8)
    (usable : (Specifier.read bytes).1.conversion.isUsable = true) :
    ∃ text : SpecifierText, bytes = text.bytes ++ (Specifier.read bytes).2 := by
  obtain ⟨lead, spelled, read⟩ := Specifier.exists_lead bytes
  rw [read] at usable ⊢
  generalize Specifier.behindLead bytes = rest at spelled usable ⊢
  cases rest with
  | nil => simp [Conversion.read, Conversion.isUsable] at usable
  | cons byte rest =>
    cases found : Conversion.ofByte? byte with
    | none => simp [Conversion.read, found, Conversion.isUsable] at usable
    | some conversion =>
      simp only [Conversion.read, found, Option.getD_some] at usable ⊢
      obtain ⟨terminal, rfl⟩ := Terminal.exists_of_ofByte? found usable
      have whole : bytes = (lead.bytes ++ [terminal.byte]) ++ rest := by
        rw [spelled, List.append_assoc, List.singleton_append]
      refine ⟨⟨lead, terminal, fun bare => noPercent ?_⟩, whole⟩
      rw [whole, bare]
      rfl

end SpecifierText

namespace Piece

theorem exists_of_isUsable {bytes : List UInt8}
    (usable : (Directive.read bytes).1.isUsable = true) :
    ∃ piece : Piece, '%'.toUInt8 :: bytes = piece.bytes ++ (Directive.read bytes).2 := by
  unfold Directive.read at usable ⊢
  split at usable
  next percent =>
    obtain ⟨rest, rfl⟩ := List.head?_eq_some_iff.mp percent
    exact ⟨.percent, rfl⟩
  next noPercent =>
    obtain ⟨text, spelled⟩ := SpecifierText.exists_of_isUsable noPercent usable
    rw [if_neg noPercent]
    exact ⟨.specifier text, congrArg _ spelled⟩

end Piece

-- Along the recursion of reading, which makes one piece of each directive and of each other byte.
theorem exists_pieces {offset : Nat} {bytes : List UInt8}
    (usable : ∀ located ∈ Located.read offset bytes, located.directive.isUsable = true) :
    ∃ pieces : List Piece, bytes = pieces.flatMap Piece.bytes := by
  fun_induction Located.read offset bytes with
  | case1 => exact ⟨[], rfl⟩
  | case2 offset rest ih =>
    obtain ⟨here, later⟩ := List.forall_mem_cons.mp usable
    obtain ⟨piece, spelled⟩ := Piece.exists_of_isUsable here
    obtain ⟨pieces, tail⟩ := ih later
    exact ⟨piece :: pieces, by rw [List.flatMap_cons, ← tail, spelled]⟩
  | case3 offset byte rest plain ih =>
    obtain ⟨pieces, tail⟩ := ih usable
    exact ⟨.literal byte plain :: pieces, by rw [List.flatMap_cons, ← tail]; rfl⟩

-- Reading does not know where the pieces end, and finds the ends by `read_append` alone.
theorem read_pieces (pieces : List Piece) (offset : Nat) :
    (Located.read offset (pieces.flatMap Piece.bytes)).flatMap (·.directive.slots) =
        pieces.flatMap Piece.slots ∧
      ∀ located ∈ Located.read offset (pieces.flatMap Piece.bytes),
        located.directive.isUsable = true := by
  induction pieces generalizing offset with
  | nil => simp [Located.read]
  | cons piece pieces ih =>
    rw [List.flatMap_cons, List.flatMap_cons]
    cases piece with
    | literal byte plain =>
      rw [Piece.bytes, Located.read_literal_append offset _ (List.forall_mem_singleton.mpr plain)]
      exact ih _
    | percent =>
      have found : Directive.read ('%'.toUInt8 :: pieces.flatMap Piece.bytes) =
          (.percent, pieces.flatMap Piece.bytes) := rfl
      rw [Piece.bytes, List.cons_append, List.singleton_append,
        Located.read_percent_cons offset found, List.flatMap_cons, (ih _).1]
      exact ⟨rfl, List.forall_mem_cons.mpr ⟨rfl, (ih _).2⟩⟩
    | specifier text =>
      have found := text.read_append (pieces.flatMap Piece.bytes)
      rw [Piece.bytes, List.cons_append, Located.read_percent_cons offset found,
        List.flatMap_cons, (ih _).1, Directive.slots, text.slots_reading]
      exact ⟨rfl, List.forall_mem_cons.mpr ⟨text.isUsable_reading, (ih _).2⟩⟩

end Grammar

open Grammar

/-- A text has no issue exactly when it is a sequence of pieces, and then every way to cut it into
pieces gives its slots. -/
theorem Format.accepts_exactly_pieces (bytes : List UInt8) :
    ((ofBytes bytes).issues = [] ↔
        ∃ pieces : List Piece, textOf bytes = pieces.flatMap Piece.bytes) ∧
      ∀ pieces : List Piece, textOf bytes = pieces.flatMap Piece.bytes →
        (ofBytes bytes).slots = pieces.flatMap Piece.slots := by
  rw [ofBytes_eq_read]
  simp only [ofDirectives, issuesFrom_eq_nil_iff]
  refine ⟨⟨exists_pieces, ?_⟩, ?_⟩
  · rintro ⟨pieces, spelled⟩
    rw [spelled]
    exact (read_pieces pieces 0).2
  · intro pieces spelled
    rw [spelled]
    exact (read_pieces pieces 0).1

/-- At `%5%x%%%0*.9999999999ls`, with a null byte and a stray `%` behind it. -/
theorem Format.accepts_held_precision :
    let value : Piece := .specifier ⟨⟨[], .numeral [5], .absent, []⟩, ⟨'%', by decide⟩, by decide⟩
    let text : Piece := .specifier
      ⟨⟨[⟨'0', by decide⟩], .star, .numeral (List.replicate 10 9), [⟨'l', by decide⟩]⟩,
        ⟨'s', by decide⟩, by decide⟩
    let pieces := [value, .literal 'x'.toUInt8 (by decide), .percent, text]
    let bytes := Utf8.bytes "%5%x%%%0*.9999999999ls" ++ [0, '%'.toUInt8]
    textOf bytes = pieces.flatMap Piece.bytes ∧ (ofBytes bytes).issues = [] ∧
      (ofBytes bytes).slots = [.value, .width, .text (.fixed 4294967295)] := by
  intro value text pieces bytes
  have spelled : textOf bytes = pieces.flatMap Piece.bytes := by decide +kernel
  obtain ⟨accepted, slots⟩ := accepts_exactly_pieces bytes
  refine ⟨spelled, accepted.mpr ⟨pieces, spelled⟩, ?_⟩
  rw [slots pieces spelled]
  decide +kernel

end LogRecord
