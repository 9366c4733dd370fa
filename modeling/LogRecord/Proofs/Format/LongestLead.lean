import LogRecord.Proofs.Format.Grammar

/-! How far a specifier reaches.

A lead goes on as long as it can: what is passed over before a conversion is the longest lead that
stands there (`Grammar.Lead.isLongest_iff`), so the first byte that cannot go on with it is the
conversion. -/

set_option autoImplicit false
namespace LogRecord

/-! ## Passing over a lead and more -/

theorem Specifier.readWidth_suffix (bytes : List UInt8) : (readWidth bytes).2 <:+ bytes := by
  unfold readWidth
  split
  · exact List.tail_suffix bytes
  · exact List.dropWhile_suffix _

theorem Precision.read_suffix (bytes : List UInt8) : (read bytes).2 <:+ bytes := by
  unfold read
  split
  · split
    · exact (List.tail_suffix _).trans (List.tail_suffix bytes)
    · exact (List.dropWhile_suffix _).trans (List.tail_suffix bytes)
  · exact List.suffix_refl bytes

theorem Precision.read_point (bytes : List UInt8) :
    read ('.'.toUInt8 :: bytes) =
      if bytes.head? = some '*'.toUInt8 then (.dynamic, bytes.tail)
      else (ofDigits (bytes.takeWhile isDigit), bytes.dropWhile isDigit) :=
  if_pos rfl

theorem dropWhile_append_suffix {isMember : UInt8 → Bool} {run : List UInt8}
    (inside : ∀ byte ∈ run, isMember byte = true) (rest : List UInt8) :
    (run ++ rest).dropWhile isMember <:+ rest := by
  rw [List.dropWhile_append_of_pos inside]
  exact List.dropWhile_suffix _

namespace Grammar

theorem Letter.dropWhile_bytes_suffix {alphabet : List Char} (letters : List (Letter alphabet))
    (rest : List UInt8) :
    (letters.map Letter.byte ++ rest).dropWhile (isOneOf alphabet) <:+ rest :=
  dropWhile_append_suffix (List.forall_mem_map.mpr fun letter _ => letter.isOneOf_byte) rest

theorem digits_dropWhile_suffix (digits : List (Fin 10)) (rest : List UInt8) :
    (digits.map digitByte ++ rest).dropWhile isDigit <:+ rest :=
  dropWhile_append_suffix (List.forall_mem_map.mpr fun digit _ => isDigit_digitByte digit) rest

theorem digits_head?_ne_star (digit : Fin 10) (digits : List (Fin 10)) (rest : List UInt8) :
    ((digit :: digits).map digitByte ++ rest).head? ≠ some '*'.toUInt8 := by
  intro star
  have same : digitByte digit = '*'.toUInt8 := Option.some.inj star
  simpa [same] using digitByte_ne_star digit

-- Nothing is said of `rest`, which may go on with the width, or with flags if the width is empty.
theorem WidthText.readWidth_suffix (width : WidthText) (rest : List UInt8) :
    (Specifier.readWidth ((width.bytes ++ rest).dropWhile isFlag)).2 <:+ rest := by
  cases width with
  | star => exact List.suffix_refl rest
  | numeral digits =>
    rw [bytes, List.dropWhile_append]
    split
    · exact (Specifier.readWidth_suffix _).trans (List.dropWhile_suffix _)
    next left =>
      obtain ⟨kept, same⟩ : ∃ kept, kept.map digitByte = (digits.map digitByte).dropWhile isFlag :=
        ⟨digits.dropWhile (isFlag ∘ digitByte), List.dropWhile_map.symm⟩
      rw [← same] at left ⊢
      cases kept with
      | nil => exact absurd rfl left
      | cons first kept =>
        rw [Specifier.readWidth, if_neg (digits_head?_ne_star first kept rest)]
        exact digits_dropWhile_suffix _ rest

theorem PrecisionText.read_suffix (precision : PrecisionText) (rest : List UInt8) :
    (Precision.read (precision.bytes ++ rest)).2 <:+ rest := by
  cases precision with
  | absent => exact Precision.read_suffix rest
  | star => exact List.suffix_refl rest
  | numeral digits =>
    rw [bytes, List.cons_append, Precision.read_point]
    cases digits with
    | nil =>
      -- A star behind the bare point is the first byte of `rest`, and goes with the point.
      rw [List.map_nil, List.nil_append]
      split
      · exact List.tail_suffix rest
      · exact List.dropWhile_suffix _
    | cons digit digits =>
      rw [if_neg (digits_head?_ne_star digit digits rest)]
      exact digits_dropWhile_suffix _ rest

end Grammar

open Grammar

/-- What is passed over reaches at least as far as any lead that stands there. -/
theorem Specifier.behindLead_suffix (lead : Lead) (rest : List UInt8) :
    behindLead (lead.bytes ++ rest) <:+ rest := by
  rcases lead with ⟨flags, width, precision, lengths⟩
  have flagsDropped : ∀ tail, (flags.map Letter.byte ++ tail).dropWhile isFlag =
      tail.dropWhile isFlag := fun _ =>
    List.dropWhile_append_of_pos (List.forall_mem_map.mpr fun flag _ => flag.isOneOf_byte)
  simp only [behindLead, Lead.bytes, List.append_assoc, flagsDropped]
  cases lengths with
  | cons length lengths =>
    -- A length modifier ends every part before it, so each part is passed over exactly.
    have stops : ∀ isMember : UInt8 → Bool,
        (['h', 'l', 'j', 'z', 't', 'L'].map Char.toUInt8).any isMember = false →
          ClearOf isMember ((length :: lengths).map Letter.byte ++ rest) :=
      fun isMember apart => .cons (length.outside apart) _
    have flag := stops isFlag rfl
    have star := stops (· == '*'.toUInt8) rfl
    have digit := stops isDigit rfl
    rw [width.read_append (precision.clear_bytes_append (by decide) flag)
      (precision.clear_bytes_append (by decide) star)
      (precision.clear_bytes_append (by decide) digit)]
    rw [precision.read_append (stops (· == '.'.toUInt8) rfl) star digit]
    exact Letter.dropWhile_bytes_suffix _ rest
  | nil =>
    rw [List.map_nil, List.nil_append]
    refine (List.dropWhile_suffix _).trans ?_
    by_cases absent : precision = .absent
    · subst absent
      exact (Precision.read_suffix _).trans (width.readWidth_suffix rest)
    · have stops : ∀ isMember : UInt8 → Bool, isMember '.'.toUInt8 = false →
          ClearOf isMember (precision.bytes ++ rest) := by
        intro isMember outside
        cases precision with
        | absent => contradiction
        | star | numeral _ => exact .cons outside _
      rw [width.read_append (stops isFlag rfl) (stops (· == '*'.toUInt8) rfl) (stops isDigit rfl)]
      exact precision.read_suffix rest

/-! ## The longest lead -/

namespace Grammar.Lead

/-- This lead stands at the front of the bytes and no longer one does. -/
structure IsLongest (lead : Lead) (bytes : List UInt8) : Prop where
  spelled : lead.bytes <+: bytes
  longest : ∀ other : Lead, other.bytes <+: bytes → other.bytes.length ≤ lead.bytes.length

theorem isLongest_iff {lead : Lead} {bytes : List UInt8} :
    lead.IsLongest bytes ↔ lead.bytes ++ Specifier.behindLead bytes = bytes := by
  constructor
  · rintro ⟨⟨rest, spelled⟩, longest⟩
    obtain ⟨passed, passedSpelled, -⟩ := Specifier.exists_lead bytes
    have noLonger := longest passed ⟨_, passedSpelled.symm⟩
    have noShorter : (Specifier.behindLead bytes).length ≤ rest.length := by
      rw [← spelled]
      exact (Specifier.behindLead_suffix lead rest).length_le
    have same : lead.bytes ++ rest = passed.bytes ++ Specifier.behindLead bytes :=
      spelled.trans passedSpelled
    have lengths := congrArg List.length same
    rw [List.length_append, List.length_append] at lengths
    obtain ⟨-, behind⟩ := List.append_inj same (by omega)
    rw [← behind, spelled]
  · intro spelled
    refine ⟨⟨_, spelled⟩, ?_⟩
    rintro other ⟨rest, otherSpelled⟩
    have reached := (Specifier.behindLead_suffix other rest).length_le
    rw [otherSpelled] at reached
    have lengths := congrArg List.length (spelled.trans otherSpelled.symm)
    rw [List.length_append, List.length_append] at lengths
    omega

theorem IsLongest.behindLead_eq {lead : Lead} {bytes : List UInt8}
    (longest : lead.IsLongest bytes) :
    Specifier.behindLead bytes = bytes.drop lead.bytes.length := by
  have whole := congrArg (List.drop lead.bytes.length) (isLongest_iff.mp longest)
  rwa [List.drop_left] at whole

theorem exists_isLongest (bytes : List UInt8) : ∃ lead : Lead, lead.IsLongest bytes := by
  obtain ⟨lead, spelled, -⟩ := Specifier.exists_lead bytes
  exact ⟨lead, isLongest_iff.mpr spelled.symm⟩

end Grammar.Lead
end LogRecord
