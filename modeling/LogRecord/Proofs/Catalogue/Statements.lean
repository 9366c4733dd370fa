import LogRecord.Proofs.Catalogue.Stability
import LogRecord.Proofs.Record.Refusal
import LogRecord.Statement

/-! Statements answer as if their text were read for each of them.

A statement touches the catalogue only by enrolling its text, which has been found usable before. So
whatever the catalogue has been used for, the slots a statement is sized against are those of its
own text (`Statement.recordSize_reads_anew`). -/

set_option autoImplicit false
namespace LogRecord

theorem mapError_eq_error_iff {E F A : Type} {result : Except E A} {change : E → F} {error : F} :
    result.mapError change = .error error ↔
      ∃ cause, result = .error cause ∧ change cause = error := by
  cases result <;> simp [Except.mapError]

namespace Statement

theorem run_recordSize (statement : Statement) (arguments : List Argument)
    (catalogue : Catalogue) :
    (statement.recordSize arguments).run.run catalogue =
      match (CatalogueM.enroll statement.text).run.run catalogue with
      | (.ok entry, after) =>
        ((LogRecord.recordSize entry.analysis.format.slots arguments).mapError .encoding, after)
      | (.error error, after) => (.error (.catalogue error), after) := by
  rw [recordSize, run_bind, run_adapt]
  obtain ⟨error | entry, after⟩ := (CatalogueM.enroll statement.text).run.run catalogue
  · rfl
  · exact run_ofExcept _ after

theorem issues_eq_nil (statement : Statement) : (Format.ofString statement.text).issues = [] :=
  (Precheck.isUsable_iff statement.text).mp statement.usable

theorem invalid_notMem_slots (statement : Statement) :
    Slot.invalid ∉ (Format.ofString statement.text).slots :=
  Format.issues_eq_nil_iff_slots.mp statement.issues_eq_nil

end Statement

namespace Catalogue

/-- A usable text is enrolled with its own format, and its entry stays. -/
theorem Consistent.enroll_usable {catalogue : Catalogue} (consistent : Consistent catalogue)
    {text : String} (usable : (Format.ofString text).issues = [])
    (room : text ∈ catalogue.texts ∨ catalogue.size + 1 < idLimit) :
    ∃ entry, (CatalogueM.enroll text).run.run catalogue =
        (.ok entry, (catalogue.perform (.enroll text)).2) ∧
      entry.text = text ∧ entry.analysis.format = Format.ofString text ∧
      entry ∈ (catalogue.perform (.enroll text)).2.entries := by
  have way := interned_run text catalogue
  rw [CatalogueM.run_enroll, perform_enroll]
  generalize (CatalogueM.intern text).run.run catalogue = run at way ⊢
  obtain ⟨answer, after⟩ := run
  obtain ⟨⟨entry, rfl⟩, -⟩ := consistent.texts_interned way room
  obtain ⟨member, rfl⟩ := consistent.mem_of_interned way
  have format := (consistent.of_interned way).formats entry member
  have checked : entry.analysis.format.check = .ok () := by
    rw [format, Format.check_eq_ok_iff, usable]
  refine ⟨entry, ?_, rfl, format, member⟩
  dsimp only
  rw [checked]
  rfl

end Catalogue

open Catalogue in
/-- A statement is sized against the slots of its own text, and what was called before on the
catalogue makes no difference. It fails neither for the catalogue nor for an invalid slot, and for
the number of its arguments exactly when that is not the number counted beforehand. What it leaves
in the catalogue is an entry for its text, the one that was there if one was. -/
theorem Statement.recordSize_reads_anew (statement : Statement) (arguments : List Argument)
    {earlier : List Call}
    (few : (distinctTexts (earlier ++ [.enroll statement.text])).length < idLimit) :
    let catalogue := empty.after earlier
    let answer := ((statement.recordSize arguments).run.run catalogue).1
    let afterwards := ((statement.recordSize arguments).run.run catalogue).2
    answer = (LogRecord.recordSize (Format.ofString statement.text).slots arguments).mapError
        .encoding ∧
      (∀ error, answer ≠ .error (.catalogue error)) ∧
      (∀ index, answer ≠ .error (.encoding (.invalidArgument index))) ∧
      (∀ expected actual, answer = .error (.encoding (.argumentCount expected actual)) ↔
        arguments.length ≠ statement.argumentCount ∧ expected = statement.argumentCount ∧
          actual = arguments.length) ∧
      afterwards = empty.after (earlier ++ [.enroll statement.text]) ∧
      ∃ entry, entry.text = statement.text ∧
        afterwards.perform (.find entry.id) = (.ok (some entry), afterwards) ∧
        afterwards.perform (.enroll statement.text) = (.ok (some entry), afterwards) ∧
        ∀ known ∈ catalogue.entries, known.text = statement.text → known = entry := by
  intro catalogue answer afterwards
  have consistent : Consistent catalogue := consistent_after earlier
  have texts : catalogue.texts = distinctTexts earlier :=
    texts_after (length_distinctTexts_lt rfl few)
  obtain ⟨entry, run, same, format, member⟩ :=
    consistent.enroll_usable statement.issues_eq_nil (room_of_texts rfl few texts)
  have sized := statement.run_recordSize arguments catalogue
  rw [run] at sized
  dsimp only at sized
  rw [format] at sized
  have fresh : answer =
      (LogRecord.recordSize (Format.ofString statement.text).slots arguments).mapError .encoding :=
    congrArg Prod.fst sized
  have left : afterwards = (catalogue.perform (.enroll statement.text)).2 :=
    congrArg Prod.snd sized
  have stays : Consistent afterwards :=
    left ▸ consistent.of_performed (performed (.enroll statement.text) catalogue)
  rw [← left] at member
  have counted : statement.argumentCount = (Format.ofString statement.text).slots.length :=
    Precheck.slotCount_eq statement.text
  have failure (error : EncodingError) : answer = .error (.encoding error) ↔
      LogRecord.recordSize (Format.ofString statement.text).slots arguments = .error error := by
    simp only [fresh, mapError_eq_error_iff, StatementError.encoding.injEq, exists_eq_right]
  refine ⟨fresh, ?_, ?_, ?_, ?_, entry, same, (stays.perform_of_mem member).1, ?_, ?_⟩
  · intro error failed
    obtain ⟨_, -, told⟩ := mapError_eq_error_iff.mp (fresh.symm.trans failed)
    contradiction
  · intro index failed
    exact recordSize_ne_invalidArgument statement.invalid_notMem_slots index
      ((failure _).mp failed)
  · intro expected actual
    rw [failure, recordSize_eq_argumentCount_iff, counted, ne_comm]
  · rw [left, after_append]
    rfl
  · rw [← same]
    exact stays.perform_enroll_of_mem member (same ▸ statement.issues_eq_nil)
  · intro known knownBefore sameText
    have knownAfter : known ∈ afterwards.entries :=
      left ▸ (performed (.enroll statement.text) catalogue).mono known knownBefore
    exact stays.eq_of_text_eq knownAfter member (sameText.trans same.symm)

open Catalogue in
theorem Statement.recordSize_reads_anew_refused_text :
    let earlier : List Call := [.enroll "%n", .intern "%.*s", .find 7, .enroll "%n"]
    let integer : Argument := .scalar (.ofInt (.signed .two) 2)
    let string : Argument := .narrow 0x1000 [97, 98, 99]
    ∃ statement : Statement, statement.text = "%.*s" ∧
      (distinctTexts (earlier ++ [.enroll statement.text])).length < idLimit ∧
      ((statement.recordSize [integer, string]).run.run (empty.after earlier)).1 = .ok 8 ∧
      ((statement.recordSize [string]).run.run (empty.after earlier)).1 =
        .error (.encoding (.argumentCount 2 1)) ∧
      ((statement.recordSize [string]).run.run (empty.after earlier)).2 =
        empty.after (earlier ++ [.enroll "%.*s"]) := by
  intro earlier integer string
  let statement : Statement := { text := "%.*s", usable := by decide +kernel }
  have few : (distinctTexts (earlier ++ [.enroll statement.text])).length < idLimit := by
    have texts : distinctTexts (earlier ++ [.enroll statement.text]) = ["%n", "%.*s"] := by
      decide +kernel
    rw [texts]
    decide
  have slots : (Format.ofString statement.text).slots = [.precision, .text .dynamic] := by
    decide +kernel
  have counted : statement.argumentCount = 2 := by decide +kernel
  obtain ⟨fresh, -⟩ := statement.recordSize_reads_anew [integer, string] few
  obtain ⟨-, -, -, counts, left, -⟩ := statement.recordSize_reads_anew [string] few
  refine ⟨statement, rfl, few, ?_, (counts 2 1).mpr ?_, left⟩
  · rw [fresh, slots]
    rfl
  · rw [counted]
    decide

end LogRecord
