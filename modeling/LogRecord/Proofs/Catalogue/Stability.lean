import LogRecord.Proofs.Catalogue.Consistency
import LogRecord.Proofs.Format.Prechecking

/-! A catalogue shows through to the formats, and its entries stay.

An entry that is in a catalogue is what every later call finds for its number and its text
(`Catalogue.Consistent.perform_of_mem`). So the answers of a catalogue never depend on when a text
was first seen (`Catalogue.answers_stable`). -/

set_option autoImplicit false
namespace LogRecord

theorem Format.parse_eq_check (text : String) :
    parse text = (ofString text).check.map fun _ => ofString text := by
  cases checked : (ofString text).check <;>
    simp [parse, checked, bind, Except.bind, pure, Except.pure, Except.map]

namespace Catalogue
namespace Consistent

variable {catalogue : Catalogue} (consistent : Consistent catalogue)
include consistent

theorem perform_of_mem {entry : Entry} (member : entry ∈ catalogue.entries) :
    catalogue.perform (.find entry.id) = (.ok (some entry), catalogue) ∧
      catalogue.perform (.intern entry.text) = (.ok (some entry), catalogue) := by
  have byId := consistent.find?_eq_some_iff.mpr ⟨member, rfl⟩
  have byText := (consistent.byText entry.text entry).mpr ⟨member, rfl⟩
  rw [perform_find, byId, perform_intern, CatalogueM.run_intern_of_found byText]
  exact ⟨rfl, rfl⟩

theorem perform_enroll_of_mem {entry : Entry} (member : entry ∈ catalogue.entries)
    (usable : (Format.ofString entry.text).issues = []) :
    catalogue.perform (.enroll entry.text) = (.ok (some entry), catalogue) := by
  have byText := (consistent.byText entry.text entry).mpr ⟨member, rfl⟩
  have checked : entry.analysis.format.check = .ok () := by
    rw [consistent.formats entry member, Format.check_eq_ok_iff, usable]
  rw [perform_enroll, CatalogueM.run_intern_of_found byText]
  dsimp only
  rw [checked]
  rfl

theorem eq_of_text_eq {first second : Entry} (firstMember : first ∈ catalogue.entries)
    (secondMember : second ∈ catalogue.entries) (same : first.text = second.text) :
    first = second := by
  have found := (consistent.byText second.text first).mpr ⟨firstMember, same⟩
  have again := (consistent.byText second.text second).mpr ⟨secondMember, rfl⟩
  rw [found] at again
  exact Option.some.inj again

theorem run_eq_iff {first second : Entry} (firstMember : first ∈ catalogue.entries)
    (secondMember : second ∈ catalogue.entries) :
    first.analysis.run = second.analysis.run ↔ first.text = second.text := by
  constructor
  · intro shared
    rw [consistent.runs first firstMember second secondMember shared]
  · intro same
    rw [consistent.eq_of_text_eq firstMember secondMember same]

/-- A call whose text is there already changes nothing. -/
theorem perform_snd_of_known {call : Call} (known : ∀ text ∈ call.text?, text ∈ catalogue.texts) :
    (catalogue.perform call).2 = catalogue := by
  rcases (performed call catalogue).change with ⟨-, same⟩ | ⟨text, _, interns, way⟩
  · exact same
  · generalize (catalogue.perform call).2 = after at way ⊢
    have there := consistent.mem_texts_iff.mp (known text interns)
    cases way with
    | found _ => rfl
    | made absent _ | full absent _ =>
      rw [absent] at there
      obtain ⟨_, found⟩ := there
      contradiction

/-- While there is room for its text, a call answers as if the text were read anew. -/
theorem answers_of_room {text : String}
    (room : text ∈ catalogue.texts ∨ catalogue.size + 1 < idLimit) :
    ∃ entry, (catalogue.perform (.intern text)).1 = .ok (some entry) ∧ entry.text = text ∧
      entry.analysis.format = Format.ofString text ∧
      (catalogue.perform (.enroll text)).1 =
        ((Format.parse text).mapError .invalid).map fun _ => some entry := by
  have way := interned_run text catalogue
  rw [perform_intern, perform_enroll, Format.parse_eq_check]
  generalize (CatalogueM.intern text).run.run catalogue = run at way ⊢
  obtain ⟨answer, after⟩ := run
  obtain ⟨⟨entry, rfl⟩, -⟩ := consistent.texts_interned way room
  obtain ⟨member, rfl⟩ := consistent.mem_of_interned way
  have format := (consistent.of_interned way).formats entry member
  refine ⟨entry, rfl, rfl, format, ?_⟩
  dsimp only
  rw [format]
  cases (Format.ofString entry.text).check <;> rfl

end Consistent

/-- An interned text is answered with its own format, and an enrolled one is refused exactly as it
is when read without a catalogue, whatever was called before and however often. Every entry that a
call answers is found from then on by its number and by its text. Two such entries share an analysis
exactly when they are of one text, and a call that brings no new text changes nothing. -/
theorem answers_stable {earlier : List Call} {text : String}
    (few : (distinctTexts (earlier ++ [.intern text])).length < idLimit) :
    let catalogue := empty.after earlier
    (∃ entry, (catalogue.perform (.intern text)).1 = .ok (some entry) ∧ entry.text = text ∧
        entry.analysis.format = Format.ofString text ∧
        ((catalogue.perform (.enroll text)).1 = .ok (some entry) ↔
          ∃ format, Format.parse text = .ok format) ∧
        ∀ error, (catalogue.perform (.enroll text)).1 = .error error ↔
          ∃ issue, Format.parse text = .error issue ∧ error = .invalid issue) ∧
      (∀ call entry later, (catalogue.perform call).1 = .ok (some entry) →
        let afterwards := empty.after (earlier ++ call :: later)
        afterwards.perform (.find entry.id) = (.ok (some entry), afterwards) ∧
          afterwards.perform (.intern entry.text) = (.ok (some entry), afterwards)) ∧
      (∀ later first second, Returned (earlier ++ later) first → Returned (earlier ++ later) second →
        (first.analysis.run = second.analysis.run ↔ first.text = second.text)) ∧
      ∀ call, (∀ known ∈ call.text?, known ∈ catalogue.texts) →
        (catalogue.perform call).2 = catalogue := by
  intro catalogue
  have consistent : Consistent catalogue := consistent_after earlier
  have known : catalogue.texts = distinctTexts earlier :=
    texts_after (length_distinctTexts_lt rfl few)
  have room := room_of_texts rfl few known
  refine ⟨?_, ?_, ?_, fun call => consistent.perform_snd_of_known⟩
  · obtain ⟨entry, interned, same, format, enrolled⟩ := consistent.answers_of_room room
    refine ⟨entry, interned, same, format, ?_⟩
    rw [enrolled]
    cases Format.parse text with
    | ok format => simp [Except.mapError, Except.map]
    | error issue => simp [Except.mapError, Except.map, eq_comm]
  · intro call entry later answered
    have returned : Returned (earlier ++ call :: later) entry := ⟨earlier, call, later, rfl, answered⟩
    exact (consistent_after _).perform_of_mem (mem_entries_of_returned returned)
  · intro later first second firstReturned secondReturned
    exact (consistent_after _).run_eq_iff (mem_entries_of_returned firstReturned)
      (mem_entries_of_returned secondReturned)

theorem answers_stable_refused_text :
    let earlier : List Call := [.intern "%d", .enroll "%n"]
    let catalogue := empty.after earlier
    (distinctTexts (earlier ++ [.intern "%n"])).length < idLimit ∧
      (catalogue.perform (.enroll "%n")).1 = .error (.invalid ⟨0, 0, .unsupported⟩) ∧
      ∃ entry, (catalogue.perform (.intern "%n")).1 = .ok (some entry) ∧
        let afterwards := empty.after (earlier ++ [.intern "%n", .intern "%s"])
        afterwards.perform (.find entry.id) = (.ok (some entry), afterwards) := by
  intro earlier catalogue
  have few : (distinctTexts (earlier ++ [.intern "%n"])).length < idLimit := by
    have texts : distinctTexts (earlier ++ [.intern "%n"]) = ["%d", "%n"] := by decide +kernel
    rw [texts]
    decide
  have refused : Format.parse "%n" = .error ⟨0, 0, .unsupported⟩ := by
    rw [Format.parse_eq_error_iff]
    decide +kernel
  obtain ⟨⟨entry, interned, -, -, -, failure⟩, stays, -⟩ := answers_stable few
  refine ⟨few, (failure _).mpr ⟨_, refused, rfl⟩, entry, interned, ?_⟩
  exact (stays (.intern "%n") entry [.intern "%s"] interned).1

end Catalogue
end LogRecord
