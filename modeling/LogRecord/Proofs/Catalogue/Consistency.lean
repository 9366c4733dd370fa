import LogRecord.Proofs.Catalogue.Calls
import Mathlib.Data.List.Induction

/-! The two indexes of a catalogue agree.

Every call keeps a catalogue consistent (`Catalogue.Consistent.after`): the entries are numbered in
their order, the look-up by text finds exactly them, and each holds the format of its own text and
an analysis of its own. While there is room, the entries are those of the texts of the calls, in the
order in which they were first seen (`Catalogue.texts_after`). -/

set_option autoImplicit false
namespace LogRecord.Catalogue

structure Consistent (catalogue : Catalogue) : Prop where
  ids : ∀ place entry, catalogue.entries[place]? = some entry → entry.id = place + 1
  nodup : catalogue.texts.Nodup
  byText : ∀ text entry,
    catalogue.byText[text]? = some entry ↔ entry ∈ catalogue.entries ∧ entry.text = text
  formats : ∀ entry ∈ catalogue.entries, entry.analysis.format = Format.ofString entry.text
  /-- No two entries share an analysis. -/
  runs : ∀ first ∈ catalogue.entries, ∀ second ∈ catalogue.entries,
    first.analysis.run = second.analysis.run → first = second
  runs_lt : ∀ entry ∈ catalogue.entries, entry.analysis.run < catalogue.runs

namespace Consistent

variable {catalogue : Catalogue}

theorem ofEmpty : Consistent empty where
  ids := by
    intro place entry found
    simp [empty] at found
  nodup := List.nodup_nil
  byText := by
    intro text entry
    simp [empty]
  formats := by simp [empty]
  runs := by simp [empty]
  runs_lt := by simp [empty]

section
variable (consistent : Consistent catalogue)
include consistent

theorem mem_texts_iff {text : String} :
    text ∈ catalogue.texts ↔ ∃ entry, catalogue.byText[text]? = some entry := by
  simp only [texts, List.mem_map, consistent.byText, Array.mem_toList_iff]

theorem byText_eq_none_iff {text : String} :
    catalogue.byText[text]? = none ↔ text ∉ catalogue.texts := by
  rw [consistent.mem_texts_iff, Option.eq_none_iff_forall_ne_some, not_exists]

theorem find?_eq_some_iff {id : Nat} {entry : Entry} :
    catalogue.find? id = some entry ↔ entry ∈ catalogue.entries ∧ entry.id = id := by
  constructor
  · intro found
    cases id with
    | zero => contradiction
    | succ place => exact ⟨Array.mem_of_getElem? found, consistent.ids place entry found⟩
  · rintro ⟨member, rfl⟩
    obtain ⟨place, found⟩ := Array.mem_iff_getElem?.mp member
    rw [consistent.ids place entry found]
    exact found

theorem analysed : Consistent catalogue.analysed where
  ids := consistent.ids
  nodup := consistent.nodup
  byText := consistent.byText
  formats := consistent.formats
  runs := consistent.runs
  runs_lt entry member := Nat.lt_succ_of_lt (consistent.runs_lt entry member)

/-- A new entry needs a text and an analysis that no other entry has, and the next number. -/
theorem insert {entry : Entry} (absent : catalogue.byText[entry.text]? = none)
    (id : entry.id = catalogue.size + 1)
    (format : entry.analysis.format = Format.ofString entry.text)
    (unshared : ∀ other ∈ catalogue.entries, other.analysis.run ≠ entry.analysis.run)
    (made : entry.analysis.run < catalogue.runs) : Consistent (catalogue.insert entry) where
  ids := by
    intro place other found
    rw [entries_insert, Array.getElem?_push] at found
    split at found
    next last =>
      obtain rfl := Option.some.inj found
      rw [id, last]
      rfl
    next => exact consistent.ids place other found
  nodup := by
    rw [texts_insert, List.nodup_append]
    refine ⟨consistent.nodup, List.pairwise_singleton _ entry.text, ?_⟩
    rintro earlier member other last rfl
    obtain rfl := List.mem_singleton.mp last
    exact consistent.byText_eq_none_iff.mp absent member
  byText := by
    intro text other
    rw [byText_insert, entries_insert, Array.mem_push]
    split
    next same =>
      subst same
      constructor
      · intro found
        obtain rfl := Option.some.inj found
        exact ⟨.inr rfl, rfl⟩
      · rintro ⟨member | rfl, sameText⟩
        · have found := (consistent.byText _ other).mpr ⟨member, sameText⟩
          rw [absent] at found
          contradiction
        · rfl
    next apart =>
      rw [consistent.byText]
      constructor
      · rintro ⟨member, sameText⟩
        exact ⟨.inl member, sameText⟩
      · rintro ⟨member | rfl, sameText⟩
        · exact ⟨member, sameText⟩
        · exact absurd sameText apart
  formats := by
    intro other member
    rcases Array.mem_push.mp member with earlier | rfl
    · exact consistent.formats other earlier
    · exact format
  runs := by
    intro first firstMember second secondMember same
    rcases Array.mem_push.mp firstMember with firstEarlier | rfl <;>
      rcases Array.mem_push.mp secondMember with secondEarlier | rfl
    · exact consistent.runs first firstEarlier second secondEarlier same
    · exact absurd same (unshared first firstEarlier)
    · exact absurd same.symm (unshared second secondEarlier)
    · rfl
  runs_lt := by
    intro other member
    rcases Array.mem_push.mp member with earlier | rfl
    · exact consistent.runs_lt other earlier
    · exact made

end

/-! ## Steps -/

section
variable {before after : Catalogue} {text : String}

theorem of_interned {answer : Except CatalogueError Entry} (consistent : Consistent before)
    (way : Interned before text answer after) : Consistent after := by
  cases way with
  | found _ => exact consistent
  | made absent _ =>
    have unshared (other : Entry) (member : other ∈ before.entries) :=
      Nat.ne_of_lt (consistent.runs_lt other member)
    exact consistent.analysed.insert absent rfl rfl unshared (Nat.lt_succ_self before.runs)
  | full _ _ => exact consistent.analysed

/-- An entry that is answered stands in the catalogue from then on. -/
theorem mem_of_interned {entry : Entry} (consistent : Consistent before)
    (way : Interned before text (.ok entry) after) :
    entry ∈ after.entries ∧ entry.text = text := by
  cases way with
  | found found => exact (consistent.byText text entry).mp found
  | made _ _ => exact ⟨Array.mem_push_self, rfl⟩

theorem texts_interned {answer : Except CatalogueError Entry} (consistent : Consistent before)
    (way : Interned before text answer after)
    (room : text ∈ before.texts ∨ before.size + 1 < idLimit) :
    (∃ entry, answer = .ok entry) ∧
      after.texts = if text ∈ before.texts then before.texts else before.texts ++ [text] := by
  cases way with
  | found found =>
    exact ⟨⟨_, rfl⟩, (if_pos (consistent.mem_texts_iff.mpr ⟨_, found⟩)).symm⟩
  | made absent _ =>
    rw [if_neg (consistent.byText_eq_none_iff.mp absent), texts_insert, texts_analysed]
    exact ⟨⟨_, rfl⟩, rfl⟩
  | full absent full =>
    rcases room with known | room
    · exact absurd known (consistent.byText_eq_none_iff.mp absent)
    · exact absurd room (Nat.not_lt.mpr full)

end

variable {before after : Catalogue} {call : Call} {answer : Except CatalogueError (Option Entry)}

theorem of_performed (consistent : Consistent before) (performed : Performed before call answer after) :
    Consistent after := by
  rcases performed.change with ⟨-, rfl⟩ | ⟨_, _, -, way⟩
  · exact consistent
  · exact consistent.of_interned way

theorem mem_of_performed {entry : Entry} (consistent : Consistent before)
    (performed : Performed before call (.ok (some entry)) after) : entry ∈ after.entries := by
  generalize result : Except.ok (some entry) = answer at performed
  cases performed with
  | interned way | enrolled way _ =>
    obtain rfl := Option.some.inj (Except.ok.inj result)
    exact (consistent.mem_of_interned way).1
  | looked => exact (consistent.find?_eq_some_iff.mp (Except.ok.inj result).symm).1
  | unmade _ | refused _ _ | unenrolled _ => contradiction

end Consistent

theorem Interned.mono {before after : Catalogue} {text : String}
    {answer : Except CatalogueError Entry} (way : Interned before text answer after) :
    ∀ entry ∈ before.entries, entry ∈ after.entries := by
  intro entry member
  cases way with
  | found _ | full _ _ => exact member
  | made _ _ => exact Array.mem_push_of_mem _ member

theorem Performed.mono {before after : Catalogue} {call : Call}
    {answer : Except CatalogueError (Option Entry)}
    (performed : Performed before call answer after) :
    ∀ entry ∈ before.entries, entry ∈ after.entries := by
  rcases performed.change with ⟨-, rfl⟩ | ⟨_, _, -, way⟩
  · exact fun _ member => member
  · exact way.mono

/-! ## Histories -/

theorem Consistent.after {catalogue : Catalogue} (consistent : Consistent catalogue)
    (calls : List Call) : Consistent (catalogue.after calls) := by
  induction calls generalizing catalogue with
  | nil => exact consistent
  | cons call calls ih =>
    rw [after_cons]
    exact ih (consistent.of_performed (performed call catalogue))

theorem mem_entries_after {catalogue : Catalogue} {entry : Entry}
    (member : entry ∈ catalogue.entries) (calls : List Call) :
    entry ∈ (catalogue.after calls).entries := by
  induction calls generalizing catalogue with
  | nil => exact member
  | cons call calls ih =>
    rw [after_cons]
    exact ih ((performed call catalogue).mono entry member)

theorem consistent_after (calls : List Call) : Consistent (empty.after calls) :=
  Consistent.ofEmpty.after calls

theorem mem_entries_of_returned {calls : List Call} {entry : Entry}
    (returned : Returned calls entry) : entry ∈ (empty.after calls).entries := by
  obtain ⟨earlier, call, later, rfl, answered⟩ := returned
  have step := performed call (empty.after earlier)
  rw [answered] at step
  rw [after_append, after_cons]
  exact mem_entries_after ((consistent_after earlier).mem_of_performed step) later

section
variable {calls : List Call} {call : Call} {text : String} (interns : call.text? = some text)
  (few : (distinctTexts (calls ++ [call])).length < idLimit)
include interns few

theorem length_distinctTexts_lt : (distinctTexts calls).length < idLimit := by
  rw [distinctTexts_concat_of_some interns] at few
  split at few
  · exact few
  · rw [List.length_append] at few
    exact Nat.lt_of_add_right_lt few

theorem room_of_texts (known : (empty.after calls).texts = distinctTexts calls) :
    text ∈ (empty.after calls).texts ∨ (empty.after calls).size + 1 < idLimit := by
  rw [← length_texts, known]
  by_cases seen : text ∈ distinctTexts calls
  · exact .inl seen
  · rw [distinctTexts_concat_of_some interns, if_neg seen, List.length_append] at few
    exact .inr few

end

/-- While numbers last, the entries are those of the texts of the calls, in the order of their first
calls. -/
theorem texts_after {calls : List Call} (few : (distinctTexts calls).length < idLimit) :
    (empty.after calls).texts = distinctTexts calls := by
  induction calls using List.reverseRecOn with
  | nil => rfl
  | append_singleton calls call ih =>
    rw [after_append]
    change ((empty.after calls).perform call).2.texts = _
    rcases (performed call (empty.after calls)).change with ⟨lookup, same⟩ | ⟨text, _, interns, way⟩
    · rw [distinctTexts_concat_of_none lookup] at few ⊢
      rw [same, ih few]
    · have known := ih (length_distinctTexts_lt interns few)
      have room := room_of_texts interns few known
      rw [((consistent_after calls).texts_interned way room).2, known,
        distinctTexts_concat_of_some interns]

theorem isSome_find?_iff {id : Nat} {catalogue : Catalogue} :
    (catalogue.find? id).isSome = true ↔ 1 ≤ id ∧ id ≤ catalogue.size := by
  cases id with
  | zero => simp [find?]
  | succ place =>
    have inside : (catalogue.find? (place + 1)).isSome = true ↔ place < catalogue.size :=
      iff_of_eq (isSome_getElem? catalogue.entries place)
    rw [inside, Nat.succ_le_iff]
    exact (and_iff_right (Nat.succ_pos place)).symm

/-- After any calls the entries are numbered from one in the order in which their texts were first
seen, refused texts among them, and the look-ups by text and by number both find exactly these
entries. -/
theorem indexes_agree {calls : List Call} (few : (distinctTexts calls).length < idLimit) :
    let catalogue := empty.after calls
    let texts := distinctTexts calls
    (∀ place entry, catalogue.entries[place]? = some entry → entry.id = place + 1) ∧
      (catalogue.entries.toList.map Entry.text = texts ∧ texts.Nodup ∧
        ∀ text, text ∈ texts ↔ ∃ call ∈ calls, call.text? = some text) ∧
      ((∀ text entry, catalogue.byText[text]? = some entry ↔
          entry ∈ catalogue.entries ∧ entry.text = text) ∧
        ∀ text, text ∈ catalogue.byText ↔ text ∈ texts) ∧
      (∀ entry ∈ catalogue.entries, entry.analysis.format = Format.ofString entry.text) ∧
      catalogue.size = texts.length ∧
      (∀ id, ∃ found, catalogue.perform (.find id) = (.ok found, catalogue) ∧
        (found.isSome = true ↔ 1 ≤ id ∧ id ≤ catalogue.size)) ∧
      ∀ entry, Returned calls entry → ∃ found,
        catalogue.perform (.find entry.id) = (.ok (some found), catalogue) ∧
          found.text = entry.text := by
  intro catalogue texts
  have consistent : Consistent catalogue := consistent_after calls
  have known : catalogue.texts = texts := texts_after few
  refine ⟨consistent.ids, ⟨known, ?_, fun text => mem_distinctTexts_iff⟩,
    ⟨consistent.byText, ?_⟩, consistent.formats, ?_, ?_, ?_⟩
  · rw [← known]
    exact consistent.nodup
  · intro text
    rw [← known, consistent.mem_texts_iff, ← Option.isSome_iff_exists,
      Std.HashMap.isSome_getElem?_iff_mem]
  · rw [← length_texts, known]
  · intro id
    exact ⟨_, perform_find id catalogue, isSome_find?_iff⟩
  · intro entry returned
    have found := consistent.find?_eq_some_iff.mpr ⟨mem_entries_of_returned returned, rfl⟩
    exact ⟨entry, by rw [perform_find, found], rfl⟩

theorem indexes_agree_refused_text :
    let calls : List Call := [.enroll "%n", .intern "%d", .find 7, .enroll "%n", .intern "%s"]
    let catalogue := empty.after calls
    (distinctTexts calls).length < idLimit ∧
      catalogue.entries.toList.map Entry.text = ["%n", "%d", "%s"] ∧ catalogue.size = 3 ∧
      (∀ id, ∃ found, catalogue.perform (.find id) = (.ok found, catalogue) ∧
        (found.isSome = true ↔ 1 ≤ id ∧ id ≤ 3)) ∧
      ∃ entry, catalogue.byText["%n"]? = some entry ∧ entry ∈ catalogue.entries ∧
        entry.analysis.format.issues = [⟨0, 0, .unsupported⟩] := by
  intro calls catalogue
  have texts : distinctTexts calls = ["%n", "%d", "%s"] := by decide +kernel
  have few : (distinctTexts calls).length < idLimit := by
    rw [texts]
    decide
  obtain ⟨-, ⟨known, -, -⟩, ⟨byText, listed⟩, formats, size, lookup, -⟩ := indexes_agree few
  rw [texts] at known size listed
  rw [size] at lookup
  refine ⟨few, known, size, lookup, ?_⟩
  have member : "%n" ∈ catalogue.byText := (listed "%n").mpr (by decide)
  rw [← Std.HashMap.isSome_getElem?_iff_mem, Option.isSome_iff_exists] at member
  obtain ⟨entry, found⟩ := member
  obtain ⟨inside, text⟩ := (byText "%n" entry).mp found
  refine ⟨entry, found, inside, ?_⟩
  rw [formats entry inside, text]
  decide +kernel

end LogRecord.Catalogue
