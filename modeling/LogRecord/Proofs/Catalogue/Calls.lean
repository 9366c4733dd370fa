import LogRecord.Catalogue
import LogRecord.Proofs.Execution

/-! What the calls on a catalogue answer and what they leave.

A text is interned in one of three ways: its entry is found, or one is made for it, or the catalogue
is full (`Catalogue.Interned`). An enrolled text is interned before it is checked, so a call changes
the catalogue only by interning its text (`Catalogue.Performed`). -/

set_option autoImplicit false
namespace LogRecord

namespace Catalogue

/-- The texts of the entries, in the order of their numbers. -/
def texts (catalogue : Catalogue) : List String :=
  catalogue.entries.toList.map Entry.text

/-- The entry that a text is given when it is first seen. -/
def entryOf (text : String) (catalogue : Catalogue) : Entry where
  id := catalogue.size + 1
  text := text
  analysis := { run := catalogue.runs, format := Format.ofString text }

/-- The catalogue once another analysis has been made. -/
def analysed (catalogue : Catalogue) : Catalogue :=
  { catalogue with runs := catalogue.runs + 1 }

variable (entry : Entry) (catalogue : Catalogue)

@[simp] theorem texts_analysed : catalogue.analysed.texts = catalogue.texts := rfl

@[simp] theorem entries_insert :
    (catalogue.insert entry).entries = catalogue.entries.push entry := rfl

@[simp] theorem texts_insert :
    (catalogue.insert entry).texts = catalogue.texts ++ [entry.text] := by
  rw [texts, entries_insert, Array.toList_push, List.map_append]
  rfl

theorem byText_insert (text : String) :
    (catalogue.insert entry).byText[text]? =
      if entry.text = text then some entry else catalogue.byText[text]? := by
  simp only [insert, Std.HashMap.getElem?_insert, beq_iff_eq]

@[simp] theorem length_texts : catalogue.texts.length = catalogue.size := by
  rw [texts, List.length_map, Array.length_toList]
  rfl

end Catalogue

namespace CatalogueM

variable {text : String} {analysis : Analysis} {entry : Entry} {catalogue : Catalogue}

theorem run_enter_of_absent (absent : catalogue.byText[text]? = none) :
    (enter text analysis).run.run catalogue =
      if Catalogue.idLimit ≤ catalogue.size + 1 then (.error .full, catalogue)
      else
        (.ok { id := catalogue.size + 1, text, analysis },
          catalogue.insert { id := catalogue.size + 1, text, analysis }) := by
  simp only [enter, run_bind, run_get, absent]
  split
  · simp only [run_bind, run_throw]
  · simp only [run_bind, run_modify, run_pure]

theorem run_analysisOf :
    (analysisOf text).run.run catalogue =
      (.ok (catalogue.entryOf text).analysis, catalogue.analysed) := rfl

theorem run_intern_of_found (found : catalogue.byText[text]? = some entry) :
    (intern text).run.run catalogue = (.ok entry, catalogue) := by
  simp only [intern, run_bind, run_get, found, run_pure]

-- No other call comes between the two looks, so the second finds what the first has found.
theorem run_intern_of_absent (absent : catalogue.byText[text]? = none) :
    (intern text).run.run catalogue =
      if Catalogue.idLimit ≤ catalogue.size + 1 then (.error .full, catalogue.analysed)
      else (.ok (catalogue.entryOf text), catalogue.analysed.insert (catalogue.entryOf text)) := by
  simp only [intern, run_bind, run_get, absent, run_analysisOf]
  exact run_enter_of_absent absent

theorem run_enroll (text : String) (catalogue : Catalogue) :
    (enroll text).run.run catalogue =
      match (intern text).run.run catalogue with
      | (.ok entry, after) =>
        ((entry.analysis.format.check.mapError .invalid).map fun _ => entry, after)
      | (.error error, after) => (.error error, after) := by
  rw [enroll, run_bind]
  obtain ⟨error | entry, after⟩ := (intern text).run.run catalogue
  · rfl
  · cases checked : entry.analysis.format.check with
    | ok _ =>
      simp only [checked, run_pure]
      rfl
    | error issue =>
      simp only [checked, run_throw]
      rfl

end CatalogueM

/-! ## Calls -/

namespace Catalogue

/-- What interning a text answers and the catalogue it leaves. -/
inductive Interned (before : Catalogue) (text : String) :
    Except CatalogueError Entry → Catalogue → Prop where
  | found {entry : Entry} :
      before.byText[text]? = some entry → Interned before text (.ok entry) before
  | made :
      before.byText[text]? = none → before.size + 1 < idLimit →
      Interned before text (.ok (before.entryOf text))
        (before.analysed.insert (before.entryOf text))
  | full :
      before.byText[text]? = none → idLimit ≤ before.size + 1 →
      Interned before text (.error .full) before.analysed

theorem interned_run (text : String) (catalogue : Catalogue) :
    Interned catalogue text ((CatalogueM.intern text).run.run catalogue).1
      ((CatalogueM.intern text).run.run catalogue).2 := by
  cases found : catalogue.byText[text]? with
  | some entry =>
    rw [CatalogueM.run_intern_of_found found]
    exact .found found
  | none =>
    rw [CatalogueM.run_intern_of_absent found]
    split
    next full => exact .full found full
    next room => exact .made found (Nat.not_le.mp room)

/-- What a call answers and the catalogue it leaves. -/
inductive Performed (before : Catalogue) :
    Call → Except CatalogueError (Option Entry) → Catalogue → Prop where
  | interned {text : String} {entry : Entry} {after : Catalogue} :
      Interned before text (.ok entry) after →
      Performed before (.intern text) (.ok (some entry)) after
  | unmade {text : String} {error : CatalogueError} {after : Catalogue} :
      Interned before text (.error error) after →
      Performed before (.intern text) (.error error) after
  | enrolled {text : String} {entry : Entry} {after : Catalogue} :
      Interned before text (.ok entry) after → entry.analysis.format.check = .ok () →
      Performed before (.enroll text) (.ok (some entry)) after
  | refused {text : String} {entry : Entry} {issue : Issue} {after : Catalogue} :
      Interned before text (.ok entry) after → entry.analysis.format.check = .error issue →
      Performed before (.enroll text) (.error (.invalid issue)) after
  | unenrolled {text : String} {error : CatalogueError} {after : Catalogue} :
      Interned before text (.error error) after →
      Performed before (.enroll text) (.error error) after
  | looked {id : Nat} : Performed before (.find id) (.ok (before.find? id)) before

theorem perform_find (id : Nat) (catalogue : Catalogue) :
    catalogue.perform (.find id) = (.ok (catalogue.find? id), catalogue) := rfl

theorem perform_intern (text : String) (catalogue : Catalogue) :
    catalogue.perform (.intern text) =
      (((CatalogueM.intern text).run.run catalogue).1.map some,
        ((CatalogueM.intern text).run.run catalogue).2) :=
  run_map some (CatalogueM.intern text) catalogue

theorem perform_enroll (text : String) (catalogue : Catalogue) :
    catalogue.perform (.enroll text) =
      match (CatalogueM.intern text).run.run catalogue with
      | (.ok entry, after) =>
        ((entry.analysis.format.check.mapError .invalid).map fun _ => some entry, after)
      | (.error error, after) => (.error error, after) := by
  refine (run_map some (CatalogueM.enroll text) catalogue).trans ?_
  rw [CatalogueM.run_enroll]
  obtain ⟨error | entry, after⟩ := (CatalogueM.intern text).run.run catalogue
  · rfl
  · dsimp only
    cases entry.analysis.format.check <;> rfl

theorem performed (call : Call) (catalogue : Catalogue) :
    Performed catalogue call (catalogue.perform call).1 (catalogue.perform call).2 := by
  cases call with
  | find id => exact .looked
  | intern text =>
    have way := interned_run text catalogue
    rw [perform_intern]
    generalize (CatalogueM.intern text).run.run catalogue = run at way ⊢
    obtain ⟨error | entry, after⟩ := run
    · exact .unmade way
    · exact .interned way
  | enroll text =>
    have way := interned_run text catalogue
    rw [perform_enroll]
    generalize (CatalogueM.intern text).run.run catalogue = run at way ⊢
    obtain ⟨error | entry, after⟩ := run
    · exact .unenrolled way
    · cases checked : entry.analysis.format.check with
      | ok _ =>
        simp only [checked]
        exact .enrolled way checked
      | error issue =>
        simp only [checked]
        exact .refused way checked

end Catalogue

/-- The text that a call interns. -/
def Call.text? : Call → Option String
  | intern text | enroll text => some text
  | find _ => none

namespace Catalogue

variable {before after : Catalogue} {call : Call} {answer : Except CatalogueError (Option Entry)}

/-- A call does nothing to the catalogue but intern its text. -/
theorem Performed.change (performed : Performed before call answer after) :
    call.text? = none ∧ after = before ∨
      ∃ text found, call.text? = some text ∧ Interned before text found after := by
  cases performed with
  | looked => exact .inl ⟨rfl, rfl⟩
  | interned way | unmade way | enrolled way _ | refused way _ | unenrolled way =>
    exact .inr ⟨_, _, rfl, way⟩

/-! ## Histories -/

/-- The texts that calls intern, each at the place of its first call. -/
def distinctTexts (calls : List Call) : List String :=
  (calls.filterMap Call.text?).eraseDups

/-- One of the calls, made in turn on a catalogue that was empty, answers this entry. -/
def Returned (calls : List Call) (entry : Entry) : Prop :=
  ∃ earlier call later, calls = earlier ++ call :: later ∧
    ((empty.after earlier).perform call).1 = .ok (some entry)

theorem after_append (catalogue : Catalogue) (first second : List Call) :
    catalogue.after (first ++ second) = (catalogue.after first).after second :=
  List.foldl_append

theorem after_cons (catalogue : Catalogue) (call : Call) (calls : List Call) :
    catalogue.after (call :: calls) = (catalogue.perform call).2.after calls := rfl

theorem eraseDups_concat (texts : List String) (text : String) :
    (texts ++ [text]).eraseDups =
      if text ∈ texts then texts.eraseDups else texts.eraseDups ++ [text] := by
  rw [List.eraseDups_append, List.removeAll]
  split
  next known => simp [known]
  next fresh => simp [fresh, List.eraseDups_cons]

theorem distinctTexts_concat_of_none {call : Call} (lookup : call.text? = none)
    (calls : List Call) : distinctTexts (calls ++ [call]) = distinctTexts calls := by
  simp only [distinctTexts, List.filterMap_append, List.filterMap_cons_none lookup,
    List.filterMap_nil, List.append_nil]

theorem distinctTexts_concat_of_some {call : Call} {text : String}
    (interns : call.text? = some text) (calls : List Call) :
    distinctTexts (calls ++ [call]) =
      if text ∈ distinctTexts calls then distinctTexts calls
      else distinctTexts calls ++ [text] := by
  simp only [distinctTexts, List.filterMap_append, List.filterMap_cons_some interns,
    List.filterMap_nil, eraseDups_concat, List.mem_eraseDups]

theorem mem_distinctTexts_iff {calls : List Call} {text : String} :
    text ∈ distinctTexts calls ↔ ∃ call ∈ calls, call.text? = some text := by
  rw [distinctTexts, List.mem_eraseDups, List.mem_filterMap]

end Catalogue
end LogRecord
