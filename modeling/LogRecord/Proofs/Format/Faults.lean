import LogRecord.Format.Basic
import Mathlib.Data.List.Basic

/-! Issues as two views of the directives of a text.

The offsets and faults of the issues are those of the directives that have a fault
(`Format.faults_issuesFrom`), and their slots are the places of the invalid slots
(`Format.slots_issuesFrom`). -/

set_option autoImplicit false
namespace LogRecord

namespace Directive

/-- What makes a directive unusable, if anything does. -/
def fault? : Directive → Option Fault
  | percent => none
  | specifier read => read.conversion.fault?

theorem map_issue? (offset slot : Nat) (directive : Directive) :
    (directive.issue? offset slot).map (fun issue => (issue.offset, issue.fault)) =
      directive.fault?.map fun fault => (offset, fault) := by
  cases directive with
  | percent => rfl
  | specifier read => simp only [issue?, fault?, Option.map_map, Function.comp_def]

end Directive

theorem Directive.slots_issue? (offset slot : Nat) (directive : Directive) :
    (directive.issue? offset slot).toList.map Issue.slot =
      directive.slots.findIdxs (· == .invalid) slot := by
  cases directive with
  | percent => rfl
  | specifier read =>
    have modifiers : read.modifiers.findIdxs (· == .invalid) slot = [] := by
      rw [List.findIdxs_eq_nil_iff]
      intro modifier inside
      rcases Specifier.mem_modifiers inside with rfl | rfl <;> rfl
    rw [slots, Specifier.slots, List.findIdxs_append, modifiers, List.nil_append,
      List.findIdxs_singleton]
    cases conversion : read.conversion with
    | value | text | count | unknown _ | missing =>
      simp [issue?, Specifier.target, Conversion.fault?, conversion]

namespace Format

theorem faults_issuesFrom (slot : Nat) (directives : List Located) :
    (issuesFrom slot directives).map (fun issue => (issue.offset, issue.fault)) =
      directives.filterMap fun located =>
        located.directive.fault?.map fun fault => (located.offset, fault) := by
  induction directives generalizing slot with
  | nil => rfl
  | cons located directives ih =>
    rw [issuesFrom, List.map_append, ih, List.filterMap_cons, ← Option.toList_map,
      Directive.map_issue?]
    cases located.directive.fault? <;> rfl

theorem slots_issuesFrom (slot : Nat) (directives : List Located) :
    (issuesFrom slot directives).map Issue.slot =
      (directives.flatMap (·.directive.slots)).findIdxs (· == .invalid) slot := by
  induction directives generalizing slot with
  | nil => rfl
  | cons located directives ih =>
    rw [issuesFrom, List.map_append, ih, Directive.slots_issue?, List.flatMap_cons,
      List.findIdxs_append]

/-- An issue tells of this fault at this offset. -/
def Reports (format : Format) (offset : Nat) (fault : Fault) : Prop :=
  ∃ issue ∈ format.issues, issue.offset = offset ∧ issue.fault = fault

variable {directives : List Located}

theorem reports_iff {offset : Nat} {fault : Fault} :
    (ofDirectives directives).Reports offset fault ↔
      ∃ located ∈ directives, located.offset = offset ∧ located.directive.fault? = some fault := by
  have same := congrArg ((offset, fault) ∈ ·) (faults_issuesFrom 0 directives)
  simpa [Reports, ofDirectives, and_left_comm] using same

/-- The issues name exactly the places of the invalid slots. -/
theorem mem_issue_slots_iff {place : Nat} :
    place ∈ (ofDirectives directives).issues.map Issue.slot ↔
      (ofDirectives directives).slots[place]? = some .invalid := by
  rw [ofDirectives, slots_issuesFrom, List.mem_findIdxs_iff_exists_getElem_pos,
    List.getElem?_eq_some_iff]
  simp only [beq_iff_eq]

theorem issues_eq_nil_iff_slots :
    (ofDirectives directives).issues = [] ↔ Slot.invalid ∉ (ofDirectives directives).slots := by
  rw [← List.map_eq_nil_iff (f := Issue.slot), List.eq_nil_iff_forall_not_mem,
    List.mem_iff_getElem?, not_exists]
  exact forall_congr' fun place => not_congr mem_issue_slots_iff

end Format
end LogRecord
