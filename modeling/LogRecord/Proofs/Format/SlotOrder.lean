import LogRecord.Format.Basic

/-! The order of the slots of a format.

A specifier puts the slots of its stars directly before its own, so a text slot that waits for a
precision always has it (`Format.dynamicBehindPrecision_slots`). -/

set_option autoImplicit false
namespace LogRecord

/-- Every dynamic text slot comes directly behind the slot of its precision. -/
def DynamicBehindPrecision (slots : List Slot) : Prop :=
  ∀ place : Nat, slots[place]? = some (.text .dynamic) →
    ∃ before, before + 1 = place ∧ slots[before]? = some .precision

theorem DynamicBehindPrecision.nil : DynamicBehindPrecision [] := by
  intro place found
  contradiction

theorem DynamicBehindPrecision.append {first second : List Slot}
    (left : DynamicBehindPrecision first) (right : DynamicBehindPrecision second) :
    DynamicBehindPrecision (first ++ second) := by
  intro place found
  by_cases inside : place < first.length
  · rw [List.getElem?_append_left inside] at found
    obtain ⟨before, rfl, precision⟩ := left place found
    refine ⟨before, rfl, ?_⟩
    rw [List.getElem?_append_left (Nat.lt_of_succ_lt inside), precision]
  · -- The first slot of `second` is no dynamic text, so its precision is in `second` as well.
    rw [List.getElem?_append_right (Nat.not_lt.mp inside)] at found
    obtain ⟨before, behind, precision⟩ := right _ found
    refine ⟨first.length + before, by omega, ?_⟩
    rw [List.getElem?_append_right (Nat.le_add_right _ _), Nat.add_sub_cancel_left, precision]

theorem Specifier.dynamicBehindPrecision_slots (specifier : Specifier) :
    DynamicBehindPrecision specifier.slots := by
  intro place found
  by_cases inside : place < specifier.modifiers.length
  · rw [slots, List.getElem?_append_left inside] at found
    rcases Specifier.mem_modifiers (List.mem_of_getElem? found) with same | same <;> contradiction
  · rw [slots, List.getElem?_append_right (Nat.not_lt.mp inside), List.getElem?_singleton] at found
    split at found
    next last =>
      rcases specifier with ⟨dynamicWidth, precision, conversion⟩
      cases conversion with
      | text =>
        obtain rfl : precision = .dynamic := by simpa [target] using found
        refine ⟨if dynamicWidth then 1 else 0, ?_, ?_⟩
        · cases dynamicWidth <;> simp [modifiers] at last inside ⊢ <;> omega
        · cases dynamicWidth <;> rfl
      | value | count | unknown _ | missing => simp [target] at found
    next => contradiction

theorem Format.dynamicBehindPrecision_slots (directives : List Located) :
    DynamicBehindPrecision (ofDirectives directives).slots := by
  change DynamicBehindPrecision (directives.flatMap (·.directive.slots))
  induction directives with
  | nil => exact .nil
  | cons located directives ih =>
    rw [List.flatMap_cons]
    apply DynamicBehindPrecision.append
    · cases located.directive with
      | percent => exact .nil
      | specifier read => exact read.dynamicBehindPrecision_slots
    · exact ih

end LogRecord
