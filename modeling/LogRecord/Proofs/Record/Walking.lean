import LogRecord.Proofs.Record.Measuring
import LogRecord.Record.Walk
import Mathlib.Data.List.Basic

/-! Walks over the slots and the arguments of a statement.

The precision in force at an item is the last that an earlier item has set (`inForce`), also across
items that fail (`Walk.items_eq_mapIdx`). A record has a size exactly when every step of its walk
succeeds (`recordSize_eq_ok_iff`). -/

set_option autoImplicit false
namespace LogRecord

theorem mapIdx_congr {A B C : Type} {first : List A} {second : List B} {left : Nat → A → C}
    {right : Nat → B → C} (length : first.length = second.length)
    (same : ∀ place here there, first[place]? = some here → second[place]? = some there →
      left place here = right place there) : first.mapIdx left = second.mapIdx right := by
  apply List.ext_getElem?
  intro place
  rw [List.getElem?_mapIdx, List.getElem?_mapIdx]
  by_cases inside : place < first.length
  · have here := List.getElem?_eq_getElem inside
    have there := List.getElem?_eq_getElem (length ▸ inside)
    rw [here, there, Option.map_some, Option.map_some, same place _ _ here there]
  · have outside := Nat.not_lt.mp inside
    rw [List.getElem?_eq_none outside, List.getElem?_eq_none (length ▸ outside)]
    rfl

/-! ## The precision in force -/

/-- The precision that an argument sets in its slot, if it sets one. A negative number sets that
there is no limit. -/
def Argument.setting? (slot : Slot) : Argument → Option (Option Nat)
  | scalar number =>
    if slot = .precision ∧ number.type.isInteger = true then some number.precision? else none
  | pointer _ | narrow _ _ | wide _ _ => none

/-- The precision in force behind `pairs`, where `before` is in force in front of them. -/
def inForce (before : Option Nat) (pairs : List (Slot × Argument)) : Option Nat :=
  (pairs.filterMap fun pair => pair.2.setting? pair.1).getLast?.getD before

@[simp] theorem inForce_nil (before : Option Nat) : inForce before [] = before := rfl

theorem inForce_cons (before : Option Nat) (slot : Slot) (argument : Argument)
    (pairs : List (Slot × Argument)) :
    inForce before ((slot, argument) :: pairs) =
      inForce ((argument.setting? slot).getD before) pairs := by
  cases set : argument.setting? slot with
  | none => simp [inForce, set]
  | some precision => simp [inForce, set, List.getLast?_cons]

theorem inForce_append (before : Option Nat) (first second : List (Slot × Argument)) :
    inForce before (first ++ second) = inForce (inForce before first) second := by
  induction first generalizing before with
  | nil => rfl
  | cons pair first ih =>
    rcases pair with ⟨slot, argument⟩
    rw [List.cons_append, inForce_cons, inForce_cons, ih]

theorem inForce_congr {before : Option Nat} {pairs others : List (Slot × Argument)}
    (length : pairs.length = others.length)
    (same : ∀ (place : Nat) here there, pairs[place]? = some here → others[place]? = some there →
      here.2.setting? here.1 = there.2.setting? there.1) :
    inForce before pairs = inForce before others := by
  induction pairs generalizing before others with
  | nil =>
    obtain rfl : others = [] := List.length_eq_zero_iff.mp length.symm
    rfl
  | cons here pairs ih =>
    cases others with
    | nil => contradiction
    | cons there others =>
      rcases here with ⟨slot, argument⟩
      rcases there with ⟨otherSlot, other⟩
      rw [inForce_cons, inForce_cons, same 0 _ _ rfl rfl]
      exact ih (Nat.succ.inj length) fun place here there => same (place + 1) here there

/-- What an argument sets is in force directly behind it, whatever was before. -/
theorem inForce_behind_setting {pairs : List (Slot × Argument)} {place : Nat} {slot : Slot}
    {argument : Argument} {setting : Option Nat} (found : pairs[place]? = some (slot, argument))
    (set : argument.setting? slot = some setting) (before : Option Nat) :
    inForce before (pairs.take (place + 1)) = setting := by
  rw [List.take_add_one, found, Option.toList_some, inForce_append, inForce_cons, inForce_nil, set,
    Option.getD_some]

section
variable {A : Type} (view : Slot → Option Nat → Argument → A)

/-- What `view` shows of each pair, given the precision in force in front of the pair. -/
def mapInForce (before : Option Nat) (pairs : List (Slot × Argument)) : List A :=
  pairs.mapIdx fun place pair => view pair.1 (inForce before (pairs.take place)) pair.2

@[simp] theorem mapInForce_nil (before : Option Nat) : mapInForce view before [] = [] := rfl

theorem mapInForce_cons (before : Option Nat) (slot : Slot) (argument : Argument)
    (pairs : List (Slot × Argument)) :
    mapInForce view before ((slot, argument) :: pairs) =
      view slot before argument ::
        mapInForce view ((argument.setting? slot).getD before) pairs := by
  simp only [mapInForce, List.mapIdx_cons, List.take_zero, inForce_nil, List.take_succ_cons,
    inForce_cons]

theorem mapInForce_append (before : Option Nat) (first second : List (Slot × Argument)) :
    mapInForce view before (first ++ second) =
      mapInForce view before first ++ mapInForce view (inForce before first) second := by
  induction first generalizing before with
  | nil => rfl
  | cons pair first ih =>
    rcases pair with ⟨slot, argument⟩
    rw [List.cons_append, mapInForce_cons, mapInForce_cons, inForce_cons, ih, List.cons_append]

theorem mapInForce_congr {before other : Option Nat} {pairs others : List (Slot × Argument)}
    (length : pairs.length = others.length)
    (same : ∀ place here there, pairs[place]? = some here → others[place]? = some there →
      view here.1 (inForce before (pairs.take place)) here.2 =
        view there.1 (inForce other (others.take place)) there.2) :
    mapInForce view before pairs = mapInForce view other others :=
  mapIdx_congr length same

end

theorem Slot.isValid_of_accepts {slot : Slot} {argument : Argument}
    (accepted : slot.accepts argument = true) : slot.isValid = true := by
  cases slot with
  | invalid => contradiction
  | width | precision | value | text _ => rfl

/-- An accepted argument leaves in force what it sets. -/
theorem Argument.precisionAfter_of_accepts {slot : Slot} {argument : Argument}
    (accepted : slot.accepts argument = true) (before : Option Nat) :
    argument.precisionAfter slot before = (argument.setting? slot).getD before := by
  cases argument with
  | scalar number =>
    by_cases sets : slot = .precision
    · subst sets
      have integer : number.type.isInteger = true := accepted
      simp [precisionAfter, setting?, integer]
    · simp [precisionAfter, setting?, sets]
  | pointer _ | narrow _ _ | wide _ _ => rfl

/-- An argument that its slot refuses sets nothing. -/
theorem Argument.setting?_of_not_accepts {slot : Slot} {argument : Argument}
    (refused : ¬ slot.accepts argument = true) : argument.setting? slot = none := by
  cases argument with
  | scalar number =>
    have apart : ¬ (slot = .precision ∧ number.type.isInteger = true) := by
      rintro ⟨rfl, integer⟩
      exact refused integer
    exact if_neg apart
  | pointer _ | narrow _ _ | wide _ _ => rfl

namespace Walk

/-! ## Items -/

theorem item_eq_ok_iff {index : Nat} {before : Option Nat} {slot : Slot} {argument : Argument}
    {extent : Extent} :
    item index before slot argument = .ok extent ↔
      slot.accepts argument = true ∧ Extent.measure slot before argument = .ok extent := by
  by_cases accepted : slot.accepts argument = true
  · simp [item, accepted, Slot.isValid_of_accepts accepted]
  · cases valid : slot.isValid <;> simp [item, accepted, valid]

-- Holds of failed items as well, since only an accepted integer sets a precision and measuring an
-- accepted integer cannot fail.
theorem precisionAfter_item (index : Nat) (before : Option Nat) (slot : Slot)
    (argument : Argument) :
    Extent.precisionAfter before (item index before slot argument) =
      (argument.setting? slot).getD before := by
  cases found : item index before slot argument with
  | ok extent =>
    obtain ⟨accepted, measured⟩ := item_eq_ok_iff.mp found
    obtain ⟨-, -, rfl⟩ := Extent.measure_eq_ok_iff.mp measured
    exact argument.precisionAfter_of_accepts accepted before
  | error error =>
    have unset : argument.setting? slot = none := by
      by_cases accepted : slot.accepts argument = true
      · -- A number is always measured, and nothing else sets a precision.
        cases argument with
        | scalar number =>
          have valid := Slot.isValid_of_accepts accepted
          simp [item, accepted, valid, Extent.measure] at found
        | pointer _ | narrow _ _ | wide _ _ => rfl
      · exact Argument.setting?_of_not_accepts accepted
    rw [unset]
    rfl

theorem items_cons (slot : Slot) (argument : Argument) (pairs : List (Slot × Argument))
    (index : Nat) (before : Option Nat) :
    items { pending := (slot, argument) :: pairs, index, precision := before } =
      item index before slot argument ::
        items { pending := pairs, index := index + 1
                precision := (argument.setting? slot).getD before } := by
  rw [← precisionAfter_item index]
  rfl

/-- What a failed item leaves behind does not depend on the failure. -/
theorem items_eq_mapIdx (pairs : List (Slot × Argument)) (index : Nat) (before : Option Nat) :
    items { pending := pairs, index, precision := before } =
      pairs.mapIdx fun place pair =>
        item (index + place) (inForce before (pairs.take place)) pair.1 pair.2 := by
  induction pairs generalizing index before with
  | nil => rfl
  | cons pair pairs ih =>
    rcases pair with ⟨slot, argument⟩
    rw [items_cons, ih, List.mapIdx_cons]
    simp only [List.take_zero, inForce_nil, List.take_succ_cons, inForce_cons, Nat.add_zero,
      Nat.add_assoc, Nat.add_comm 1]

/-! ## Walks that succeed -/

/-- Every step of a walk over these pairs succeeds, with these extents. -/
inductive Succeeds : Option Nat → List (Slot × Argument) → List Extent → Prop where
  | done {before : Option Nat} : Succeeds before [] []
  | step {before : Option Nat} {slot : Slot} {argument : Argument} {extent : Extent}
      {pairs : List (Slot × Argument)} {extents : List Extent} :
      slot.accepts argument = true → Extent.measure slot before argument = .ok extent →
      Succeeds ((argument.setting? slot).getD before) pairs extents →
      Succeeds before ((slot, argument) :: pairs) (extent :: extents)

-- The index is told by failures alone, so the relation does without it.
theorem items_eq_map_ok_iff {pairs : List (Slot × Argument)} {index : Nat} {before : Option Nat}
    {extents : List Extent} :
    items { pending := pairs, index, precision := before } = extents.map .ok ↔
      Succeeds before pairs extents := by
  constructor
  · intro items
    induction pairs generalizing index before extents with
    | nil =>
      obtain rfl : extents = [] := List.map_eq_nil_iff.mp items.symm
      exact .done
    | cons pair pairs ih =>
      rcases pair with ⟨slot, argument⟩
      rw [items_cons] at items
      cases extents with
      | nil => contradiction
      | cons extent extents =>
        obtain ⟨here, later⟩ := List.cons.inj items
        obtain ⟨accepted, measured⟩ := item_eq_ok_iff.mp here
        exact .step accepted measured (ih later)
  · intro succeeds
    induction succeeds generalizing index with
    | done => rfl
    | step accepted measured _ ih =>
      rw [items_cons, ih, item_eq_ok_iff.mpr ⟨accepted, measured⟩]
      rfl

theorem Succeeds.of_append {before : Option Nat} {first second : List (Slot × Argument)}
    {extents : List Extent} (succeeds : Succeeds before (first ++ second) extents) :
    ∃ head tail, extents = head ++ tail ∧ head.length = first.length ∧
      Succeeds before first head ∧ Succeeds (inForce before first) second tail := by
  induction first generalizing before extents with
  | nil => exact ⟨[], extents, rfl, rfl, .done, succeeds⟩
  | cons pair first ih =>
    cases succeeds with
    | @step _ slot argument extent _ extents accepted measured succeeds =>
      obtain ⟨head, tail, rfl, length, earlier, later⟩ := ih succeeds
      rw [inForce_cons]
      exact ⟨extent :: head, tail, rfl, congrArg Nat.succ length,
        .step accepted measured earlier, later⟩

/-- What a walk that succeeds has found at one of its pairs. -/
theorem Succeeds.at_pair {before : Option Nat} {earlier later : List (Slot × Argument)}
    {slot : Slot} {argument : Argument} {extents : List Extent}
    (succeeds : Succeeds before (earlier ++ (slot, argument) :: later) extents) :
    ∃ extent, extents[earlier.length]? = some extent ∧ slot.accepts argument = true ∧
      Extent.measure slot (inForce before earlier) argument = .ok extent := by
  obtain ⟨head, tail, rfl, length, -, rest⟩ := succeeds.of_append
  cases rest with
  | @step _ _ _ extent _ tail accepted measured _ =>
    refine ⟨extent, ?_, accepted, measured⟩
    rw [← length, List.getElem?_append_right (Nat.le_refl _), Nat.sub_self]
    rfl

theorem Succeeds.append {before : Option Nat} {first second : List (Slot × Argument)}
    {head tail : List Extent} (earlier : Succeeds before first head)
    (later : Succeeds (inForce before first) second tail) :
    Succeeds before (first ++ second) (head ++ tail) := by
  induction earlier with
  | done => exact later
  | step accepted measured _ ih =>
    rw [inForce_cons] at later
    exact .step accepted measured (ih later)

/-- A walk succeeds when each of its pairs does. -/
theorem exists_succeeds {before : Option Nat} {pairs : List (Slot × Argument)}
    (each : ∀ place slot argument, pairs[place]? = some (slot, argument) →
      slot.accepts argument = true ∧
        ∃ extent, Extent.measure slot (inForce before (pairs.take place)) argument = .ok extent) :
    ∃ extents, Succeeds before pairs extents := by
  induction pairs generalizing before with
  | nil => exact ⟨[], .done⟩
  | cons pair pairs ih =>
    rcases pair with ⟨slot, argument⟩
    obtain ⟨accepted, extent, measured⟩ := each 0 slot argument rfl
    have rest : ∀ place slot argument, pairs[place]? = some (slot, argument) → _ :=
      fun place slot argument found => each (place + 1) slot argument found
    simp only [List.take_succ_cons, inForce_cons] at rest
    obtain ⟨extents, succeeds⟩ := ih rest
    exact ⟨extent :: extents, .step accepted measured succeeds⟩

theorem Succeeds.length_eq {before : Option Nat} {pairs : List (Slot × Argument)}
    {extents : List Extent} (succeeds : Succeeds before pairs extents) :
    extents.length = pairs.length := by
  induction succeeds with
  | done => rfl
  | step _ _ _ ih => rw [List.length_cons, List.length_cons, ih]

theorem Succeeds.at_place {before : Option Nat} {pairs : List (Slot × Argument)}
    {extents : List Extent} {place : Nat} {slot : Slot} {argument : Argument}
    (succeeds : Succeeds before pairs extents) (found : pairs[place]? = some (slot, argument)) :
    ∃ extent, extents[place]? = some extent ∧ slot.accepts argument = true ∧
      Extent.measure slot (inForce before (pairs.take place)) argument = .ok extent := by
  obtain ⟨inside, here⟩ := List.getElem?_eq_some_iff.mp found
  have split : pairs = pairs.take place ++ (slot, argument) :: pairs.drop (place + 1) := by
    rw [← here, ← List.drop_eq_getElem_cons inside, List.take_append_drop]
  have length : (pairs.take place).length = place := List.length_take_of_le (Nat.le_of_lt inside)
  obtain ⟨extent, there, rest⟩ := (split ▸ succeeds).at_pair
  rw [length] at there
  exact ⟨extent, there, rest⟩

end Walk

/-! ## The size of a record -/

section
variable {E A B : Type}

theorem bind_eq_ok_iff {first : Except E A} {next : A → Except E B} {value : B} :
    first >>= next = .ok value ↔ ∃ found, first = .ok found ∧ next found = .ok value := by
  cases first with
  | error error => simp [bind, Except.bind]
  | ok found => simp [bind, Except.bind]

theorem mapM_id_eq_ok_iff {results : List (Except E A)} {values : List A} :
    results.mapM id = .ok values ↔ results = values.map .ok := by
  induction results generalizing values with
  | nil => cases values <;> simp [pure, Except.pure]
  | cons result results ih =>
    simp only [List.mapM_cons, bind_eq_ok_iff, ih, id]
    constructor
    · rintro ⟨value, rfl, others, rfl, whole⟩
      obtain rfl : value :: others = values := Except.ok.inj whole
      rfl
    · intro whole
      cases values with
      | nil => contradiction
      | cons value values =>
        obtain ⟨here, later⟩ := List.cons.inj whole
        exact ⟨value, here, values, later, rfl⟩

end

theorem recordSize_eq_ok_iff {slots : List Slot} {arguments : List Argument} {size : Nat} :
    recordSize slots arguments = .ok size ↔
      slots.length = arguments.length ∧
        ∃ extents, Walk.Succeeds none (slots.zip arguments) extents ∧
          extents.foldr (fun extent size => extent.total + size) 0 = size := by
  unfold recordSize Walk.start
  simp only [bind_eq_ok_iff, mapM_id_eq_ok_iff]
  constructor
  · rintro ⟨walk, started, extents, items, total⟩
    split at started
    next same =>
      obtain rfl := Except.ok.inj started
      exact ⟨same, extents, Walk.items_eq_map_ok_iff.mp items, Except.ok.inj total⟩
    next => contradiction
  · rintro ⟨same, extents, succeeds, total⟩
    exact ⟨_, if_pos same, extents, Walk.items_eq_map_ok_iff.mpr succeeds, congrArg _ total⟩

end LogRecord
